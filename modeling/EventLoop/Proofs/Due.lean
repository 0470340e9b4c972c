import EventLoop.Proofs.Agreement
import EventLoop.Proofs.Armings
import EventLoop.Proofs.Kernel.Reports
import EventLoop.Proofs.Stopping

/-!
What a ready descriptor is owed, told from the table of registrations and the state of the
descriptor alone, and that this is what an event about it leads to. In between stand three
translations: from a registration to what the kernel is asked for, from the state of the descriptor
to what the kernel reports, and from a report to the two halves of an event.

* `Reactor.due` is what a descriptor is owed; `Reactor.invoked` is what half of an event leads to,
  and `callbackOf_eq_some_iff` says when it leads to a callback.
* `Agreed.exists_entry` says what a watched entry is about, and `Agreed.reported_nodup` that no two
  reported entries share a token.
* `Agreed.invoked_of_watch` and `Agreed.exists_watch_of_due` are the main statements here: an event
  about an entry leads to what the descriptor is owed, and a descriptor that is owed something has
  an entry that is ready.
-/

namespace EventLoop

open Reactor (Direction)

namespace Registration

variable {η : Type}

/-- The handler that is called for a direction at present. -/
def callee (r : Registration η) : Direction → Option η
  | .reading => r.read
  | .writing => r.armedWrite

/-- What a state of the descriptor makes due: the read handler for input, the end of it, a hang-up
or an error, then the write handler, while it is armed, for room, a hang-up or an error. -/
def due (r : Registration η) (state : Readiness) : List (η × Direction) :=
  (if state.input || state.peerClosed || state.hangUp || state.error then
    r.read.toList.map (·, .reading) else []) ++
  (if state.output || state.hangUp || state.error then
    r.armedWrite.toList.map (·, .writing) else [])

/-- A registration that asks for nothing is owed nothing. -/
lemma due_eq_nil {r : Registration η} (h : r.active.isEmpty = true) (state : Readiness) :
    r.due state = [] := by
  simp only [Interest.isEmpty, active, Bool.and_eq_true, Bool.not_eq_true',
    Option.isSome_eq_false_iff, Option.isNone_iff_eq_none, Bool.and_eq_false_iff] at h
  have hwrite : r.armedWrite = none := by
    rcases h.2 with hnone | hdisarmed
    · simp [armedWrite, hnone]
    · simp [armedWrite, hdisarmed]
  simp [due, h.1, hwrite]

/-- What is due to a registration makes its entry ready. -/
lemma any_masked_of_due {r : Registration η} {state : Readiness} (h : r.due state ≠ []) :
    (state.masked r.active).any = true := by
  by_contra hquiet
  rw [Bool.not_eq_true] at hquiet
  simp only [Readiness.any, Readiness.masked, active, Bool.or_eq_false_iff,
    Bool.and_eq_false_iff] at hquiet
  obtain ⟨⟨⟨⟨hinput, hpeer⟩, houtput⟩, hhangUp⟩, herror⟩ := hquiet
  refine h ?_
  rw [due, hhangUp, herror]
  cases hread : r.read <;> cases hwrite : r.write <;> cases harmed : r.armed <;>
    simp_all [armedWrite]

end Registration

/-- The state of a descriptor: what the file behind it is ready for. -/
def Kernel.stateOf (k : Kernel) (fd : Fd) : Readiness :=
  (k.fileOf? fd).elim .nothing k.readiness

namespace Reactor

variable {ι : Type}

/-- What a descriptor is owed: the callbacks that its state concerns, with their directions. -/
def due (r : Reactor ι) (fd : Fd) : List (CallbackId × Direction) :=
  (r.registry.get? fd).elim [] fun current => current.due (r.kernel.stateOf fd)

/-- What half of an event leads to. -/
def invoked (r : Reactor ι) (half : Token × Direction) : Option (CallbackId × Direction) :=
  (r.callbackOf half.1 half.2).map (·, half.2)

lemma callbackOf_of_entry {r : Reactor ι} (hr : r.registry.Sound) {fd : Fd}
    {current : Registration CallbackId} (hc : r.registry.get? fd = some current) (d : Direction) :
    r.callbackOf current.token d = current.callee d := by
  have hfound := hr.resolve_eq_found.mpr ⟨hc, rfl⟩
  cases d <;> simp [callbackOf, hfound, Registration.callee, Registration.armedWrite]

lemma callbackOf_eq_some_iff {r : Reactor ι} (hr : r.registry.Sound) {t : Token} {d : Direction}
    {callback : CallbackId} :
    r.callbackOf t d = some callback ↔ ∃ fd current, r.registry.get? fd = some current ∧
      current.token = t ∧ current.callee d = some callback := by
  constructor
  · intro h
    obtain ⟨fd, current, hc, rfl, -⟩ := exists_entry_of_callbackOf hr h
    exact ⟨fd, current, hc, rfl, by rwa [callbackOf_of_entry hr hc] at h⟩
  · rintro ⟨fd, current, hc, rfl, hcallee⟩
    rwa [callbackOf_of_entry hr hc]

lemma handlerOf_of_callee {r : Reactor ι} {fd : Fd} {current : Registration CallbackId}
    (hc : r.registry.get? fd = some current) {d : Direction} {callback : CallbackId}
    (h : current.callee d = some callback) : r.handlerOf fd d = some callback := by
  rw [handlerOf, hc, Option.bind_some]
  cases d with
  | reading => exact h
  | writing => exact (Registration.armedWrite_eq_some.mp h).2

/-- What a watched entry is about: a registration that asks for something, and the file that its
descriptor stands for. -/
lemma Agreed.exists_entry {r : Reactor ι} (h : Agreed r) {w : Watch} (hw : w ∈ r.kernel.watches) :
    ∃ current, r.registry.get? w.fd = some current ∧ current.token = w.token ∧
      current.active = w.interest ∧ r.kernel.fileOf? w.fd = some w.file ∧
      r.kernel.watchesOf w.fd = [w] := by
  have hmem := Kernel.mem_watchesOf hw
  obtain ⟨current, hc, hactive⟩ := h.inStep.nothingElse w hw
  obtain ⟨f, hf, hwatches⟩ := h.inStep.watched w.fd current hc hactive
  rw [← Kernel.watchesOf] at hwatches
  rw [hwatches, List.mem_singleton] at hmem
  refine ⟨current, hc, by rw [hmem], by rw [hmem], ?_, by rw [hwatches, ← hmem]⟩
  rw [hf, hmem]

/-- No two entries are about the same descriptor. -/
lemma Agreed.eq_of_fd_eq {r : Reactor ι} (h : Agreed r) {v w : Watch}
    (hv : v ∈ r.kernel.watches) (hw : w ∈ r.kernel.watches) (hfd : v.fd = w.fd) : v = w := by
  obtain ⟨-, -, -, -, -, hwatches⟩ := h.exists_entry hw
  have hmem := Kernel.mem_watchesOf hv
  rw [hfd, hwatches] at hmem
  exact List.mem_singleton.mp hmem

lemma Agreed.token_lt {r : Reactor ι} (h : Agreed r) {w : Watch} (hw : w ∈ r.kernel.watches) :
    w.token < r.registry.nextToken := by
  obtain ⟨current, hc, htoken, -⟩ := h.exists_entry hw
  exact htoken ▸ h.sound.drawn w.fd current hc

/-- No two reported entries have the same token. -/
lemma Agreed.reported_nodup {r : Reactor ι} (h : Agreed r) (hk : r.kernel.Attentive) (most : Nat) :
    ((r.kernel.reported most).map Watch.token).Nodup := by
  refine (hk.reported_nodup most).map_on fun v hv w hw htoken => ?_
  obtain ⟨hv, -⟩ := hk.ready_of_reported hv
  obtain ⟨hw, -⟩ := hk.ready_of_reported hw
  obtain ⟨current, hc, hvt, -⟩ := h.exists_entry hv
  obtain ⟨current', hc', hwt, -⟩ := h.exists_entry hw
  have hsame : current.token = current'.token := by rw [hvt, hwt, htoken]
  exact h.eq_of_fd_eq hv hw (h.sound.fd_eq hc hc' hsame)

/-- What comes of half of an event, if the event has this half. -/
lemma filterMap_invoked (r : Reactor ι) (b : Bool) (t : Token) (d : Direction) :
    (if b then [(t, d)] else []).filterMap r.invoked =
      if b then (r.callbackOf t d).toList.map (·, d) else [] := by
  cases b with
  | false => rfl
  | true => cases h : r.callbackOf t d <;> simp [invoked, h]

/-- Nothing comes of half of an event that leads nowhere. -/
lemma filterMap_invoked_eq_nil {r : Reactor ι} {b : Bool} {t : Token} {d : Direction}
    (h : b = true → r.callbackOf t d = none) :
    (if b then [(t, d)] else []).filterMap r.invoked = [] := by
  rw [filterMap_invoked]
  split
  · next hb =>
      rw [h hb]
      rfl
  · rfl

/-- **An event about an entry leads to what the descriptor is owed.** -/
theorem Agreed.invoked_of_watch {r : Reactor ι} (h : Agreed r) {w : Watch}
    (hw : w ∈ r.kernel.watches) :
    ((r.kernel.eventOf w).firstHalf ++ (r.kernel.eventOf w).secondHalf).filterMap r.invoked =
      r.due w.fd := by
  obtain ⟨current, hc, htoken, hinterest, hf, -⟩ := h.exists_entry hw
  have hcallee := callbackOf_of_entry h.sound hc
  rw [htoken] at hcallee
  rw [List.filterMap_append, Event.firstHalf, Event.secondHalf, filterMap_invoked,
    filterMap_invoked, due, hc, Option.elim_some, Kernel.stateOf, hf, Option.elim_some,
    Registration.due]
  simp only [Kernel.eventOf, Report.event, Kernel.watchReadiness, hcallee, Registration.callee,
    Readiness.masked, Readiness.readable, Readiness.writable, ← hinterest, Registration.active]
  congr 1
  · -- a hang-up is reported to a registration without a reader, too, but leads nowhere then
    cases hread : current.read <;> simp
  · cases hwrite : current.armedWrite with
    | none => simp
    | some callback =>
        obtain ⟨harmed, hhandler⟩ := Registration.armedWrite_eq_some.mp hwrite
        simp [harmed, hhandler]

/-- **A descriptor that is owed something has an entry that is ready.** -/
theorem Agreed.exists_watch_of_due {r : Reactor ι} (h : Agreed r) {fd : Fd} (hdue : r.due fd ≠ []) :
    ∃ w ∈ r.kernel.watches, w.fd = fd ∧ (r.kernel.watchReadiness w).any = true := by
  cases hc : r.registry.get? fd with
  | none =>
      rw [due, hc] at hdue
      exact absurd rfl hdue
  | some current =>
      rw [due, hc, Option.elim_some] at hdue
      have hactive : current.active.isEmpty = false := by
        by_contra hempty
        exact hdue (Registration.due_eq_nil (by simpa using hempty) _)
      obtain ⟨f, hf, hwatches⟩ := h.inStep.watched fd current hc hactive
      rw [Kernel.stateOf, hf, Option.elim_some] at hdue
      have hmem : (⟨f, fd, current.active, current.token⟩ : Watch) ∈
          r.kernel.watches.filter (·.fd == fd) := by
        rw [hwatches]
        exact List.mem_singleton.mpr rfl
      exact ⟨_, (List.mem_filter.mp hmem).1, rfl, Registration.any_masked_of_due hdue⟩

end Reactor

end EventLoop
