import EventLoop.Proofs.Attention
import EventLoop.Proofs.Batches
import EventLoop.Proofs.Due

/-!
One iteration of the driver: a wait, and the events that it brings handed out until the driver is
about to wait again.

* `Stride.Calm` is a move that changes no registration, where it is not the driver's own, and that
  neither waits nor panics; `invocations` are the callbacks that a history starts for readiness.
* `HandsOut` says what such a move comes to: it hands out some of the halves at hand, starts what
  they lead to, and disarms the write callbacks among it. `handed_out` says the same of a run.
* `iteration_calls_what_is_due` is the main statement here.
-/

namespace EventLoop

open Reactor (Direction)

namespace Registration

variable {η : Type}

/-- A registration after halves of events were handed out: a write handler that was handed its half
is disarmed. -/
def spend (r : Registration η) (halves : List (Token × Direction)) : Registration η :=
  if (r.token, .writing) ∈ halves ∧ r.write.isSome then { r with armed := false } else r

@[simp] lemma spend_token (r : Registration η) (halves : List (Token × Direction)) :
    (r.spend halves).token = r.token := by
  rw [spend]
  split <;> rfl

@[simp] lemma spend_nil (r : Registration η) : r.spend [] = r := if_neg (by simp)

lemma spend_append (r : Registration η) (halves halves' : List (Token × Direction)) :
    r.spend (halves ++ halves') = (r.spend halves).spend halves' := by
  by_cases h : (r.token, .writing) ∈ halves ∧ r.write.isSome
  · simp [spend, h]
  · simp only [spend, List.mem_append, if_neg h]
    congr 1
    simp only [or_and_right, h, false_or]

/-- Disarming a registration that has no armed write handler changes nothing. -/
lemma spend_eq_self {r : Registration η} {halves : List (Token × Direction)}
    (h : (r.token, .writing) ∈ halves → r.armedWrite = none) : r.spend halves = r := by
  rw [spend]
  split
  · next hspent =>
      have hnone := h hspent.1
      obtain ⟨handler, hhandler⟩ := Option.isSome_iff_exists.mp hspent.2
      have harmed : r.armed = false := by
        by_contra harmed
        simp [armedWrite, harmed, hhandler] at hnone
      rw [← harmed]
  · rfl

/-- Halves about others, and reading halves, leave the callees of a registration alone. -/
lemma callee_spend {r : Registration η} {halves : List (Token × Direction)} {d : Direction}
    (h : (r.token, d) ∉ halves) : (r.spend halves).callee d = r.callee d := by
  cases d with
  | reading =>
      rw [spend]
      split <;> rfl
  | writing => rw [spend_eq_self fun hmem => absurd hmem h]

end Registration

namespace Loop

open Reactor (Note Role)

variable {ι : Type}

/-- The callback that is started for readiness, if that is what happens. -/
def invocation? : Note ι → Option (CallbackId × Direction)
  | .started callback (.readiness _ d) => some (callback, d)
  | _ => none

/-- The callbacks that a history starts for readiness, with their directions. -/
def invocations (history : List (Stride ι)) : List (CallbackId × Direction) :=
  noted invocation? history

/-- A move that neither waits nor panics, and that changes no registration unless it is the driver's
own. -/
def Stride.Calm (s : Stride ι) : Prop :=
  ¬s.Waits ∧ s.move ≠ .unwind ∧ (s.move = .advance ∨
    ∀ fd, s.after.reactor.registry.get? fd = s.before.reactor.registry.get? fd)

lemma NoStart.filterMap_eq_nil {notes : List (Note ι)} (h : NoStart notes) :
    notes.filterMap invocation? = [] := by
  rw [List.filterMap_eq_nil_iff]
  intro note hmem
  cases note with
  | started callback role => exact absurd hmem (h callback role)
  | _ => rfl

/-- Where no write callback is started, no registration changes. -/
lemma map_spend_eq {r : Reactor ι} (hr : r.registry.Sound) {halves : List (Token × Direction)}
    (h : ∀ t, (t, .writing) ∈ halves → r.callbackOf t .writing = none) (fd : Fd) :
    (r.registry.get? fd).map (·.spend halves) = r.registry.get? fd := by
  cases hc : r.registry.get? fd with
  | none => rfl
  | some current =>
      rw [Option.map_some, Registration.spend_eq_self fun hmem => ?_]
      have hnone := h _ hmem
      rwa [Reactor.callbackOf_of_entry hr hc] at hnone

/-- A move hands out halves of events: it starts what they lead to, and disarms what it starts for
writing. -/
structure HandsOut (l l' : Loop ι) (notes : List (Note ι)) (now : List (Token × Direction)) :
    Prop where
  halves : l.stage.halves = now ++ l'.stage.halves
  invoked : notes.filterMap invocation? = now.filterMap l.reactor.invoked
  registry : ∀ fd, l'.reactor.registry.get? fd =
    (l.reactor.registry.get? fd).map (·.spend now)

lemma HandsOut.nothing {l l' : Loop ι} {notes : List (Note ι)}
    (halves : l.stage.halves = l'.stage.halves) (noStart : notes.filterMap invocation? = [])
    (registry : ∀ fd, l'.reactor.registry.get? fd = l.reactor.registry.get? fd) :
    HandsOut l l' notes [] where
  halves := halves
  invoked := noStart
  registry fd := by
    rw [registry]
    simp

/-- **What the driver hands out** until it waits again. -/
theorem Advance.handsOut {l l' : Loop ι} {notes : List (Note ι)} (h : Advance l l' notes)
    (hs : l.stage ≠ .head) (hl : l.reactor.registry.Sound) : ∃ now, HandsOut l l' notes now := by
  cases h with
  | stops stage _ => exact absurd stage hs
  | fails stage _ _ => exact absurd stage hs
  | wakes stage _ _ _ => exact absurd stage hs
  | collects stage _ _ _ => exact absurd stage hs
  | woke stage => exact ⟨[], .nothing (by simp [stage, Stage.halves]) rfl fun _ => rfl⟩
  | @discards w rest _ stage _ =>
      have hnotes := (noStart_discards (w :: rest)).filterMap_eq_nil (ι := ι)
      exact ⟨[], .nothing (by simp [stage, Stage.halves]) hnotes fun _ => rfl⟩
  | calls stage _ => exact ⟨[], .nothing (by simp [stage, Stage.halves]) rfl fun _ => rfl⟩
  | skips stage _ _ => exact ⟨[], .nothing (by simp [stage, Stage.halves]) rfl fun _ => rfl⟩
  | @delivers q _ _ _ _ stage _ _ =>
      refine ⟨[], .nothing (by simp [stage, Stage.halves]) rfl fun fd => ?_⟩
      rw [(l.reactor.sameRegistrations_takeDelivery q).registry]
  | turns stage => exact ⟨[], .nothing (by simp [stage, Stage.halves]) rfl fun _ => rfl⟩
  | @passesRead e rest stage nobody =>
      refine ⟨e.firstHalf, by simp [stage, Stage.halves], ?_, fun fd => ?_⟩
      · exact (Reactor.filterMap_invoked_eq_nil nobody).symm
      · exact (map_spend_eq hl (by simp [Event.firstHalf]) fd).symm
  | @reads e rest callback stage readable handler =>
      refine ⟨e.firstHalf, by simp [stage, Stage.halves], ?_, fun fd => ?_⟩
      · simp [Event.firstHalf, readable, Reactor.invoked, handler, invocation?]
      · exact (map_spend_eq hl (by simp [Event.firstHalf]) fd).symm
  | @passesWrite e rest stage nobody =>
      refine ⟨e.secondHalf, by simp [stage, Stage.halves], ?_, fun fd => ?_⟩
      · exact (Reactor.filterMap_invoked_eq_nil nobody).symm
      · refine (map_spend_eq hl (fun t ht => ?_) fd).symm
        rw [Event.secondHalf, List.mem_ite_nil_right, List.mem_singleton, Prod.mk.injEq] at ht
        obtain ⟨hwritable, rfl, -⟩ := ht
        exact nobody hwritable
  | @writes e rest fd registration callback stage writable found armed handler =>
      have hhalf : e.secondHalf = [(e.token, .writing)] := by simp [Event.secondHalf, writable]
      have hcallback : l.reactor.callbackOf e.token .writing = some callback := by
        simp [Reactor.callbackOf, found, armed, handler]
      obtain ⟨hc, htoken⟩ := hl.resolve_eq_found.mp found
      refine ⟨e.secondHalf, by simp [stage, Stage.halves], ?_, fun x => ?_⟩
      · have hnotes := (noStart_of_registration
          (ofRegistration_takeWrite l.reactor fd registration)).filterMap_eq_nil
        rw [List.filterMap_append, hnotes, hhalf]
        simp [Reactor.invoked, hcallback, invocation?]
      · rw [(l.reactor.taken fd armed handler).registry, Registry.get?_modify, hhalf]
        split
        · next hx =>
            rw [← hx, hc]
            simp [Registration.spend, htoken, handler]
        · next hx =>
            cases hreg : l.reactor.registry.get? x with
            | none => rfl
            | some other =>
                have hne : other.token ≠ e.token := by
                  intro ht
                  exact hx (hl.fd_eq hc hreg (htoken.trans ht.symm))
                simp [Registration.spend, hne]
  | mismatches _ mismatch => exact absurd mismatch (hl.resolve_ne_mismatched _ _)

/-- **What a calm move hands out.** -/
theorem Stride.Calm.handsOut {s : Stride ι} (h : s.Calm) (hs : s.before.reactor.registry.Sound) :
    ∃ now, HandsOut s.before s.after s.notes now := by
  obtain ⟨hwaits, hunwind, hkept⟩ := h
  by_cases hm : s.move = .advance
  · exact (s.advance hm).2.handsOut (fun hstage => hwaits ⟨hm, hstage⟩) hs
  · have haside := s.aside hm
    have hregistry := hkept.resolve_left hm
    refine ⟨[], .nothing ?_ haside.noStart.filterMap_eq_nil hregistry⟩
    rcases haside.stage with hstage | ⟨hm', -⟩ | ⟨-, hbefore, hafter⟩
    · rw [hstage]
    · exact absurd hm' hunwind
    · rw [hbefore, hafter]
      rfl

/-- Halves that were not handed out lead where they led before. -/
lemma invoked_eq_of_spend {r r' : Reactor ι} (hr : r.registry.Sound) (hr' : r'.registry.Sound)
    {done : List (Token × Direction)}
    (h : ∀ fd, r'.registry.get? fd = (r.registry.get? fd).map (·.spend done))
    {half : Token × Direction} (hhalf : half ∉ done) : r'.invoked half = r.invoked half := by
  obtain ⟨t, d⟩ := half
  have hcallback : r'.callbackOf t d = r.callbackOf t d := by
    refine Option.ext fun callback => ?_
    rw [Reactor.callbackOf_eq_some_iff hr', Reactor.callbackOf_eq_some_iff hr]
    simp only [h, Option.map_eq_some_iff]
    constructor
    · rintro ⟨fd, -, ⟨current, hc, rfl⟩, rfl, hcallee⟩
      rw [Registration.spend_token] at hhalf
      rw [Registration.callee_spend hhalf] at hcallee
      exact ⟨fd, current, hc, (current.spend_token done).symm, hcallee⟩
    · rintro ⟨fd, current, hc, rfl, hcallee⟩
      refine ⟨fd, _, ⟨current, hc, rfl⟩, current.spend_token done, ?_⟩
      rwa [Registration.callee_spend hhalf]
  rw [Reactor.invoked, Reactor.invoked, hcallback]

/-- **What calm moves hand out**, one after the other. -/
theorem handed_out {l : Loop ι} (hl : l.reactor.registry.Sound) (hnodup : l.stage.halves.Nodup)
    (ms : List (Move ι)) (hms : ∀ s ∈ l.strides ms, s.Calm) :
    ∃ done, l.stage.halves = done ++ (l.after ms).stage.halves ∧
      invocations (l.strides ms) = done.filterMap l.reactor.invoked ∧
      ∀ fd, (l.after ms).reactor.registry.get? fd =
        (l.reactor.registry.get? fd).map (·.spend done) := by
  refine history_rec_of_sound (P := fun past l' => (∀ s ∈ past, s.Calm) →
    ∃ done, l.stage.halves = done ++ l'.stage.halves ∧
      invocations past = done.filterMap l.reactor.invoked ∧
      ∀ fd, l'.reactor.registry.get? fd = (l.reactor.registry.get? fd).map (·.spend done))
    hl ?_ ?_ ms hms
  · intro _
    exact ⟨[], rfl, rfl, fun fd => by simp⟩
  · intro past s hs ih hcalm
    obtain ⟨done, hhalves, hinvocations, hregistry⟩ := ih fun t ht => hcalm t (by simp [ht])
    obtain ⟨now, hnow⟩ := (hcalm s (by simp)).handsOut hs
    refine ⟨done ++ now, ?_, ?_, fun fd => ?_⟩
    · rw [hhalves, hnow.halves, List.append_assoc]
    · -- what is handed out now was not handed out before
      have hfresh : ∀ half ∈ now, half ∉ done := by
        intro half hmem hdone
        rw [hhalves, hnow.halves] at hnodup
        have hdisjoint := (List.nodup_append.mp hnodup).2.2
        exact hdisjoint half hdone half (List.mem_append_left _ hmem) rfl
      have hsame : now.filterMap s.before.reactor.invoked = now.filterMap l.reactor.invoked :=
        List.filterMap_congr fun half hmem =>
          invoked_eq_of_spend hl hs hregistry (hfresh half hmem)
      rw [invocations, noted_concat, ← invocations, hinvocations, hnow.invoked, hsame,
        List.filterMap_append]
    · rw [hnow.registry, hregistry, Option.map_map]
      congr 1
      funext current
      exact (current.spend_append done now).symm

/-! ### One iteration -/

/-- No two halves of events under different tokens are the same. -/
lemma nodup_halves {events : List Event} (h : (events.map Event.token).Nodup) :
    (events.flatMap fun e => e.firstHalf ++ e.secondHalf).Nodup := by
  rw [List.nodup_flatMap]
  refine ⟨fun e _ => ?_, ?_⟩
  · rw [Event.firstHalf, Event.secondHalf]
    split <;> split <;> simp
  · refine (List.pairwise_map.mp h).imp fun {e e'} hne => ?_
    have htoken : ∀ e : Event, ∀ half ∈ e.firstHalf ++ e.secondHalf, half.1 = e.token := by
      intro e half hmem
      rw [Event.firstHalf, Event.secondHalf, List.mem_append, List.mem_ite_nil_right,
        List.mem_ite_nil_right, List.mem_singleton, List.mem_singleton] at hmem
      rcases hmem with ⟨-, rfl⟩ | ⟨-, rfl⟩ <;> rfl
    intro half hhalf hhalf'
    exact hne ((htoken e half hhalf).symm.trans (htoken e' half hhalf'))

/-- What a wait comes to that brings events. -/
lemma Stride.Collects.polled {s : Stride ι} {events : List Event} (h : s.Collects events) :
    s.before.reactor.kernel.watchingBroken = false ∧
      (∃ k batch, s.before.reactor.kernel.poll s.before.reactor.capacity = .ok (k, batch) ∧
        events = batch.events) ∧
      s.after.stage.halves = events.flatMap (fun e => e.firstHalf ++ e.secondHalf) ∧
      s.after.reactor.registry = s.before.reactor.registry ∧
      s.notes.filterMap invocation? = [] := by
  obtain ⟨⟨hm, hstage⟩, hafter⟩ := h
  obtain ⟨hidle, hadvance⟩ := s.advance hm
  have hnotes (hactive : s.after.active = none) : s.notes.filterMap invocation? = [] := by
    refine NoStart.filterMap_eq_nil fun callback role hmem => ?_
    rw [started_mem_iff_of_advance hadvance hidle, hactive] at hmem
    cases hmem
  rcases hadvance.of_head hstage with ⟨-, hout⟩ | ⟨k, batch, -, hpoll, ⟨-, heq⟩ | ⟨-, heq⟩⟩
  · simp [hout] at hafter
  · obtain rfl : events = batch.events := by simpa [heq, eq_comm] using hafter
    exact ⟨Kernel.poll_unbroken hpoll, ⟨k, batch, hpoll, rfl⟩, by simp [heq, Stage.halves],
      by rw [heq], hnotes (by rw [heq, hidle])⟩
  · obtain rfl : events = batch.events := by simpa [heq, eq_comm] using hafter
    exact ⟨Kernel.poll_unbroken hpoll, ⟨k, batch, hpoll, rfl⟩, by simp [heq, Stage.halves],
      by rw [heq], hnotes (by rw [heq, hidle])⟩

/-- What a wait brings, where the table and the kernel agree: the events of the reported entries,
with no half of an event twice, and these halves lead to what the descriptors are owed. -/
lemma Stride.Collects.batch {s : Stride ι} {events : List Event} (h : s.Collects events)
    (hagreed : s.before.reactor.Agreed) (hattentive : s.before.reactor.kernel.Attentive)
    (htokens : s.before.reactor.registry.nextToken ≤ .wakeup) :
    events = (s.before.reactor.kernel.reported s.before.reactor.capacity).map
        s.before.reactor.kernel.eventOf ∧
      s.after.stage.halves.Nodup ∧
      s.after.stage.halves.filterMap s.before.reactor.invoked =
        (s.before.reactor.kernel.reported s.before.reactor.capacity).flatMap
          (fun w => s.before.reactor.due w.fd) := by
  obtain ⟨-, ⟨k, batch, hpoll, rfl⟩, hhalves, -, -⟩ := h.polled
  have htoken : ∀ w ∈ s.before.reactor.kernel.watches, w.token ≠ .wakeup := by
    intro w hw
    exact Nat.ne_of_lt (Nat.lt_of_lt_of_le (hagreed.token_lt hw) htokens)
  have hevents := Kernel.poll_events htoken hpoll
  refine ⟨hevents, ?_, ?_⟩
  · rw [hhalves]
    refine nodup_halves ?_
    rw [hevents, List.map_map]
    exact hagreed.reported_nodup hattentive _
  · rw [hhalves, hevents, List.flatMap_map, List.filterMap_flatMap]
    refine List.flatMap_congr fun w hw => ?_
    exact hagreed.invoked_of_watch (hattentive.ready_of_reported hw).1

/-- Different halves of events lead to different callbacks, or to one of them in different
directions. -/
lemma half_eq_of_invoked {kernel : Kernel} {capacity : Nat} {ms : List (Move ι)}
    {half half' : Token × Direction} {call : CallbackId × Direction}
    (h : ((start kernel capacity).after ms).reactor.invoked half = some call)
    (h' : ((start kernel capacity).after ms).reactor.invoked half' = some call) :
    half = half' := by
  have hsound := sound_after kernel capacity ms
  obtain ⟨t, d⟩ := half
  obtain ⟨t', d'⟩ := half'
  simp only [Reactor.invoked, Option.map_eq_some_iff] at h h'
  obtain ⟨callback, hcallback, rfl⟩ := h
  obtain ⟨callback', hcallback', heq⟩ := h'
  obtain ⟨rfl, rfl⟩ := Prod.mk.inj heq
  obtain ⟨fd, current, hc, rfl, hcallee⟩ :=
    (Reactor.callbackOf_eq_some_iff hsound).mp hcallback
  obtain ⟨fd', current', hc', rfl, hcallee'⟩ :=
    (Reactor.callbackOf_eq_some_iff hsound).mp hcallback'
  obtain rfl := fd_eq_of_handlerOf kernel capacity ms (Reactor.handlerOf_of_callee hc hcallee)
    (Reactor.handlerOf_of_callee hc' hcallee')
  rw [hc] at hc'
  cases hc'
  rfl

/-- What halves of events disarm is what they lead to. -/
lemma spend_eq_ite {kernel : Kernel} {capacity : Nat} {ms : List (Move ι)} {r : Reactor ι}
    (hr : ((start kernel capacity).after ms).reactor = r) {fd : Fd}
    {current : Registration CallbackId} (hc : r.registry.get? fd = some current)
    (halves : List (Token × Direction)) :
    current.spend halves =
      if current.armedWrite.any fun callback => (callback, .writing) ∈ halves.filterMap r.invoked
      then { current with armed := false } else current := by
  subst hr
  have hcallee := Reactor.callbackOf_of_entry (sound_after kernel capacity ms) hc .writing
  cases hw : current.armedWrite with
  | none => exact Registration.spend_eq_self fun _ => hw
  | some callback =>
      have hinvoked : ((start kernel capacity).after ms).reactor.invoked
          (current.token, .writing) = some (callback, .writing) := by
        simp [Reactor.invoked, hcallee, Registration.callee, hw]
      have hmem : (callback, .writing) ∈
          halves.filterMap ((start kernel capacity).after ms).reactor.invoked ↔
            (current.token, .writing) ∈ halves := by
        rw [List.mem_filterMap]
        constructor
        · rintro ⟨half, hhalf, hcall⟩
          rwa [← half_eq_of_invoked hcall hinvoked]
        · exact fun hhalf => ⟨_, hhalf, hinvoked⟩
      obtain ⟨-, hhandler⟩ := Registration.armedWrite_eq_some.mp hw
      simp [Registration.spend, hmem, hhandler]

/-- **An iteration calls exactly what is due.** Let no descriptor with a registration have been
closed, let a wait bring events, and let the driver come back to its head by moves that change no
registration but through the driver itself, without a panic. Then the events are those of the
reported entries; the callbacks started for readiness are, for one reported entry after the other,
what its descriptor is owed by its state at the wait, whatever this is: a source can be in any
state. None is started twice; exactly the armed write callbacks among them are disarmed; and if all
ready entries fit into a batch, everything that is owed to any descriptor is started. Tokens count
up from zero, and the largest one of 64 bits is the wakeup counter's: it is assumed that no
registration has got so far. -/
theorem iteration_calls_what_is_due (limit : Option Nat) (capacity : Nat) (ms : List (Move ι))
    (past middle : List (Stride ι)) (wait : Stride ι) (events : List Event)
    (cut : (start (.boot limit) capacity).strides ms = past ++ wait :: middle)
    (kept : ∀ s ∈ past, ∀ fd, s.move = .file (.close fd) →
      s.before.reactor.registry.get? fd = none)
    (tokens : wait.before.reactor.registry.nextToken ≤ .wakeup)
    (collects : wait.Collects events) (calm : ∀ s ∈ middle, s.Calm)
    (turned : ((start (.boot limit) capacity).after ms).stage = .head) :
    events = (wait.before.reactor.kernel.reported wait.before.reactor.capacity).map
        wait.before.reactor.kernel.eventOf ∧
      invocations (wait :: middle) =
        (wait.before.reactor.kernel.reported wait.before.reactor.capacity).flatMap
          (fun w => wait.before.reactor.due w.fd) ∧
      (invocations (wait :: middle)).Nodup ∧
      (∀ fd, ((start (.boot limit) capacity).after ms).reactor.registry.get? fd =
        (wait.before.reactor.registry.get? fd).map fun current =>
          if current.armedWrite.any fun callback =>
            (callback, .writing) ∈ invocations (wait :: middle)
          then { current with armed := false } else current) ∧
      (wait.before.reactor.kernel.readyEntries ≤ wait.before.reactor.capacity →
        ∀ fd, ∀ call ∈ wait.before.reactor.due fd, call ∈ invocations (wait :: middle)) := by
  obtain ⟨ms₁, ms₂, rfl, hbefore, rfl, hend⟩ := exists_moves_of_strides_eq cut
  obtain ⟨hunbroken, -, -, hregistry, hnotes⟩ := collects.polled
  rw [← hbefore] at hunbroken
  have hagreed := agreed_of_unbroken limit capacity ms₁ kept hunbroken
  have hattentive := attentive_after (l := start (.boot limit) capacity)
    (Kernel.attentive_boot limit) ms₁ (ι := ι)
  rw [hbefore] at hagreed hattentive
  obtain ⟨hevents, hnodup, hdue⟩ := collects.batch hagreed hattentive tokens
  -- at the head again, all halves of the events have been handed out
  have hsound : wait.after.reactor.registry.Sound := hregistry ▸ hagreed.sound
  obtain ⟨done, hdone, hinvocations, htable⟩ := handed_out hsound hnodup ms₂ calm
  rw [hend, turned, Stage.halves, List.append_nil] at hdone
  have hinvoked : wait.after.reactor.invoked = wait.before.reactor.invoked := by
    funext half
    simp only [Reactor.invoked, Reactor.callbackOf, hregistry]
  have hcalls : invocations (wait :: wait.after.strides ms₂) =
      done.filterMap wait.before.reactor.invoked := by
    rw [← hinvoked, ← hinvocations, invocations, invocations, noted_cons, hnotes]
    rfl
  rw [hdone, ← hcalls] at hdue
  refine ⟨hevents, hdue, ?_, fun fd => ?_, fun hroom fd call hcall => ?_⟩
  · rw [hcalls]
    refine (hdone ▸ hnodup).filterMap fun half half' call h h' => ?_
    rw [← hbefore] at h h'
    exact half_eq_of_invoked h h'
  · rw [← hend, htable, hregistry, hcalls]
    refine Option.map_congr fun current hc => ?_
    exact spend_eq_ite (congrArg Loop.reactor hbefore) hc done
  · rw [hdue]
    obtain ⟨w, hw, rfl, hready⟩ := hagreed.exists_watch_of_due (List.ne_nil_of_mem hcall)
    exact List.mem_flatMap.mpr ⟨w, hattentive.mem_reported hroom hw hready, hcall⟩

/-! ### Hang-ups that cross over

Three connections: a shared callback that asked to write again, a read callback beside a write
callback that did not, and a write callback alone that did. The peers of the latter two hang up,
which every event then tells to both sides. And three sources, with a read callback, a write
callback and another read callback, which are ready for nothing but a hang-up, an error and the end
of the input.
-/

namespace CrossingOver

/-- The registrations, and a first iteration that calls and disarms the write callbacks. -/
def first : List (Move Unit) :=
  [.file (.pair 100 101), .file (.pair 102 103), .file (.pair 104 105),
    .file (.source 106 .nothing), .file (.source 107 .nothing), .file (.source 108 .nothing),
    .add 100 .both, .add 102 .readOnly,
    .add 102 .writeOnly, .add 104 .writeOnly, .add 106 .readOnly, .add 107 .writeOnly,
    .add 108 .readOnly, .enter, .advance, .advance, .advance, .finish, .advance, .advance, .finish,
    .advance, .advance, .finish, .advance]

/-- What happens before the second wait. -/
def begin : List (Move Unit) :=
  first ++ [.requestWrite 100, .requestWrite 104, .file (.write 101 [120]), .file (.close 103),
    .file (.close 105), .file (.become 106 { Readiness.nothing with hangUp := true }),
    .file (.become 107 { Readiness.nothing with error := true }),
    .file (.become 108 { Readiness.nothing with peerClosed := true })]

/-- The second wait. -/
def wait : Stride Unit := stride ((start (.boot none) 64).after begin) .advance rfl

/-- What the driver does then, up to its head. -/
def driving : List (Move Unit) :=
  [.advance, .finish, .advance, .finish, .advance, .finish, .advance, .advance, .advance, .finish,
    .advance, .finish, .advance, .advance, .advance, .finish, .advance, .finish, .advance, .advance]

def events : List Event :=
  [⟨0, true, true⟩, ⟨1, true, true⟩, ⟨2, true, true⟩, ⟨3, true, true⟩, ⟨4, true, true⟩,
    ⟨5, true, false⟩]

lemma cut : (start (.boot none) 64).strides (begin ++ .advance :: driving) =
    (start (.boot none) 64).strides begin ++ wait :: wait.after.strides driving := by
  rw [strides_append]
  exact congrArg _ (strides_cons_stride wait driving)

/-- The number that a move closes. -/
def closed? : Move Unit → Option Fd
  | .file (.close fd) => some fd
  | _ => none

lemma kept : ∀ s ∈ (start (.boot none) 64).strides begin, ∀ fd, s.move = .file (.close fd) →
    s.before.reactor.registry.get? fd = none := by
  have hall : ((start (.boot none) 64).strides begin).all (fun s =>
      (closed? s.move).all fun fd => (s.before.reactor.registry.get? fd).isNone) = true := rfl
  intro s hs fd hm
  have hclose := List.all_eq_true.mp hall s hs
  simpa [hm, closed?] using hclose

lemma collects : wait.Collects events := ⟨⟨rfl, rfl⟩, .inl rfl⟩

lemma calm : ∀ s ∈ wait.after.strides driving, s.Calm := by
  have hall : (wait.after.strides driving).all (fun s =>
      match s.move with
      | .advance => s.before.stage ≠ .head
      | .finish => true
      | _ => false) = true := rfl
  intro s hs
  have hdriving := List.all_eq_true.mp hall s hs
  cases hm : s.move with
  | advance =>
      have hstage : s.before.stage ≠ .head := by simpa [hm] using hdriving
      exact ⟨fun h => hstage h.2, by simp [hm], .inl hm⟩
  | finish =>
      have hregistry : s.after.reactor.registry = s.before.reactor.registry :=
        s.registry_eq (by simp [hm]) (by simp [hm]) (by simp [hm]) (by simp [hm])
      exact ⟨fun h => by simp [h.1] at hm, by simp [hm], .inr fun fd => by rw [hregistry]⟩
  | _ => simp [hm] at hdriving

end CrossingOver

/-- Both sides of the shared callback, the reader without its disarmed neighbour, the writer that is
told about a hang-up, and the callbacks of all three sources are called; and the one that was
disarmed stays as it is. -/
theorem iteration_calls_what_is_due_crossing_over :
    (start (.boot none) 64).strides (CrossingOver.begin ++ .advance :: CrossingOver.driving) =
        (start (.boot none) 64).strides CrossingOver.begin ++
          CrossingOver.wait :: CrossingOver.wait.after.strides CrossingOver.driving ∧
      (∀ s ∈ (start (.boot none) 64).strides CrossingOver.begin, ∀ fd,
        s.move = .file (.close fd) → s.before.reactor.registry.get? fd = none) ∧
      CrossingOver.wait.before.reactor.registry.nextToken ≤ .wakeup ∧
      CrossingOver.wait.Collects CrossingOver.events ∧
      (∀ s ∈ CrossingOver.wait.after.strides CrossingOver.driving, s.Calm) ∧
      ((start (.boot none) 64).after
        (CrossingOver.begin ++ .advance :: CrossingOver.driving)).stage = .head ∧
      invocations (CrossingOver.wait :: CrossingOver.wait.after.strides CrossingOver.driving) =
        [(0, .reading), (0, .writing), (1, .reading), (3, .writing), (4, .reading), (5, .writing),
          (6, .reading)] ∧
      ((start (.boot none) 64).after
        (CrossingOver.begin ++ .advance :: CrossingOver.driving)).reactor.registry.get? 102 =
          some ⟨1, some 1, some 2, false⟩ ∧
      ((start (.boot none) 64).after
        (CrossingOver.begin ++ .advance :: CrossingOver.driving)).reactor.registry.get? 104 =
          some ⟨2, none, some 3, false⟩ := by
  have htokens : CrossingOver.wait.before.reactor.registry.nextToken ≤ .wakeup := by decide
  have hall := iteration_calls_what_is_due none 64 _ _ _ _ _ CrossingOver.cut CrossingOver.kept
    htokens CrossingOver.collects CrossingOver.calm rfl
  have hcalls := hall.2.1.trans
    (show _ = [(0, .reading), (0, .writing), (1, .reading), (3, .writing), (4, .reading),
      (5, .writing), (6, .reading)] from rfl)
  have htable := hall.2.2.2.1
  rw [hcalls] at htable
  refine ⟨CrossingOver.cut, CrossingOver.kept, htokens, CrossingOver.collects, CrossingOver.calm,
    rfl, hcalls, ?_, ?_⟩
  · exact (htable 102).trans rfl
  · exact (htable 104).trans rfl

end Loop

end EventLoop
