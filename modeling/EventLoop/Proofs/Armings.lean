import EventLoop.Proofs.Dispatch

/-!
Write callbacks are one-shot. A write callback is armed when it is added and whenever it is asked
for while it is disarmed; each of its starts uses up one arming, and nothing else but its removal
does.

* `Reactor.armedOf` is the write callback of a descriptor while it is armed; each outcome of an
  operation comes with a lemma that says what it does to it.
* `Stride.Arms`, `Stride.Writes` and `Stride.Withdraws` are what arms a write callback, what starts
  it and what removes it while it is armed.
* `Stride.armedOf_eq_some` says what one move does, and `arming_balance` what a run does.
* `writes_use_up_armings` is the main statement here.
-/

namespace EventLoop

namespace Registration

variable {η : Type}

/-- The write handler of a registration, while it is armed. -/
def armedWrite (r : Registration η) : Option η := if r.armed then r.write else none

lemma armedWrite_eq_some {r : Registration η} {h : η} :
    r.armedWrite = some h ↔ r.armed = true ∧ r.write = some h := by
  simp [armedWrite]

@[simp] lemma armedWrite_add (r : Registration η) (i : Interest) (h : η) :
    (r.add i h).armedWrite = if i.write then some h else r.armedWrite := by
  rcases i with ⟨_, _ | _⟩ <;> simp [add, armedWrite]

@[simp] lemma armedWrite_drop (r : Registration η) (i : Interest) :
    (r.drop i).armedWrite = if i.write then none else r.armedWrite := by
  rcases i with ⟨_, _ | _⟩ <;> simp [drop, armedWrite]

end Registration

namespace Reactor

variable {ι : Type}

/-- The write callback of a descriptor, while it is armed. -/
def armedOf (r : Reactor ι) (fd : Fd) : Option CallbackId :=
  (r.registry.get? fd).bind Registration.armedWrite

lemma armedOf_eq_some {r : Reactor ι} {fd : Fd} {callback : CallbackId} :
    r.armedOf fd = some callback ↔ ∃ current, r.registry.get? fd = some current ∧
      current.armed = true ∧ current.write = some callback := by
  simp [armedOf, Option.bind_eq_some_iff, Registration.armedWrite_eq_some]

lemma handlerOf_of_armedOf {r : Reactor ι} {fd : Fd} {callback : CallbackId}
    (h : r.armedOf fd = some callback) : r.handlerOf fd .writing = some callback := by
  obtain ⟨current, entry, -, handler⟩ := armedOf_eq_some.mp h
  rw [handlerOf, entry]
  exact handler

lemma currentOrFresh_armedWrite (r : Reactor ι) (fd : Fd) :
    (r.registry.currentOrFresh fd).2.armedWrite = r.armedOf fd := by
  rw [armedOf]
  cases hc : r.registry.get? fd with
  | none => simp [Registry.currentOrFresh_of_none hc, Registration.armedWrite, Registration.fresh]
  | some current => simp [Registry.currentOrFresh_of_some hc]

/-- A registration goes on under another flag. -/
lemma armedOf_modify {r r' : Reactor ι} {fd : Fd} {current : Registration CallbackId}
    {armed : Bool} (entry : r.registry.get? fd = some current)
    (h : r'.registry = r.registry.modify fd fun _ => { current with armed }) (x : Fd) :
    r'.armedOf x = if fd = x then (if armed then current.write else none) else r.armedOf x := by
  unfold armedOf
  rw [h, Registry.get?_modify]
  split
  · rw [entry]
    rfl
  · rfl

lemma armedOf_dropped {r r' : Reactor ι} {fd : Fd} {current : Registration CallbackId}
    {i : Interest} (entry : r.registry.get? fd = some current)
    (h : r'.registry = dropped r.registry fd (current.drop i)) (x : Fd) :
    r'.armedOf x = if fd = x ∧ i.write = true then none else r.armedOf x := by
  unfold armedOf
  rw [h, dropped_get?]
  by_cases hx : fd = x
  · subst hx
    rw [if_pos rfl, entry]
    split
    · next he =>
        -- nothing is left, so there is no write callback but one that was dropped
        have hnone : (current.drop i).write = none := Registration.isEmpty_iff.mp he .writing
        have hdrop : (current.drop i).armedWrite = none := by
          simp [Registration.armedWrite, hnone]
        rw [Registration.armedWrite_drop] at hdrop
        simpa using hdrop.symm
    · simp
  · simp [hx]

/-- An added write callback is armed, and there was none before. -/
lemma Added.armedOf {r r' : Reactor ι} {fd : Fd} {i : Interest} {callback : CallbackId} {b : Bool}
    (h : Added r fd i callback r' b) (x : Fd) :
    r'.armedOf x = (if b = true ∧ fd = x ∧ i.write = true then some callback else r.armedOf x) ∧
      (b = true → i.write = true → r.armedOf fd = none) := by
  cases h with
  | refused kept =>
      refine ⟨?_, nofun⟩
      rcases kept with rfl | rfl <;> simp [Reactor.armedOf]
  | added _ apart _ =>
      refine ⟨?_, fun _ hw => ?_⟩
      · by_cases hx : fd = x
        · subst hx
          simp [Reactor.armedOf, currentOrFresh_armedWrite]
        · simp [Reactor.armedOf, hx]
      · have hnone : (r.registry.currentOrFresh fd).2.write = none := by
          simp only [Registration.overlaps, hw, Bool.true_and, Bool.or_eq_false_iff] at apart
          simpa using apart.2
        rw [← currentOrFresh_armedWrite, Registration.armedWrite, hnone, ite_self]

/-- Removing callbacks disarms those that are removed. -/
lemma Removed.armedOf {r r' : Reactor ι} {fd : Fd} {i : Interest} {b : Bool}
    (h : Removed r fd i r' b) (x : Fd) :
    r'.armedOf x = if b = true ∧ fd = x ∧ i.write = true then none else r.armedOf x := by
  cases h with
  | refused => simp
  | removed entry _ _ => simpa using armedOf_dropped entry rfl x
  | gone entry _ _ _ _ => simpa using armedOf_dropped entry rfl x

/-- A write callback that is asked for is armed then. -/
lemma Requested.armedOf {r r' : Reactor ι} {fd : Fd} {b : Bool} (h : Requested r fd r' b)
    (x : Fd) :
    r'.armedOf x = if b = true ∧ fd = x then r.handlerOf fd .writing else r.armedOf x := by
  cases h with
  | refused => simp
  | already entry _ armed =>
      split
      · next hx =>
          rw [← hx.2]
          simp [Reactor.armedOf, Reactor.handlerOf, entry, Registration.armedWrite, armed,
            Registration.handler]
      · rfl
  | armed entry _ _ _ =>
      rw [armedOf_modify entry rfl]
      simp [Reactor.handlerOf, entry, Registration.handler]

/-- A write callback that is picked is disarmed, whether the kernel can be told or not. -/
lemma Taken.armedOf {r r' : Reactor ι} {fd : Fd} {current : Registration CallbackId}
    (h : Taken r fd current r') (entry : r.registry.get? fd = some current) (x : Fd) :
    r'.armedOf x = if fd = x then none else r.armedOf x := by
  rw [armedOf_modify entry h.registry]
  simp

end Reactor

namespace Loop

open Reactor (Note Direction)

variable {ι : Type}

/-! ### What arms and what disarms -/

/-- The move arms a write callback: it adds it, or it asks for it successfully while it is
disarmed. -/
def Stride.Arms (s : Stride ι) (fd : Fd) (callback : CallbackId) : Prop :=
  s.Adds fd .writing callback ∨
    s.move = .requestWrite fd ∧ s.reply = .flag true ∧
      s.before.reactor.handlerOf fd .writing = some callback ∧
      s.before.reactor.armedOf fd = none

/-- The move starts a callback for the writability of a descriptor. -/
def Stride.Writes (s : Stride ι) (fd : Fd) (callback : CallbackId) : Prop :=
  ∃ current, s.before.reactor.registry.get? fd = some current ∧
    s.Starts callback (.readiness current.token .writing)

/-- The move removes a write callback that is armed. -/
def Stride.Withdraws (s : Stride ι) (fd : Fd) (callback : CallbackId) : Prop :=
  s.Removes fd .writing ∧ s.before.reactor.armedOf fd = some callback

lemma Stride.not_writes {s : Stride ι} (hm : s.move ≠ .advance) (fd : Fd)
    (callback : CallbackId) : ¬s.Writes fd callback := by
  rintro ⟨current, -, hstarts⟩
  exact hm hstarts.advance.1

/-- A write callback is started by a move of the driver that picks it, and it was armed. -/
lemma Advance.writes_iff {l l' : Loop ι} {notes : List (Note ι)} (h : Advance l l' notes)
    (hl : l.active = none) (hsound : l.reactor.registry.Sound) (fd : Fd)
    (callback : CallbackId) :
    (l'.reactor.armedOf fd = some callback ↔ l.reactor.armedOf fd = some callback ∧
      ¬∃ current, l.reactor.registry.get? fd = some current ∧
        l'.active = some ⟨callback, .readiness current.token .writing⟩) ∧
    ∀ current, l.reactor.registry.get? fd = some current →
      l'.active = some ⟨callback, .readiness current.token .writing⟩ →
      l.reactor.armedOf fd = some callback := by
  rcases h.registry hl with ⟨hregistry, hnone⟩ | ⟨t, x, registration, c, found, armed, handler,
    hreactor, hactive⟩
  · have hsame : l'.reactor.armedOf fd = l.reactor.armedOf fd := by
      rw [Reactor.armedOf, Reactor.armedOf, hregistry]
    rw [hsame]
    refine ⟨⟨fun h => ⟨h, ?_⟩, fun h => h.1⟩, fun current _ hactive => ?_⟩
    · rintro ⟨current, -, hactive⟩
      exact hnone _ _ hactive
    · exact absurd hactive (hnone _ _)
  · obtain ⟨entry, rfl⟩ := hsound.resolve_eq_found.mp found
    have hbefore : l.reactor.armedOf x = some c :=
      Reactor.armedOf_eq_some.mpr ⟨registration, entry, armed, handler⟩
    have hafter := (l.reactor.taken x armed handler).armedOf entry fd
    rw [← hreactor] at hafter
    -- the callback that is started is the one of the descriptor with the token
    have hstarted : ∀ current, l.reactor.registry.get? fd = some current →
        l'.active = some ⟨callback, .readiness current.token .writing⟩ →
        x = fd ∧ c = callback := by
      intro current hc hactive'
      rw [hactive] at hactive'
      simp only [Option.some.injEq, Activation.mk.injEq, Reactor.Role.readiness.injEq] at hactive'
      exact ⟨hsound.fd_eq entry hc hactive'.2.1, hactive'.1⟩
    refine ⟨?_, fun current hc hactive' => ?_⟩
    · rw [hafter]
      by_cases hx : x = fd
      · subst hx
        rw [if_pos rfl, hbefore]
        refine ⟨nofun, fun ⟨hcallback, hnot⟩ => absurd ⟨registration, entry, ?_⟩ hnot⟩
        rw [hactive, Option.some.inj hcallback]
      · rw [if_neg hx]
        refine ⟨fun h => ⟨h, ?_⟩, fun h => h.1⟩
        rintro ⟨current, hc, hactive'⟩
        exact hx (hstarted current hc hactive').1
    · obtain ⟨rfl, rfl⟩ := hstarted current hc hactive'
      exact hbefore

lemma Stride.writes_iff_active {s : Stride ι} (hm : s.move = .advance) {fd : Fd}
    {callback : CallbackId} :
    s.Writes fd callback ↔ ∃ current, s.before.reactor.registry.get? fd = some current ∧
      s.after.active = some ⟨callback, .readiness current.token .writing⟩ := by
  obtain ⟨hidle, hadvance⟩ := s.advance hm
  simp only [Stride.Writes, Stride.Starts, started_mem_iff_of_advance hadvance hidle]

/-- A write callback that is started was armed. -/
lemma Stride.Writes.armed {s : Stride ι} (hs : s.before.reactor.registry.Sound) {fd : Fd}
    {callback : CallbackId} (h : s.Writes fd callback) :
    s.before.reactor.armedOf fd = some callback := by
  have hm : s.move = .advance := by
    by_contra hm
    exact Stride.not_writes hm fd callback h
  obtain ⟨hidle, hadvance⟩ := s.advance hm
  obtain ⟨current, hc, hactive⟩ := (Stride.writes_iff_active hm).mp h
  exact (hadvance.writes_iff hidle hs fd callback).2 current hc hactive

/-- A write callback that is armed by a move was disarmed, or there was none. -/
lemma Stride.Arms.disarmed {s : Stride ι} {fd : Fd} {callback : CallbackId}
    (h : s.Arms fd callback) : s.before.reactor.armedOf fd = none := by
  rcases h with hadds | ⟨-, -, -, hnone⟩
  · obtain ⟨i, hm, hcovers, hreply, -⟩ := hadds
    obtain ⟨b, hb, hadded⟩ := Stride.added hm
    rw [hreply] at hb
    cases hb
    exact (hadded.armedOf fd).2 rfl hcovers
  · exact hnone

/-- **What one move does to the write callback of a descriptor**: it is armed afterwards if the move
arms it, or if it was armed before and the move neither starts nor removes it. -/
theorem Stride.armedOf_eq_some {s : Stride ι} (hs : s.before.reactor.registry.Sound) (fd : Fd)
    (callback : CallbackId) :
    s.after.reactor.armedOf fd = some callback ↔ s.Arms fd callback ∨
      s.before.reactor.armedOf fd = some callback ∧ ¬s.Writes fd callback ∧
        ¬s.Removes fd .writing := by
  by_cases hadvance : s.move = .advance
  · obtain ⟨hidle, h⟩ := s.advance hadvance
    have hremoves := s.not_removes (by simp [hadvance]) fd .writing
    have hadds := s.not_adds (by simp [hadvance]) fd .writing callback
    rw [(h.writes_iff hidle hs fd callback).1, ← Stride.writes_iff_active hadvance]
    simp [Stride.Arms, hadds, hadvance, hremoves]
  have hwrites := Stride.not_writes hadvance fd callback
  by_cases hadd : ∃ x i, s.move = .add x i
  · obtain ⟨x, i, hm⟩ := hadd
    obtain ⟨b, hb, hadded⟩ := Stride.added hm
    have hremoves := s.not_removes (by simp [hm]) fd .writing
    have hadds := Stride.adds_iff hm hb fd .writing callback
    rw [(hadded.armedOf fd).1, Stride.Arms, hadds]
    by_cases h : b = true ∧ x = fd ∧ i.write = true
    · have hnone : s.before.reactor.armedOf fd = none :=
        h.2.1 ▸ (hadded.armedOf fd).2 h.1 h.2.2
      simp [h, hm, hnone, Interest.covers]
    · simp [h, hm, hwrites, hremoves, Interest.covers]
  by_cases hremove : ∃ x i, s.move = .remove x i
  · obtain ⟨x, i, hm⟩ := hremove
    obtain ⟨b, hb, hremoved⟩ := Stride.removed hm
    have hadds := s.not_adds (by simp [hm]) fd .writing callback
    have hremoves := Stride.removes_iff hm hb fd .writing
    rw [hremoved.armedOf fd]
    by_cases h : b = true ∧ x = fd ∧ i.write = true
    · simp [h, hm, hadds, hremoves, Stride.Arms, Interest.covers]
    · simp [h, hm, hadds, hremoves, hwrites, Stride.Arms, Interest.covers]
  by_cases hrequest : ∃ x, s.move = .requestWrite x
  · obtain ⟨x, hm⟩ := hrequest
    obtain ⟨b, hb, hrequested⟩ := Stride.requested hm
    have hadds := s.not_adds (by simp [hm]) fd .writing callback
    have hremoves := s.not_removes (by simp [hm]) fd .writing
    rw [hrequested.armedOf fd]
    by_cases h : b = true ∧ x = fd
    · obtain ⟨rfl, rfl⟩ := h
      cases harmed : s.before.reactor.armedOf x with
      | none => simp [hm, hb, hadds, harmed, Stride.Arms]
      | some c =>
          have hhandler := Reactor.handlerOf_of_armedOf harmed
          simp [hadds, hremoves, hwrites, harmed, hhandler, Stride.Arms]
    · have harms : ¬s.Arms fd callback := by
        rintro (hadds' | ⟨hm', hb', -⟩)
        · exact hadds hadds'
        · rw [hm] at hm'
          rw [hb] at hb'
          cases hm'
          cases hb'
          exact h ⟨rfl, rfl⟩
      simp [h, harms, hremoves, hwrites]
  · have hregistry := s.registry_eq hadvance (fun x i hm => hadd ⟨x, i, hm⟩)
      (fun x i hm => hremove ⟨x, i, hm⟩) (fun x hm => hrequest ⟨x, hm⟩)
    have hadds := s.not_adds (fun x i hm => hadd ⟨x, i, hm⟩) fd .writing callback
    have hremoves := s.not_removes (fun x i hm => hremove ⟨x, i, hm⟩) fd .writing
    have harms : ¬s.Arms fd callback := by
      rintro (h | ⟨hm, -⟩)
      · exact hadds h
      · exact hrequest ⟨fd, hm⟩
    rw [Reactor.armedOf, hregistry, ← Reactor.armedOf]
    simp [harms, hwrites, hremoves]

/-! ### Whole runs -/

open scoped Classical in
/-- How many strides of a history are of a kind. -/
noncomputable def times (kind : Stride ι → Prop) (history : List (Stride ι)) : Nat :=
  history.countP fun s => decide (kind s)

lemma times_concat (kind : Stride ι → Prop) (past : List (Stride ι)) (s : Stride ι) :
    times kind (past ++ [s]) = times kind past + times kind [s] := List.countP_append

lemma times_singleton_of {kind : Stride ι → Prop} {s : Stride ι} (h : kind s) :
    times kind [s] = 1 := by
  simp [times, h]

lemma times_singleton_of_not {kind : Stride ι → Prop} {s : Stride ι} (h : ¬kind s) :
    times kind [s] = 0 := by
  simp [times, h]

/-- One more arming is used up by a start, by a removal, or still there. -/
lemma Stride.arming_balance {s : Stride ι} (hs : s.before.reactor.registry.Sound) (fd : Fd)
    (callback : CallbackId) :
    times (·.Arms fd callback) [s] +
        (if s.before.reactor.armedOf fd = some callback then 1 else 0) =
      times (·.Writes fd callback) [s] + times (·.Withdraws fd callback) [s] +
        (if s.after.reactor.armedOf fd = some callback then 1 else 0) := by
  have hafter := s.armedOf_eq_some hs fd callback
  by_cases harms : s.Arms fd callback
  · have hnone := harms.disarmed
    have hwrites : ¬s.Writes fd callback := fun h => by simp [h.armed hs] at hnone
    have hwithdraws : ¬s.Withdraws fd callback := fun h => by simp [h.2] at hnone
    rw [times_singleton_of harms, times_singleton_of_not hwrites,
      times_singleton_of_not hwithdraws, if_neg (by simp [hnone]), if_pos (hafter.mpr (.inl harms))]
  · rw [times_singleton_of_not harms]
    by_cases hbefore : s.before.reactor.armedOf fd = some callback
    · rw [if_pos hbefore]
      by_cases hwrites : s.Writes fd callback
      · have hwithdraws : ¬s.Withdraws fd callback := by
          rintro ⟨⟨i, hm, -⟩, -⟩
          exact Stride.not_writes (by simp [hm]) fd callback hwrites
        rw [times_singleton_of hwrites, times_singleton_of_not hwithdraws,
          if_neg (by simp [hafter, harms, hwrites])]
      · by_cases hremoves : s.Removes fd .writing
        · rw [times_singleton_of_not hwrites, times_singleton_of ⟨hremoves, hbefore⟩,
            if_neg (by simp [hafter, harms, hremoves])]
        · rw [times_singleton_of_not hwrites, times_singleton_of_not fun h => hremoves h.1,
            if_pos (hafter.mpr (.inr ⟨hbefore, hwrites, hremoves⟩))]
    · rw [if_neg hbefore, times_singleton_of_not fun h => hbefore (h.armed hs),
        times_singleton_of_not fun h => hbefore h.2, if_neg (by simp [hafter, harms, hbefore])]

lemma arming_balance (kernel : Kernel) (capacity : Nat) (ms : List (Move ι)) (fd : Fd)
    (callback : CallbackId) :
    times (·.Arms fd callback) ((start kernel capacity).strides ms) =
      times (·.Writes fd callback) ((start kernel capacity).strides ms) +
        times (·.Withdraws fd callback) ((start kernel capacity).strides ms) +
        (if ((start kernel capacity).after ms).reactor.armedOf fd = some callback then 1
          else 0) := by
  refine history_rec_of_sound (P := fun past l => times (·.Arms fd callback) past =
    times (·.Writes fd callback) past + times (·.Withdraws fd callback) past +
      (if l.reactor.armedOf fd = some callback then 1 else 0)) Registry.sound_empty ?_ ?_ ms
  · simp [start, Reactor.start, Reactor.armedOf, times]
  · intro past s hs ih
    have hmove := s.arming_balance hs fd callback
    rw [times_concat, times_concat, times_concat]
    omega

/-- Without an arming, a write callback that is disarmed stays disarmed. -/
lemma armedOf_after_ne {l : Loop ι} (hl : l.reactor.registry.Sound) {fd : Fd}
    {callback : CallbackId} (h : l.reactor.armedOf fd ≠ some callback) {ms : List (Move ι)}
    (hms : ∀ s ∈ l.strides ms, ¬s.Arms fd callback) :
    (l.after ms).reactor.armedOf fd ≠ some callback := by
  have hafter := after_of_stride (l := l) (Q := fun s => ¬s.Arms fd callback)
    (P := fun l' => l'.reactor.registry.Sound ∧ l'.reactor.armedOf fd ≠ some callback)
    ?_ ⟨hl, h⟩ hms
  · exact hafter.2
  · rintro s harms ⟨hs, hne⟩
    refine ⟨(s.change.follows hs).sound, ?_⟩
    rw [Ne, s.armedOf_eq_some hs]
    rintro (h | ⟨h, -⟩)
    · exact harms h
    · exact hne h

/-- A write callback that is armed stays armed until it is started or removed. -/
lemma armedOf_after_eq {l : Loop ι} (hl : l.reactor.registry.Sound) {fd : Fd}
    {callback : CallbackId} (h : l.reactor.armedOf fd = some callback) {ms : List (Move ι)}
    (hms : ∀ s ∈ l.strides ms, ¬s.Writes fd callback ∧ ¬s.Removes fd .writing) :
    (l.after ms).reactor.armedOf fd = some callback := by
  have hafter := after_of_stride (l := l)
    (Q := fun s => ¬s.Writes fd callback ∧ ¬s.Removes fd .writing)
    (P := fun l' => l'.reactor.registry.Sound ∧ l'.reactor.armedOf fd = some callback)
    ?_ ⟨hl, h⟩ hms
  · exact hafter.2
  · rintro s hkept ⟨hs, harmed⟩
    refine ⟨(s.change.follows hs).sound, ?_⟩
    exact (s.armedOf_eq_some hs fd callback).mpr (.inr ⟨harmed, hkept⟩)

/-- **Write callbacks are one-shot, and no arming is lost.** Whatever happens, every arming of a
write callback is used up by a start of it, or by its removal, or it is still there; so between two
starts there is an arming. A callback that is armed stays armed until it is started or removed. And
every start of a write callback is the start of the one of some descriptor. -/
theorem writes_use_up_armings (kernel : Kernel) (capacity : Nat) (ms : List (Move ι)) (fd : Fd)
    (callback : CallbackId) :
    times (·.Arms fd callback) ((start kernel capacity).strides ms) =
      times (·.Writes fd callback) ((start kernel capacity).strides ms) +
        times (·.Withdraws fd callback) ((start kernel capacity).strides ms) +
        (if ((start kernel capacity).after ms).reactor.armedOf fd = some callback then 1
          else 0) ∧
    (∀ past s middle t later,
      (start kernel capacity).strides ms = past ++ s :: (middle ++ t :: later) →
      s.Writes fd callback → t.Writes fd callback → ∃ q ∈ middle, q.Arms fd callback) ∧
    (∀ past s later, (start kernel capacity).strides ms = past ++ s :: later →
      s.after.reactor.armedOf fd = some callback →
      (∀ q ∈ later, ¬q.Writes fd callback ∧ ¬q.Removes fd .writing) →
      ((start kernel capacity).after ms).reactor.armedOf fd = some callback) ∧
    (∀ s ∈ (start kernel capacity).strides ms, ∀ t,
      s.Starts callback (.readiness t .writing) → ∃ x, s.Writes x callback) := by
  have hsound {past later : List (Stride ι)} {s : Stride ι}
      (hcut : (start kernel capacity).strides ms = past ++ s :: later) :
      s.before.reactor.registry.Sound := by
    obtain ⟨ms₁, -, -, hbefore, -⟩ := exists_moves_of_strides_eq hcut
    exact hbefore ▸ sound_after kernel capacity ms₁
  refine ⟨arming_balance kernel capacity ms fd callback, ?_, ?_, ?_⟩
  · intro past s middle t later hcut hs ht
    have hbefore := hsound hcut
    have hafter := (s.change.follows hbefore).sound
    obtain ⟨-, ms₂, -, -, hrest, -⟩ := exists_moves_of_strides_eq hcut
    obtain ⟨ms₃, -, rfl, hmiddle, -⟩ := exists_moves_of_strides_eq hrest
    -- the first start disarms the callback
    have hdisarmed : s.after.reactor.armedOf fd ≠ some callback := by
      rw [Ne, s.armedOf_eq_some hbefore]
      rintro (h | ⟨-, h, -⟩)
      · have hnone := h.disarmed
        rw [hs.armed hbefore] at hnone
        cases hnone
      · exact h hs
    by_contra hnever
    have hne := armedOf_after_ne hafter hdisarmed fun q hq harms => hnever ⟨q, hq, harms⟩
    have htsound := (follows_after hafter ms₃).sound
    rw [hmiddle] at hne htsound
    exact hne (ht.armed htsound)
  · intro past s later hcut harmed hkept
    obtain ⟨-, ms₂, -, -, rfl, hend⟩ := exists_moves_of_strides_eq hcut
    have hafter := (s.change.follows (hsound hcut)).sound
    rw [← hend]
    exact armedOf_after_eq hafter harmed hkept
  · intro s hmem t hs
    obtain ⟨past, later, hcut⟩ := List.append_of_mem hmem
    obtain ⟨-, hidle, hadvance, hactive⟩ := hs.advance
    obtain ⟨x, current, hc, rfl, -⟩ :=
      Reactor.exists_entry_of_callbackOf (hsound hcut) (hadvance.readiness hidle hactive).2
    exact ⟨x, current, hc, hs⟩

/-! ### A callback that asks for more

A write callback is armed again while it runs, and once more when it runs the second time.
-/

namespace OneShot

/-- Everything up to the first start of the write callback. -/
def begin : List (Move Unit) :=
  [.file (.pair 100 101), .add 100 .writeOnly, .enter, .advance, .advance]

def first : Stride Unit := stride ((start (.boot none) 64).after begin) .advance rfl

def asks : Stride Unit := stride first.after (.requestWrite 100) rfl

/-- The end of the callback, and what the driver does up to the second half of the next event. -/
def between : List (Move Unit) := [.finish, .advance, .advance, .advance]

def second : Stride Unit := stride (asks.after.after between) .advance rfl

def asksAgain : Stride Unit := stride second.after (.requestWrite 100) rfl

def ends : Stride Unit := stride asksAgain.after .finish rfl

def moves : List (Move Unit) :=
  begin ++ .advance :: .requestWrite 100 :: (between ++ [.advance, .requestWrite 100, .finish])

lemma cut : (start (.boot none) 64).strides moves = (start (.boot none) 64).strides begin ++
    first :: ((asks :: asks.after.strides between) ++ second :: [asksAgain, ends]) := rfl

lemma cut_asksAgain : (start (.boot none) 64).strides moves =
    ((start (.boot none) 64).strides begin ++
      first :: (asks :: asks.after.strides between) ++ [second]) ++ asksAgain :: [ends] := rfl

lemma first_writes : first.Writes 100 0 :=
  ⟨⟨0, none, some 0, true⟩, rfl, List.mem_singleton.mpr rfl⟩

lemma second_writes : second.Writes 100 0 :=
  ⟨⟨0, none, some 0, true⟩, rfl, List.mem_singleton.mpr rfl⟩

lemma kept : ∀ q ∈ [ends], ¬q.Writes 100 0 ∧ ¬q.Removes 100 .writing := by
  simp only [List.forall_mem_singleton]
  have hmove : ends.move = .finish := rfl
  exact ⟨Stride.not_writes (by simp [hmove]) _ _, ends.not_removes (by simp [hmove]) _ _⟩

end OneShot

/-- The write callback is started twice, with an arming in between, and the third arming is still
there in the end. -/
theorem writes_use_up_armings_again :
    (start (.boot none) 64).strides OneShot.moves =
      (start (.boot none) 64).strides OneShot.begin ++ OneShot.first ::
        ((OneShot.asks :: OneShot.asks.after.strides OneShot.between) ++
          OneShot.second :: [OneShot.asksAgain, OneShot.ends]) ∧
      OneShot.first.Writes 100 0 ∧ OneShot.second.Writes 100 0 ∧
      (∃ q ∈ OneShot.asks :: OneShot.asks.after.strides OneShot.between, q.Arms 100 0) ∧
      OneShot.asksAgain.after.reactor.armedOf 100 = some 0 ∧
      (∀ q ∈ [OneShot.ends], ¬q.Writes 100 0 ∧ ¬q.Removes 100 .writing) ∧
      ((start (.boot none) 64).after OneShot.moves).reactor.armedOf 100 = some 0 := by
  have hall := writes_use_up_armings (.boot none) 64 OneShot.moves 100 0
  have harmed : OneShot.asksAgain.after.reactor.armedOf 100 = some 0 := rfl
  refine ⟨OneShot.cut, OneShot.first_writes, OneShot.second_writes, ?_, harmed, OneShot.kept, ?_⟩
  · exact hall.2.1 _ _ _ _ _ OneShot.cut OneShot.first_writes OneShot.second_writes
  · exact hall.2.2.1 _ _ _ OneShot.cut_asksAgain harmed OneShot.kept

end Loop

end EventLoop
