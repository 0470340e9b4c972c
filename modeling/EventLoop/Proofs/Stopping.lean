import EventLoop.Proofs.Tokens

/-!
What the driver still does once the reactor was stopped. Wakeups are dropped and nothing more is
waited for, but nobody looks at the stop while the events of the last wait are handed out.

* `Stage.halves` are the halves of events that are still to be handed out, and `starts` what the
  callbacks of a history were started for.
* `Advance.stopped_sublist` and `starts_after_stop` bound what is started after a stop.
* `Quiet` says that no half at hand leads to a callback; `exists_silent_return` and
  `quiet_of_silent_return` say that this is when a stopped driver starts nothing more.
* `stopped_driver_works_off_its_batch` is the main statement here, and `stop_is_not_immediate` shows
  that a callback may be started after a stop.
-/

namespace EventLoop

open Reactor (Direction)

/-- The half of an event that is for the reader. -/
def Event.firstHalf (e : Event) : List (Token × Direction) :=
  if e.readable then [(e.token, .reading)] else []

/-- The half of an event that is for the writer. -/
def Event.secondHalf (e : Event) : List (Token × Direction) :=
  if e.writable then [(e.token, .writing)] else []

namespace Loop

open Reactor (Note Role)

variable {ι : Type}

/-- The halves of events that the driver is still to hand out. -/
def Stage.halves : Stage → List (Token × Direction)
  | outside => []
  | head => []
  | waking _ events => events.flatMap fun e => e.firstHalf ++ e.secondHalf
  | dispatching events => events.flatMap fun e => e.firstHalf ++ e.secondHalf
  | halfway e rest => e.secondHalf ++ rest.flatMap fun e => e.firstHalf ++ e.secondHalf

/-- What the callbacks were started for whose start is noted. -/
def roles (notes : List (Note ι)) : List (Role ι) :=
  notes.filterMap fun
    | .started _ role => some role
    | _ => none

/-- What the callbacks of a history were started for, in their order. -/
def starts (history : List (Stride ι)) : List (Role ι) := history.flatMap fun s => roles s.notes

@[simp] lemma starts_cons (s : Stride ι) (history : List (Stride ι)) :
    starts (s :: history) = roles s.notes ++ starts history := rfl

lemma mem_roles {notes : List (Note ι)} {role : Role ι} :
    role ∈ roles notes ↔ ∃ callback, .started callback role ∈ notes := by
  rw [roles]
  rw [List.mem_filterMap]
  constructor
  · rintro ⟨note, hmem, hnote⟩
    split at hnote
    · next callback role' =>
        cases hnote
        exact ⟨callback, hmem⟩
    · cases hnote
  · rintro ⟨callback, hmem⟩
    exact ⟨_, hmem, rfl⟩

lemma NoStart.roles_eq_nil {notes : List (Note ι)} (h : NoStart notes) : roles notes = [] := by
  rw [List.eq_nil_iff_forall_not_mem]
  intro role hrole
  obtain ⟨callback, hmem⟩ := mem_roles.mp hrole
  exact h callback role hmem

lemma roles_append (notes notes' : List (Note ι)) :
    roles (notes ++ notes') = roles notes ++ roles notes' := List.filterMap_append

/-! ### At most the halves at hand -/

/-- After a stop, a move of the driver starts nothing, or a callback for the next half at hand. -/
lemma Advance.stopped_sublist {l l' : Loop ι} {notes : List (Note ι)} (h : Advance l l' notes)
    (hl : l.reactor.stopped = true) :
    ∃ now : List (Token × Direction), roles notes = now.map (fun half => .readiness half.1 half.2) ∧
      (now ++ l'.stage.halves).Sublist l.stage.halves := by
  cases h with
  | stops _ _ => exact ⟨[], rfl, List.nil_sublist _⟩
  | fails _ running _ => simp [hl] at running
  | wakes _ running _ _ => simp [hl] at running
  | collects _ running _ _ => simp [hl] at running
  | woke stage => exact ⟨[], rfl, by simp [stage, Stage.halves]⟩
  | discards stage _ =>
      exact ⟨[], (noStart_discards _).roles_eq_nil, by simp [stage, Stage.halves]⟩
  | calls _ running => simp [hl] at running
  | skips _ running _ => simp [hl] at running
  | delivers _ running _ => simp [hl] at running
  | turns _ => exact ⟨[], rfl, List.nil_sublist _⟩
  | passesRead stage _ => exact ⟨[], rfl, by simp [stage, Stage.halves]⟩
  | @reads e rest callback stage readable _ =>
      exact ⟨[(e.token, .reading)], rfl, by simp [stage, Stage.halves, Event.firstHalf, readable]⟩
  | passesWrite stage _ => exact ⟨[], rfl, by simp [stage, Stage.halves]⟩
  | @writes e rest fd registration callback stage writable _ _ _ =>
      refine ⟨[(e.token, .writing)], ?_, ?_⟩
      · have hnotes := noStart_of_registration (ofRegistration_takeWrite l.reactor fd registration)
        rw [roles_append, hnotes.roles_eq_nil]
        rfl
      · simp [stage, Stage.halves, Event.secondHalf, writable]
  | mismatches _ _ => exact ⟨[], rfl, List.nil_sublist _⟩

/-- After a stop, every move starts nothing, or a callback for the next half at hand. -/
lemma Stride.stopped_sublist (s : Stride ι) (hs : s.before.reactor.stopped = true) :
    ∃ now : List (Token × Direction),
      roles s.notes = now.map (fun half => .readiness half.1 half.2) ∧
      (now ++ s.after.stage.halves).Sublist s.before.stage.halves := by
  by_cases hm : s.move = .advance
  · exact (s.advance hm).2.stopped_sublist hs
  · have haside := s.aside hm
    refine ⟨[], haside.noStart.roles_eq_nil, ?_⟩
    rcases haside.stage with hstage | ⟨-, hstage⟩ | ⟨-, -, hstage⟩
    · rw [hstage]
      exact List.Sublist.refl _
    · rw [hstage]
      exact List.nil_sublist _
    · rw [hstage]
      exact List.nil_sublist _

/-- After a stop, callbacks are started for halves at hand only, in their order. -/
lemma starts_after_stop {l : Loop ι} (hl : l.reactor.stopped = true) (ms : List (Move ι)) :
    ∃ halves : List (Token × Direction), halves.Sublist l.stage.halves ∧
      starts (l.strides ms) = halves.map fun half => .readiness half.1 half.2 := by
  induction ms generalizing l with
  | nil => exact ⟨[], List.nil_sublist _, rfl⟩
  | cons m ms ih =>
      rcases step_eq_none_or_stride l m with hm | ⟨s, rfl, rfl⟩
      · rw [strides_cons_of_none hm]
        exact ih hl
      · obtain ⟨now, hnow, hsub⟩ := s.stopped_sublist hl
        obtain ⟨halves, hhalves, hstarts⟩ := ih (s.stopped.mpr (.inl hl))
        refine ⟨now ++ halves, (List.Sublist.append_left hhalves now).trans hsub, ?_⟩
        rw [strides_cons_stride, starts_cons, hnow, hstarts, List.map_append]

/-! ### When nothing more is started -/

/-- How many moves of its own the driver has before it at most, once the reactor was stopped. -/
def Stage.moves : Stage → Nat
  | outside => 0
  | head => 1
  | waking _ events => 2 * events.length + 3
  | dispatching events => 2 * events.length + 2
  | halfway _ rest => 2 * rest.length + 3

/-- None of the halves at hand leads to a callback. -/
def Quiet (l : Loop ι) : Prop :=
  ∀ half ∈ l.stage.halves, l.reactor.callbackOf half.1 half.2 = none

/-- After a stop, a driver with no callback at hand starts none. -/
lemma Advance.idle_of_quiet {l l' : Loop ι} {notes : List (Note ι)} (h : Advance l l' notes)
    (hl : l.reactor.stopped = true) (hactive : l.active = none) (hquiet : l.Quiet) :
    l'.active = none := by
  cases h with
  | calls _ running => simp [hl] at running
  | delivers _ running _ => simp [hl] at running
  | @reads e rest callback stage readable handler =>
      have hmem : (e.token, .reading) ∈ l.stage.halves := by
        simp [stage, Stage.halves, Event.firstHalf, readable]
      rw [hquiet _ hmem] at handler
      cases handler
  | @writes e rest fd registration callback stage writable found armed handler =>
      have hmem : (e.token, .writing) ∈ l.stage.halves := by
        simp [stage, Stage.halves, Event.secondHalf, writable]
      have hnone := hquiet _ hmem
      simp [Reactor.callbackOf, found, armed, handler] at hnone
  | stops _ _ => rfl
  | fails _ _ _ => rfl
  | mismatches _ _ => rfl
  | _ => exact hactive

/-- After a stop, a move of the driver that starts nothing changes nothing but where the driver
stands, and passes over halves without a callback only. -/
lemma Advance.stopped_idle {l l' : Loop ι} {notes : List (Note ι)} (h : Advance l l' notes)
    (hsound : l.reactor.registry.Sound) (hl : l.reactor.stopped = true)
    (hidle : l'.active = none) :
    l'.reactor = l.reactor ∧ l'.stage.moves < l.stage.moves ∧
      ∀ half ∈ l.stage.halves, half ∈ l'.stage.halves ∨
        l.reactor.callbackOf half.1 half.2 = none := by
  cases h with
  | stops stage _ => simp [stage, Stage.moves, Stage.halves]
  | fails _ running _ => simp [hl] at running
  | wakes _ running _ _ => simp [hl] at running
  | collects _ running _ _ => simp [hl] at running
  | woke stage => simp +contextual [stage, Stage.moves, Stage.halves]
  | discards stage _ => simp +contextual [stage, Stage.moves, Stage.halves]
  | calls _ running => simp [hl] at running
  | skips _ running _ => simp [hl] at running
  | delivers _ running _ => simp [hl] at running
  | turns stage => simp [stage, Stage.moves, Stage.halves]
  | @passesRead e rest stage nobody =>
      refine ⟨rfl, by simp [stage, Stage.moves]; omega, fun half hhalf => ?_⟩
      rw [stage, Stage.halves, List.flatMap_cons, List.append_assoc, List.mem_append] at hhalf
      rcases hhalf with hhalf | hhalf
      · rw [Event.firstHalf, List.mem_ite_nil_right, List.mem_singleton] at hhalf
        obtain ⟨hreadable, rfl⟩ := hhalf
        exact .inr (nobody hreadable)
      · exact .inl hhalf
  | reads _ _ _ => cases hidle
  | @passesWrite e rest stage nobody =>
      refine ⟨rfl, by simp [stage, Stage.moves], fun half hhalf => ?_⟩
      rw [stage, Stage.halves, List.mem_append] at hhalf
      rcases hhalf with hhalf | hhalf
      · rw [Event.secondHalf, List.mem_ite_nil_right, List.mem_singleton] at hhalf
        obtain ⟨hwritable, rfl⟩ := hhalf
        exact .inr (nobody hwritable)
      · exact .inl hhalf
  | writes _ _ _ _ _ => cases hidle
  | mismatches _ mismatch => exact absurd mismatch (hsound.resolve_ne_mismatched _ _)

lemma roles_eq_nil_iff {s : Stride ι} (hm : s.move = .advance) :
    roles s.notes = [] ↔ s.after.active = none := by
  obtain ⟨hidle, hadvance⟩ := s.advance hm
  rw [List.eq_nil_iff_forall_not_mem]
  simp only [mem_roles, not_exists, started_mem_iff_of_advance hadvance hidle]
  constructor
  · intro h
    by_contra hactive
    obtain ⟨a, ha⟩ := Option.ne_none_iff_exists'.mp hactive
    exact h a.role a.callback ha
  · intro h role callback hactive
    rw [h] at hactive
    cases hactive

/-- After a stop, a driver that has no callback at hand comes to the end of its run without starting
one. -/
lemma exists_silent_return {l : Loop ι} (hsound : l.reactor.registry.Sound)
    (hl : l.reactor.stopped = true) (hactive : l.active = none) (hquiet : l.Quiet) :
    ∃ n, (l.after (.replicate n .advance)).stage = .outside ∧
      starts (l.strides (.replicate n .advance)) = [] := by
  induction hk : l.stage.moves using Nat.strongRecOn generalizing l with
  | ind k ih =>
      by_cases hstage : l.stage = .outside
      · exact ⟨0, hstage, rfl⟩
      · obtain ⟨s, rfl, hm⟩ := exists_advance hactive hstage
        obtain ⟨-, hadvance⟩ := s.advance hm
        have hidle := hadvance.idle_of_quiet hl hactive hquiet
        obtain ⟨hreactor, hmoves, -⟩ := hadvance.stopped_idle hsound hl hidle
        obtain ⟨now, hnow, hsub⟩ := s.stopped_sublist hl
        have hquiet' : s.after.Quiet := by
          intro half hhalf
          rw [hreactor]
          exact hquiet half (hsub.subset (List.mem_append_right _ hhalf))
        obtain ⟨n, hreturn, hsilent⟩ := ih _ (hk ▸ hmoves) (hreactor ▸ hsound) (hreactor ▸ hl) hidle
          hquiet' rfl
        refine ⟨n + 1, ?_, ?_⟩
        · rw [List.replicate_succ, ← hm, after_cons_stride, hm, hreturn]
        · rw [List.replicate_succ, ← hm, strides_cons_stride, hm, starts_cons, hsilent,
            (roles_eq_nil_iff hm).mpr hidle]
          rfl

/-- After a stop, a driver that comes to the end of its run without starting a callback had none at
hand. -/
lemma quiet_of_silent_return {l : Loop ι} (hsound : l.reactor.registry.Sound)
    (hl : l.reactor.stopped = true) (hactive : l.active = none) {n : Nat}
    (hreturn : (l.after (.replicate n .advance)).stage = .outside)
    (hsilent : starts (l.strides (.replicate n .advance)) = []) : l.Quiet := by
  induction n generalizing l with
  | zero =>
      intro half hhalf
      rw [List.replicate_zero, after_nil] at hreturn
      rw [hreturn] at hhalf
      cases hhalf
  | succ n ih =>
      by_cases hstage : l.stage = .outside
      · intro half hhalf
        rw [hstage] at hhalf
        cases hhalf
      · obtain ⟨s, rfl, hm⟩ := exists_advance hactive hstage
        rw [List.replicate_succ, ← hm, after_cons_stride, hm] at hreturn
        rw [List.replicate_succ, ← hm, strides_cons_stride, hm, starts_cons,
          List.append_eq_nil_iff] at hsilent
        have hidle := (roles_eq_nil_iff hm).mp hsilent.1
        obtain ⟨hreactor, -, hhalves⟩ := (s.advance hm).2.stopped_idle hsound hl hidle
        have hquiet := ih (hreactor ▸ hsound) (hreactor ▸ hl) hidle hreturn hsilent.2
        intro half hhalf
        rcases hhalves half hhalf with hafter | hnone
        · rw [← hreactor]
          exact hquiet half hafter
        · exact hnone

/-- **A stopped driver works off its batch.** After a stop, whatever happens, the callbacks that are
started are started for halves of events that were at hand when the reactor was stopped, each half
at most once and in their order. And a stopped driver that runs no callback and is left alone
returns without starting one exactly if none of the halves at hand leads to a callback. -/
theorem stopped_driver_works_off_its_batch (kernel : Kernel) (capacity : Nat)
    (ms : List (Move ι)) :
    (∀ past s later, (start kernel capacity).strides ms = past ++ s :: later → s.move = .stop →
      ∃ halves : List (Token × Direction), halves.Sublist s.after.stage.halves ∧
        starts later = halves.map fun half => .readiness half.1 half.2) ∧
    (((start kernel capacity).after ms).reactor.stopped = true →
      ((start kernel capacity).after ms).active = none →
      ((∃ n, (((start kernel capacity).after ms).after (.replicate n .advance)).stage = .outside ∧
          starts (((start kernel capacity).after ms).strides (.replicate n .advance)) = []) ↔
        ∀ half ∈ ((start kernel capacity).after ms).stage.halves,
          ((start kernel capacity).after ms).reactor.callbackOf half.1 half.2 = none)) := by
  have hsound := sound_after kernel capacity ms
  refine ⟨?_, ?_⟩
  · intro past s later hcut hs
    obtain ⟨-, ms₂, -, -, rfl, -⟩ := exists_moves_of_strides_eq hcut
    exact starts_after_stop (s.stopped.mpr (.inr hs)) ms₂
  · intro hstopped hactive
    constructor
    · rintro ⟨n, hreturn, hsilent⟩
      exact quiet_of_silent_return hsound hstopped hactive hreturn hsilent
    · intro hquiet
      exact exists_silent_return hsound hstopped hactive hquiet

/-! ### A stop in the middle of a batch

Two descriptors are ready, and the read callback of the first one stops the reactor.
-/

namespace StopInBatch

/-- Everything up to the start of the read callback of the first descriptor. -/
def begin : List (Move Unit) :=
  [.file (.pair 100 101), .file (.pair 102 103), .file (.write 101 [120]),
    .file (.write 103 [121]), .add 100 .readOnly, .add 102 .readOnly, .enter, .advance, .advance]

/-- The stop, from inside the callback. -/
def stop : Stride Unit := stride ((start (.boot none) 64).after begin) .stop rfl

/-- The end of the callback, and what the driver does then. -/
def rest : List (Move Unit) := [.finish, .advance, .advance]

lemma cut : (start (.boot none) 64).strides (begin ++ .stop :: rest) =
    (start (.boot none) 64).strides begin ++ stop :: stop.after.strides rest := rfl

lemma starts_rest : starts (stop.after.strides rest) = [.readiness 1 .reading] := rfl

end StopInBatch

/-- The callback has come to its end, but the driver does not return without a start: the other
descriptor has a callback. -/
theorem stopped_driver_works_off_its_batch_pending :
    ((start (.boot none) 64).after (StopInBatch.begin ++ [.stop, .finish])).reactor.stopped = true ∧
    ((start (.boot none) 64).after (StopInBatch.begin ++ [.stop, .finish])).active = none ∧
    ¬∃ n, (((start (.boot none) 64).after (StopInBatch.begin ++ [.stop, .finish])).after
          (.replicate n .advance)).stage = .outside ∧
        starts (((start (.boot none) 64).after (StopInBatch.begin ++ [.stop, .finish])).strides
          (.replicate n .advance)) = [] := by
  refine ⟨rfl, rfl, fun h => ?_⟩
  have hreturn := (stopped_driver_works_off_its_batch (.boot none) 64
    (StopInBatch.begin ++ [.stop, .finish])).2
  have hquiet := hreturn rfl rfl
  have hpending := hquiet.mp h (1, .reading) (by decide)
  exact absurd hpending (by decide)

/-- It is not so that nothing is started after a callback has stopped the reactor. -/
theorem stop_is_not_immediate :
    ¬∀ (limit : Option Nat) (capacity : Nat) (ms : List (Move Unit))
        (past later : List (Stride Unit)) (s : Stride Unit),
      (start (.boot limit) capacity).strides ms = past ++ s :: later → s.move = .stop →
      s.before.active.isSome = true → starts later = [] := by
  intro h
  have hnone := h none 64 (StopInBatch.begin ++ .stop :: StopInBatch.rest) _ _ StopInBatch.stop
    StopInBatch.cut rfl rfl
  rw [StopInBatch.starts_rest] at hnone
  cases hnone

end Loop

end EventLoop
