import EventLoop.Proofs.Callable.Balance

/-!
The closures of callables are dropped exactly once, whatever panics on the way.

* `Callables.run` makes moves whatever comes of them; `run_of_perform` says that an operation with
  its unwinding is a run.
* `Callables.makes` and `Callables.drops` say which closure a move makes and which one it ends, and
  `Balanced.step_notes` that this is all.
* `closures_are_dropped_once` is the main statement here.
-/

namespace EventLoop

namespace BoundedFn

variable {κ σ : Type}

lemma Whole.clear_notes {f : BoundedFn κ σ} (h : f.Whole) (world : σ) :
    (f.clear world).2.2.1 ≠ .undefined ∧ made (f.clear world).2.2.2 = [] ∧
      dropped (f.clear world).2.2.2 = f.owned.toList := by
  rcases h with hempty | ⟨what, rfl⟩
  · rw [clear_of_isEmpty hempty, owned_of_isEmpty hempty]
    exact ⟨by simp, rfl, rfl⟩
  · rw [clear_new]
    exact ⟨by simp, rfl, rfl⟩

end BoundedFn

namespace Callables

open BoundedFn (Outcome Note made dropped InOrder)

variable {κ σ : Type} {b b' : Callables κ σ} {past notes : List (Note κ σ)} {outcome : Outcome}

/-! ### Runs -/

/-- Makes moves in turn, whatever comes of each of them. A move that cannot be made is left out. -/
def run (b : Callables κ σ) : List (Move κ σ) → Callables κ σ × List (Note κ σ)
  | [] => (b, [])
  | move :: moves =>
    match b.step move with
    | none => run b moves
    | some (b, _, notes) =>
      let (b, more) := run b moves
      (b, notes ++ more)

lemma run_of_step_eq_none {move : Move κ σ} (h : b.step move = none) (moves : List (Move κ σ)) :
    b.run (move :: moves) = b.run moves := by
  rw [run, h]

lemma run_of_step_eq_some {move : Move κ σ} (h : b.step move = some (b', outcome, notes))
    (moves : List (Move κ σ)) :
    b.run (move :: moves) = ((b'.run moves).1, notes ++ (b'.run moves).2) := by
  rw [run, h]

lemma run_append (b : Callables κ σ) (moves moves' : List (Move κ σ)) :
    b.run (moves ++ moves') =
      (((b.run moves).1.run moves').1, (b.run moves).2 ++ ((b.run moves).1.run moves').2) := by
  induction moves generalizing b with
  | nil => rfl
  | cons move moves ih =>
      rw [List.cons_append]
      cases hs : b.step move with
      | none => rw [run_of_step_eq_none hs, run_of_step_eq_none hs, ih]
      | some next =>
          obtain ⟨b', outcome, notes⟩ := next
          rw [run_of_step_eq_some hs, run_of_step_eq_some hs, ih, List.append_assoc]

lemma Balanced.run (h : Balanced past b) (moves : List (Move κ σ)) :
    Balanced (past ++ (b.run moves).2) (b.run moves).1 := by
  induction moves generalizing past b with
  | nil => rwa [Callables.run, List.append_nil]
  | cons move moves ih =>
      cases hs : b.step move with
      | none =>
          rw [run_of_step_eq_none hs]
          exact ih h
      | some next =>
          obtain ⟨b', outcome, notes⟩ := next
          rw [run_of_step_eq_some hs, ← List.append_assoc]
          exact ih (h.step hs)

/-- A sequence that a panic cuts short is a run that ends with a drop of what the hand holds. -/
lemma run_of_perform (b : Callables κ σ) (moves : List (Move κ σ)) :
    ∃ moves', b.run moves' = ((b.perform moves).1, (b.perform moves).2.2) := by
  induction moves generalizing b with
  | nil => exact ⟨[], rfl⟩
  | cons move moves ih =>
      cases hs : b.step move with
      | none =>
          obtain ⟨moves', hrun⟩ := ih b
          exact ⟨moves', by rw [hrun, perform, hs]⟩
      | some next =>
          obtain ⟨b', outcome, notes⟩ := next
          by_cases hpanic : ∃ message, outcome = .panicked message
          · obtain ⟨message, rfl⟩ := hpanic
            have hdrop : b'.step (.drop .hand) =
                some ((b'.dropAt .hand).1, (b'.dropAt .hand).2.1, (b'.dropAt .hand).2.2) := rfl
            refine ⟨[move, .drop .hand], ?_⟩
            rw [run_of_step_eq_some hs, run_of_step_eq_some hdrop, perform, hs]
            simp only [Callables.run, List.append_nil]
          · obtain ⟨moves', hrun⟩ := ih b'
            refine ⟨move :: moves', ?_⟩
            rw [run_of_step_eq_some hs, hrun, perform, hs]
            cases outcome with
            | panicked message => exact absurd ⟨message, rfl⟩ hpanic
            | done => rfl
            | empty => rfl
            | undefined => rfl

/-! ### What one move does -/

/-- The closure that a move makes. -/
def makes (b : Callables κ σ) (outcome : Outcome) : Move κ σ → Option Nat
  | .create _ _ => some b.nextInstance
  | .copy n =>
    if (b.get (.slot n)).isEmpty = false ∧ outcome = .done then some b.nextInstance else none
  | _ => none

/-- The closure that a move ends. -/
def drops (b : Callables κ σ) : Move κ σ → Option Nat
  | .put n => (b.get (.slot n)).owned
  | .clear place | .drop place => (b.get place).owned
  | _ => none

/-- A hand that is free can make any move. -/
lemma exists_step_of_free (h : (b.get .hand).isEmpty = true) (m : Move κ σ) :
    ∃ b' outcome notes, b.step m = some (b', outcome, notes) := by
  have hfree : ¬(!b.hand.isEmpty) = true := by simpa [get] using h
  cases m with
  | create type captures => exact ⟨_, _, _, if_neg hfree⟩
  | copy n => exact ⟨_, _, _, if_neg hfree⟩
  | grab n => exact ⟨_, _, _, if_neg hfree⟩
  | _ => exact ⟨_, _, _, rfl⟩

lemma Balanced.step_notes (h : Balanced past b) {m : Move κ σ}
    (hs : b.step m = some (b', outcome, notes)) :
    outcome ≠ .undefined ∧ made notes = (b.makes outcome m).toList ∧
      dropped notes = (b.drops m).toList := by
  cases effect_of_step hs with
  | create type captures free => exact ⟨by simp, rfl, rfl⟩
  | @copy n copy world _ _ free copies =>
      cases (h.whole (.slot n)).copied copies with
      | nothing isEmpty => exact ⟨by simp, by simp [makes, isEmpty, made], rfl⟩
      | panicked owns message => exact ⟨by simp, by simp [makes, made, Note.made?], rfl⟩
      | @copied source copy owns number =>
          have hmade : made [Note.copying source, .copied copy] = [copy.id] := rfl
          exact ⟨by simp, by simp [makes, owns, hmade, number], rfl⟩
  | grab n free => exact ⟨by simp, rfl, rfl⟩
  | put n => exact (h.whole (.slot n)).clear_notes b.world
  | clear p => exact (h.whole p).clear_notes b.world
  | drop p => exact (h.whole p).clear_notes b.world
  | swap m n => exact ⟨by simp, rfl, rfl⟩
  | call p =>
      have hused := (h.whole p).used_call b.world
      exact ⟨hused.defined, hused.made, hused.dropped⟩
  | invoke p =>
      have hused := (h.whole p).used_invoke b.world
      exact ⟨hused.defined, hused.made, hused.dropped⟩

/-! ### Panics -/

/-- A panicking copy leaves every slot as it was. -/
lemma Balanced.copy_panicked (h : Balanced past b) {n : PlaceId} {message : String}
    (hs : b.step (.copy n) = some (b', .panicked message, notes)) :
    ∃ source, b.get (.slot n) = .new source ∧ notes = [.copying source] ∧ b'.slots = b.slots ∧
      (b'.get .hand).isEmpty = true := by
  cases effect_of_step hs with
  | copy free copies =>
      cases (h.whole (.slot n)).copied copies with
      | panicked owns message => exact ⟨_, owns, rfl, rfl, rfl⟩

/-- A panicking call leaves the closure where it is, with whatever it made of its captures. -/
lemma Balanced.call_panicked (h : Balanced past b) {m : Move κ σ} {p : Place} {message : String}
    (hm : m = .call p ∨ m = .invoke p)
    (hs : b.step m = some (b', .panicked message, notes)) :
    ∃ what, b.get p = .new what ∧ notes = [.called what] ∧
      b'.get p = .new { what with captures := (what.type.call what.captures b.world).1 } := by
  rcases h.whole p with hempty | ⟨what, hwhat⟩
  · rcases hm with rfl | rfl
    · rw [Callables.step, update_of_eq (BoundedFn.call_of_isEmpty hempty b.world)] at hs
      cases hs
    · rw [Callables.step, update_of_eq (BoundedFn.invoke_of_isEmpty hempty b.world)] at hs
      cases hs
  · have hcalled := BoundedFn.call_new what b.world
    have hstep : b.step m = some (b.update p BoundedFn.call) := by
      rcases hm with rfl | rfl
      · rfl
      · rw [Callables.step, Callables.update, Callables.update, hwhat, BoundedFn.invoke_new]
    rw [← hwhat] at hcalled
    rw [hstep, update_of_eq hcalled, Option.some.injEq, Prod.mk.injEq, Prod.mk.injEq] at hs
    obtain ⟨rfl, -, rfl⟩ := hs
    exact ⟨what, hwhat, rfl, by rw [get_set, if_pos rfl]⟩

/-- What is used up in one call is dropped, whether or not the call panics. -/
lemma perform_once {what : Instance κ σ} (h : b.get .hand = .new what) :
    ∃ b', b.perform once =
        (b', (what.type.call what.captures b.world).2.2.elim .done .panicked,
          [.called what,
            .dropped { what with captures := (what.type.call what.captures b.world).1 }]) ∧
      b'.slots = b.slots ∧ (b'.get .hand).isEmpty = true := by
  have hinvoked := BoundedFn.call_new what b.world
  rw [← BoundedFn.invoke_new, ← h] at hinvoked
  rw [once, perform, Callables.step, update_of_eq hinvoked]
  cases (what.type.call what.captures b.world).2.2 with
  | none => exact ⟨_, rfl, rfl, rfl⟩
  | some message => exact ⟨_, rfl, rfl, rfl⟩

/-! ### The main statement -/

lemma Balanced.length_eq (h : Balanced past b) :
    ((made past).length : ℕ∞) =
      (dropped past).length + {p | (b.get p).isEmpty = false}.encard := by
  have hset : {p | (b.get p).isEmpty = false} = {p | (b.get p).owned ≠ none} := by
    ext p
    rw [Set.mem_ofPred_eq, Set.mem_ofPred_eq, Ne, ← (h.whole p).isEmpty_iff, Bool.not_eq_true]
  rw [hset]
  exact h.accounts.length_eq

/-- **Closures of callables are dropped exactly once.** After any moves, with closures that panic
when they like, what was made is what was dropped and what the callables own that are not empty,
nothing is dropped twice, and nothing happens to a closure after its end. Any move can be made with
a free hand. Of the moves, making and a copy that succeeds make one closure, assigning, clearing and
dropping drop what the place owned, and no other move makes or drops any. A copy that panics leaves
the source as it was, a call that panics leaves the closure where it is, and what is used up in one
call is dropped in any case. An operation with its unwinding leads to where moves lead, so that all
of this holds after it. -/
theorem closures_are_dropped_once {world : σ} {moves : List (Move κ σ)} {b : Callables κ σ}
    {past : List (Note κ σ)} (h : (start world).run moves = (b, past)) :
    ((made past).length : ℕ∞) =
        (dropped past).length + {p | (b.get p).isEmpty = false}.encard ∧
      (made past).Nodup ∧ (dropped past).Nodup ∧ dropped past ⊆ made past ∧ InOrder past ∧
      ((b.get .hand).isEmpty = true → ∀ m, ∃ b' outcome notes,
        b.step m = some (b', outcome, notes)) ∧
      (∀ m b' outcome notes, b.step m = some (b', outcome, notes) →
        outcome ≠ .undefined ∧ made notes = (b.makes outcome m).toList ∧
          dropped notes = (b.drops m).toList) ∧
      (∀ n b' message notes, b.step (.copy n) = some (b', .panicked message, notes) →
        ∃ source, b.get (.slot n) = .new source ∧ notes = [.copying source] ∧
          b'.slots = b.slots ∧ (b'.get .hand).isEmpty = true) ∧
      (∀ m p b' message notes, m = .call p ∨ m = .invoke p →
        b.step m = some (b', .panicked message, notes) →
        ∃ what, b.get p = .new what ∧ notes = [.called what] ∧
          b'.get p = .new { what with captures := (what.type.call what.captures b.world).1 }) ∧
      (∀ what, b.get .hand = .new what →
        ∃ b', b.perform once =
            (b', (what.type.call what.captures b.world).2.2.elim .done .panicked,
              [.called what,
                .dropped { what with captures := (what.type.call what.captures b.world).1 }]) ∧
          b'.slots = b.slots ∧ (b'.get .hand).isEmpty = true) ∧
      ∀ more, ∃ moves', (start world).run moves' =
        ((b.perform more).1, past ++ (b.perform more).2.2) := by
  have hrun : Balanced past b := by
    have hbalanced := (balanced_start world).run moves
    rwa [h, List.nil_append] at hbalanced
  refine ⟨hrun.length_eq, hrun.accounts.madeOnce, hrun.accounts.droppedOnce, hrun.accounts.known,
    hrun.inOrder, exists_step_of_free, fun _ _ _ _ hs => hrun.step_notes hs,
    fun _ _ _ _ hs => hrun.copy_panicked hs, fun _ _ _ _ _ hm hs => hrun.call_panicked hm hs,
    fun _ hwhat => perform_once hwhat, fun more => ?_⟩
  obtain ⟨moves', hmore⟩ := run_of_perform b more
  exact ⟨moves ++ moves', by rw [run_append, h, hmore]⟩

/-- A closure that counts its calls. The second call panics, and so does every copy after it. -/
def fragile : VTable Nat Unit where
  call calls world := (calls + 1, world, if calls = 1 then some "called" else none)
  clone calls world := (if calls = 2 then .error "copied" else .ok calls, world)
  drop _ world := world

/-- A closure and its copy, after a call and a copy that panicked: both are there, and the copy is
dropped by the call that uses it up, which panics as well. -/
theorem fragile_closures_are_dropped_once :
    let moves : List (Move Nat Unit) :=
      [.create fragile 0, .put 0, .call (.slot 0), .copy 0, .put 1,
        .call (.slot 0), .copy 0, .grab 1]
    let b := ((start ()).run moves).1
    let past := ((start ()).run moves).2
    made past = [0, 1] ∧ dropped past = [] ∧ {p | (b.get p).isEmpty = false}.encard = 2 ∧
      (∃ b', b.perform once = (b', .panicked "called",
        [.called ⟨1, fragile, 1⟩, .dropped ⟨1, fragile, 2⟩])) := by
  intro moves b past
  have hrun : (start ()).run moves = (b, past) := rfl
  obtain ⟨hlength, -, -, -, -, -, -, -, -, honce, -⟩ := closures_are_dropped_once hrun
  have hmade : made past = [0, 1] := by decide +kernel
  have hdropped : dropped past = [] := by decide +kernel
  refine ⟨hmade, hdropped, ?_, ?_⟩
  · rw [hmade, hdropped] at hlength
    simpa using hlength.symm
  · obtain ⟨b', hperform, -⟩ := honce ⟨1, fragile, 1⟩ rfl
    exact ⟨b', hperform⟩

end Callables

end EventLoop
