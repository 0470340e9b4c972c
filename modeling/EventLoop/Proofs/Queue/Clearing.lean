import EventLoop.Proofs.Queue.Deliveries
import Mathlib.Data.List.Basic

/-!
What becomes of a consumer that is removed. A consumer that is at work is not in its queue, and a
removal does not reach it: it goes back to the queue when its call comes to its end, unless the
queue has got another one by then. Apart from this one, no consumer that a queue had before a
removal is ever started again.

* `ComesBack` says that the consumer that was at work at a stride goes back to its queue later,
  `Installed` that a consumer is installed in a history, and `Known` that one of the two is so.
* `Bereft` is what a run keeps after a removal: the consumer of the queue is known, and so is the
  one at work, unless it is still the one that was at work then.
* `cleared_consumer_comes_back_from_work` is the main statement here, and
  `cleared_consumer_is_started_again` says that it cannot be improved.
-/

namespace EventLoop.Loop

open Reactor (Note Role)

variable {ι : Type}

/-- The callback that was at work as the consumer of a queue at a stride goes back to the queue
later: its call comes to its end, and there is no other consumer then. -/
def ComesBack (s : Stride ι) (q : QueueId) (later : List (Stride ι)) (callback : CallbackId) :
    Prop :=
  s.before.atWork q = some callback ∧
    ∃ middle r rest, later = middle ++ r :: rest ∧
      (∀ t ∈ middle, t.move ≠ .finish ∧ t.move ≠ .unwind) ∧
      r.move = .finish ∧ (r.before.reactor.queue q).consumer = none

/-- A callback is installed as the consumer of a queue. -/
def Installed (q : QueueId) (history : List (Stride ι)) (callback : CallbackId) : Prop :=
  ∃ u ∈ history, u.move = .setConsumer q ∧ u.before.nextCallback = callback

/-- A consumer of a queue, after a removal at a stride, of which it is known where it came from: it
has come back from its work, or it was installed since. -/
def Known (s : Stride ι) (q : QueueId) (later : List (Stride ι)) (callback : CallbackId) : Prop :=
  ComesBack s q later callback ∨ Installed q later callback

/-- The callback that was at work as the consumer of a queue at a stride is still at this work. -/
def StillAtWork (s : Stride ι) (q : QueueId) (later : List (Stride ι)) (callback : CallbackId) :
    Prop :=
  s.before.atWork q = some callback ∧ ∀ t ∈ later, t.move ≠ .finish ∧ t.move ≠ .unwind

lemma ComesBack.append {s : Stride ι} {q : QueueId} {later : List (Stride ι)}
    {callback : CallbackId} (h : ComesBack s q later callback) (more : List (Stride ι)) :
    ComesBack s q (later ++ more) callback := by
  obtain ⟨hwork, middle, r, rest, rfl, hr⟩ := h
  refine ⟨hwork, middle, r, rest ++ more, ?_, hr⟩
  rw [List.append_assoc, List.cons_append]

lemma Known.append {s : Stride ι} {q : QueueId} {later : List (Stride ι)} {callback : CallbackId}
    (h : Known s q later callback) (more : List (Stride ι)) :
    Known s q (later ++ more) callback := by
  rcases h with hback | ⟨u, hu, hm⟩
  · exact .inl (hback.append more)
  · exact .inr ⟨u, List.mem_append_left _ hu, hm⟩

lemma StillAtWork.concat {s t : Stride ι} {q : QueueId} {later : List (Stride ι)}
    {callback : CallbackId} (h : StillAtWork s q later callback)
    (ht : t.move ≠ .finish ∧ t.move ≠ .unwind) : StillAtWork s q (later ++ [t]) callback := by
  refine ⟨h.1, fun u hu => ?_⟩
  rcases List.mem_append.mp hu with hu | hu
  · exact h.2 u hu
  · rwa [List.mem_singleton.mp hu]

/-! ### After a removal -/

/-- What is known of the consumers of a queue after it was cleared at a stride: of the one in the
queue it is known where it came from, and so it is of the one at work, unless this is still the one
that was at work then. -/
structure Bereft (s : Stride ι) (q : QueueId) (past : List (Stride ι)) (l : Loop ι) : Prop where
  placed : ∀ callback, (l.reactor.queue q).consumer = some callback → Known s q past callback
  working : ∀ callback, l.atWork q = some callback →
    Known s q past callback ∨ StillAtWork s q past callback

lemma bereft_of_clearConsumer {s : Stride ι} {q : QueueId} (hm : s.move = .clearConsumer q) :
    Bereft s q [] s.after := by
  obtain ⟨hqueue, hactive⟩ := Stride.queue_of_clearConsumer hm
  refine ⟨fun callback hc => ?_, fun callback hwork => ?_⟩
  · rw [hqueue] at hc
    cases hc
  · rw [atWork_congr hactive] at hwork
    exact .inr ⟨hwork, by simp⟩

lemma Bereft.stride {s t : Stride ι} {q : QueueId} {past : List (Stride ι)}
    (h : Bereft s q past t.before) : Bereft s q (past ++ [t]) t.after := by
  have hplaced (consumer : (t.after.reactor.queue q).consumer =
      (t.before.reactor.queue q).consumer) (callback : CallbackId)
      (hc : (t.after.reactor.queue q).consumer = some callback) :
      Known s q (past ++ [t]) callback :=
    (h.placed callback (consumer ▸ hc)).append [t]
  have hworking (work : t.after.atWork q = t.before.atWork q)
      (goesOn : t.before.atWork q ≠ none → t.move ≠ .finish ∧ t.move ≠ .unwind)
      (callback : CallbackId) (hwork : t.after.atWork q = some callback) :
      Known s q (past ++ [t]) callback ∨ StillAtWork s q (past ++ [t]) callback := by
    rw [work] at hwork
    rcases h.working callback hwork with hknown | hstill
    · exact .inl (hknown.append [t])
    · exact .inr (hstill.concat (goesOn (by simp [hwork])))
  have hidle (idle : t.after.active = none) (callback : CallbackId)
      (hwork : t.after.atWork q = some callback) :
      Known s q (past ++ [t]) callback ∨ StillAtWork s q (past ++ [t]) callback := by
    rw [atWork_of_idle idle] at hwork
    cases hwork
  obtain ⟨pushed, taken, hhandled⟩ := t.handled q
  cases hhandled with
  | rests _ goesOn queue work => exact ⟨hplaced (by rw [queue]), hworking work goesOn⟩
  | pushes move queue work =>
      exact ⟨hplaced (by rw [queue]), hworking work (fun _ => by simp [move])⟩
  | drains move queue work =>
      exact ⟨hplaced (by rw [queue]), hworking work (fun _ => by simp [move])⟩
  | sets move queue work =>
      refine ⟨fun callback hc => ?_, hworking work (fun _ => by simp [move])⟩
      rw [queue] at hc
      exact .inr ⟨t, by simp, move, Option.some.inj hc⟩
  | clears move queue work =>
      refine ⟨fun callback hc => ?_, hworking work (fun _ => by simp [move])⟩
      rw [queue] at hc
      cases hc
  | delivers _ _ consumer _ queue active =>
      refine ⟨fun callback hc => ?_, fun callback hwork => ?_⟩
      · rw [queue] at hc
        cases hc
      · rw [atWork_eq_some_iff.mpr ⟨_, active⟩, Option.some.injEq] at hwork
        exact .inl ((h.placed callback (hwork ▸ consumer)).append [t])
  | returns move work queue idle =>
      refine ⟨fun callback hc => ?_, hidle idle⟩
      rw [queue] at hc
      rcases Option.or_eq_some_iff.mp hc with hkept | ⟨hnone, hback⟩
      · exact (h.placed callback hkept).append [t]
      · rw [hback] at work
        rcases h.working callback work with hknown | ⟨hfirst, hpast⟩
        · exact hknown.append [t]
        -- the call that was going on at the removal ends here
        · exact .inl ⟨hfirst, past, t, [], rfl, hpast, move, hnone⟩
  | dies _ _ queue idle => exact ⟨hplaced (by rw [queue]), hidle idle⟩

lemma bereft_after {s : Stride ι} {q : QueueId} (hm : s.move = .clearConsumer q)
    (ms : List (Move ι)) : Bereft s q (s.after.strides ms) (s.after.after ms) :=
  history_rec (bereft_of_clearConsumer hm) (fun _ _ h => h.stride) ms

/-- A callback that is at work stays so until its call ends. -/
lemma Handling.atWork_kept {l l' : Loop ι} {q : QueueId} {m : Move ι} {pushed taken : List ι}
    (h : Handling l q m l' pushed taken) (hfinish : m ≠ .finish) (hunwind : m ≠ .unwind)
    {callback : CallbackId} (hl : l.atWork q = some callback) : l'.atWork q = some callback := by
  cases h with
  | rests _ _ _ work => rw [work, hl]
  | pushes _ _ work => rw [work, hl]
  | drains _ _ work => rw [work, hl]
  | sets _ _ work => rw [work, hl]
  | clears _ _ work => rw [work, hl]
  | delivers _ idle _ _ _ _ =>
      rw [atWork_of_idle idle] at hl
      cases hl
  | returns move _ _ _ => exact absurd move hfinish
  | dies move _ _ _ => exact absurd move hunwind

/-- A consumer that comes back from its work is in its queue again. -/
lemma ComesBack.consumer {s : Stride ι} {q : QueueId} {ms : List (Move ι)} {callback : CallbackId}
    (hm : s.move = .clearConsumer q) (h : ComesBack s q (s.after.strides ms) callback) :
    ∃ r ∈ s.after.strides ms, r.move = .finish ∧
      (r.after.reactor.queue q).consumer = some callback := by
  obtain ⟨hwork, middle, r, rest, hcut, hmiddle, hfinish, hnone⟩ := h
  refine ⟨r, by rw [hcut]; simp, hfinish, ?_⟩
  obtain ⟨ms₁, -, hpast, hbefore, -, -⟩ := exists_moves_of_strides_eq hcut
  have hstill : r.before.atWork q = some callback := by
    rw [← hbefore]
    refine after_of_stride (P := fun l => l.atWork q = some callback)
      (Q := fun t => t.move ≠ .finish ∧ t.move ≠ .unwind)
      (fun t ht hl => (t.handling q).atWork_kept ht.1 ht.2 hl) ?_ (hpast ▸ hmiddle)
    rw [atWork_congr (Stride.queue_of_clearConsumer hm).2, hwork]
  obtain ⟨pushed, taken, hhandled⟩ := r.handled q
  cases hhandled with
  | rests _ goesOn _ _ => exact absurd hfinish (goesOn (by simp [hstill])).1
  | returns _ work queue _ => rw [queue, hnone, Option.none_or, ← work, hstill]
  | pushes move _ _ => simp [hfinish] at move
  | drains move _ _ => simp [hfinish] at move
  | sets move _ _ => simp [hfinish] at move
  | clears move _ _ => simp [hfinish] at move
  | delivers move _ _ _ _ _ => simp [hfinish] at move
  | dies move _ _ _ => simp [hfinish] at move

/-- A stride that starts no consumer of a queue takes out of it what it drains. -/
lemma Stride.itemsTaken_eq_drained {s : Stride ι} {q : QueueId}
    (h : ∀ callback items, ¬s.Starts callback (.consumer q items)) :
    s.itemsTaken q = s.move.drained q s.reply := by
  have hnone : s.notes.filterMap (batch? q) = [] := by
    rw [List.filterMap_eq_nil_iff]
    intro n hn
    cases n with
    | started callback role =>
        cases role with
        | consumer x items =>
            refine if_neg fun hx => ?_
            exact h callback items (hx ▸ hn)
        | _ => rfl
    | _ => rfl
  rw [Stride.itemsTaken, hnone, List.flatten_nil, List.append_nil]

/-- **A consumer that was removed comes back from its work at most.** After a removal of the
consumer of a queue, by whomever, a consumer that is started for this queue has been installed
since, or it was at work for the queue at the time of the removal and has come back to it: its call
came to its end when the queue had no consumer, and this put it back. If no consumer comes back so
and none is installed, then the queue has no consumer, none is started for it, and its items, those
that are pushed later among them, stay in it until they are drained. -/
theorem cleared_consumer_comes_back_from_work (kernel : Kernel) (capacity : Nat)
    (ms : List (Move ι)) (q : QueueId) (past later : List (Stride ι)) (s : Stride ι)
    (cut : (start kernel capacity).strides ms = past ++ s :: later)
    (clears : s.move = .clearConsumer q) :
    (∀ middle t rest callback items, later = middle ++ t :: rest →
      t.Starts callback (.consumer q items) →
      ComesBack s q middle callback ∨ Installed q middle callback) ∧
    (∀ callback, ComesBack s q later callback →
      ∃ r ∈ later, r.move = .finish ∧ (r.after.reactor.queue q).consumer = some callback) ∧
    ((∀ callback, ¬ComesBack s q later callback) → (∀ t ∈ later, t.move ≠ .setConsumer q) →
      (((start kernel capacity).after ms).reactor.queue q).consumer = none ∧
      (∀ t ∈ later, ∀ callback items, ¬t.Starts callback (.consumer q items)) ∧
      itemsDrained q later ++ (((start kernel capacity).after ms).reactor.queue q).items =
        (s.after.reactor.queue q).items ++ itemsPushed q later) := by
  obtain ⟨-, ms₂, -, -, rfl, hafter⟩ := exists_moves_of_strides_eq cut
  have hstarts : ∀ middle t rest callback items, s.after.strides ms₂ = middle ++ t :: rest →
      t.Starts callback (.consumer q items) →
      ComesBack s q middle callback ∨ Installed q middle callback := by
    intro middle t rest callback items hcut ht
    obtain ⟨ms₃, -, hmiddle, hbefore, -, -⟩ := exists_moves_of_strides_eq hcut
    have hbereft := bereft_after clears ms₃
    rw [hmiddle, hbefore] at hbereft
    exact hbereft.placed callback ht.delivers.1
  refine ⟨hstarts, fun callback hback => hback.consumer clears, fun hgone hunset => ?_⟩
  have hunknown {callback : CallbackId} (h : Known s q (s.after.strides ms₂) callback) :
      False := by
    rcases h with hback | ⟨u, hu, hm, -⟩
    · exact hgone callback hback
    · exact hunset u hu hm
  have hquiet : ∀ t ∈ s.after.strides ms₂, ∀ callback items,
      ¬t.Starts callback (.consumer q items) := by
    intro t ht callback items hstart
    obtain ⟨middle, rest, hcut⟩ := List.append_of_mem ht
    have hknown : Known s q middle callback := hstarts middle t rest callback items hcut hstart
    exact hunknown (hcut ▸ hknown.append (t :: rest))
  refine ⟨?_, hquiet, ?_⟩
  · rw [← hafter, Option.eq_none_iff_forall_ne_some]
    intro callback hc
    exact hunknown ((bereft_after clears ms₂).placed callback hc)
  · have hdrained : itemsTaken q (s.after.strides ms₂) = itemsDrained q (s.after.strides ms₂) :=
      List.flatMap_congr fun t ht => t.itemsTaken_eq_drained (hquiet t ht)
    rw [← hafter, ← hdrained]
    exact taken_append_items s.after ms₂ q

/-! ### A removal from a wakeup callback

The queue is cleared while a wakeup callback runs, and an item is pushed later.
-/

namespace ClearedByOther

/-- Everything up to the start of the wakeup callback. -/
def begin : List (Move Nat) := [.setConsumer 0, .wakeUp true, .enter, .advance, .advance]

def clears : Stride Nat := stride ((start (.boot none) 64).after begin) (.clearConsumer 0) rfl

/-- The end of the callback, a push, and a whole round of the driver. -/
def rest : List (Move Nat) :=
  [.finish, .push 0 5, .advance, .advance, .advance, .advance, .advance, .advance]

lemma cut : (start (.boot none) 64).strides (begin ++ .clearConsumer 0 :: rest) =
    (start (.boot none) 64).strides begin ++ clears :: clears.after.strides rest := rfl

lemma gone (callback : CallbackId) :
    ¬ComesBack clears 0 (clears.after.strides rest) callback := fun h => nomatch h.1

lemma unset : ∀ t ∈ clears.after.strides rest, t.move ≠ .setConsumer 0 := by
  intro t ht hm
  have hmem := move_mem ht
  rw [hm] at hmem
  simp [rest] at hmem

end ClearedByOther

/-- The queue stays without a consumer, and its item stays where it is, although it was delivered
by then. -/
theorem cleared_consumer_comes_back_from_work_other :
    ClearedByOther.clears.move = .clearConsumer 0 ∧
      (∀ callback, ¬ComesBack ClearedByOther.clears 0
        (ClearedByOther.clears.after.strides ClearedByOther.rest) callback) ∧
      (∀ t ∈ ClearedByOther.clears.after.strides ClearedByOther.rest, ∀ callback items,
        ¬t.Starts callback (.consumer 0 items)) ∧
      ((start (.boot none) 64).after
        (ClearedByOther.begin ++ .clearConsumer 0 :: ClearedByOther.rest)).pending = [] ∧
      (((start (.boot none) 64).after
        (ClearedByOther.begin ++ .clearConsumer 0 :: ClearedByOther.rest)).reactor.queue 0).items =
          [5] := by
  have hcleared := (cleared_consumer_comes_back_from_work (.boot none) 64 _ 0 _ _ _
    ClearedByOther.cut rfl).2.2 ClearedByOther.gone ClearedByOther.unset
  exact ⟨rfl, ClearedByOther.gone, hcleared.2.1, rfl, hcleared.2.2⟩

/-! ### A removal from the consumer itself

The consumer removes itself while it is at work, and an item is pushed later.
-/

namespace ClearedByItself

/-- Everything up to the start of the consumer. -/
def begin : List (Move Nat) := [.setConsumer 0, .push 0 4, .enter, .advance, .advance]

def clears : Stride Nat := stride ((start (.boot none) 64).after begin) (.clearConsumer 0) rfl

/-- The end of the consumer, a push, and what the driver does up to the next wakeup. -/
def middle : List (Move Nat) := [.finish, .push 0 5, .advance, .advance, .advance]

/-- The driver works off the wakeup. -/
def next : Stride Nat := stride (clears.after.after middle) .advance rfl

lemma cut : (start (.boot none) 64).strides (begin ++ .clearConsumer 0 :: (middle ++ [.advance])) =
    (start (.boot none) 64).strides begin ++
      clears :: (clears.after.strides middle ++ [next]) := rfl

lemma unset : ∀ t ∈ clears.after.strides middle ++ [next], t.move ≠ .setConsumer 0 := by
  intro t ht hm
  have hmem : t.move ∈ middle ++ [.advance] :=
    move_mem (show t ∈ clears.after.strides (middle ++ [.advance]) from ht)
  rw [hm] at hmem
  simp [middle] at hmem

end ClearedByItself

/-- It is not so that no consumer is started for a queue after it was cleared and as long as none is
installed. -/
theorem cleared_consumer_is_started_again :
    ¬∀ (limit : Option Nat) (capacity : Nat) (ms : List (Move Nat))
        (past later : List (Stride Nat)) (s : Stride Nat),
      (start (.boot limit) capacity).strides ms = past ++ s :: later →
      s.move = .clearConsumer 0 → (∀ t ∈ later, t.move ≠ .setConsumer 0) →
      ∀ t ∈ later, ∀ callback items, ¬t.Starts callback (.consumer 0 items) := by
  intro h
  have hnone := h none 64 _ _ _ ClearedByItself.clears ClearedByItself.cut rfl
    ClearedByItself.unset ClearedByItself.next (by simp) 0 [5]
  exact hnone (List.mem_singleton.mpr rfl)

end EventLoop.Loop
