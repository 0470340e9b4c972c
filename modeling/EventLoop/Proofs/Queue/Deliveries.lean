import EventLoop.Proofs.Queue.Items
import EventLoop.Proofs.Wakeups

/-!
No item is left behind. Whoever pushes an item queues a wakeup that delivers the queue, and whoever
works off such a wakeup empties the queue, as long as the queue has a consumer. So once a consumer
is there, something in the queue means that a delivery is still to come.

* `Loop.pending` are the wakeups that are still to be worked off.
* `Loop.Served` says that a queue has a consumer, in its place or at work.
* `Stride.mem_pending_or_consumes` says that a delivery stays pending until it is worked off, and
  `Stride.Consumes.emptied` that it empties a queue that is served.
* `no_item_is_stranded` is the main statement here.
-/

namespace EventLoop.Loop

open Reactor (Note Role)

variable {ι : Type}

/-- The wakeups that are still to be worked off: those that the driver has taken, then the queue. -/
def pending (l : Loop ι) : List Wakeup := l.stage.unworked ++ l.reactor.wakeups

/-- A queue has a consumer, in its place or at work. -/
def Served (l : Loop ι) (q : QueueId) : Prop :=
  (l.reactor.queue q).consumer ≠ none ∨ l.atWork q ≠ none

/-! ### One move -/

/-- A queue that is served stays so, unless its consumer is removed or panics. -/
lemma Handling.served {l l' : Loop ι} {q : QueueId} {m : Move ι} {pushed taken : List ι}
    (h : Handling l q m l' pushed taken) (hclear : m ≠ .clearConsumer q) (hunwind : m ≠ .unwind)
    (hl : l.Served q) : l'.Served q := by
  have hkept (consumer : (l'.reactor.queue q).consumer = (l.reactor.queue q).consumer)
      (work : l'.atWork q = l.atWork q) : l'.Served q := by
    rw [Served, consumer, work]
    exact hl
  cases h with
  | rests _ _ queue work => exact hkept (by rw [queue]) work
  | pushes _ queue work => exact hkept (by rw [queue]) work
  | drains _ queue work => exact hkept (by rw [queue]) work
  | sets _ queue _ => exact .inl (by simp [queue])
  | clears move _ _ => exact absurd move hclear
  | delivers _ _ _ _ _ active =>
      refine .inr ?_
      rw [atWork_eq_some_iff.mpr ⟨_, active⟩]
      exact Option.some_ne_none _
  | returns _ _ queue _ =>
      refine .inl ?_
      rw [queue]
      cases (l.reactor.queue q).consumer <;> exact Option.some_ne_none _
  | dies move _ _ _ => exact absurd move hunwind

lemma Stage.eq_waking_of_unworked {stage : Stage} {w : Wakeup} {rest : List Wakeup}
    (h : stage.unworked = w :: rest) : ∃ events, stage = .waking (w :: rest) events := by
  cases stage with
  | waking _ events => exact ⟨events, by rw [← h]; rfl⟩
  | _ => cases h

/-- Only the driver itself gets on with the wakeups that it has taken. -/
lemma Stride.advance_of_unworked {s : Stride ι} {w : Wakeup} (hunwind : s.move ≠ .unwind)
    (hand : s.before.stage.unworked = w :: s.after.stage.unworked) :
    s.move = .advance ∧
      ∃ events, s.before.stage = .waking (w :: s.after.stage.unworked) events := by
  obtain ⟨events, hstage⟩ := Stage.eq_waking_of_unworked hand
  refine ⟨?_, events, hstage⟩
  by_contra hm
  rcases (s.aside hm).stage with hsame | ⟨hpanic, -⟩ | ⟨-, houtside, -⟩
  · rw [hsame] at hand
    exact absurd (congrArg List.length hand) (by simp)
  · exact hunwind hpanic
  · rw [hstage] at houtside
    cases houtside

/-- A delivery stays pending until the driver works it off, unless the reactor is stopped or a
callback panics. -/
lemma Stride.mem_pending_or_consumes {s : Stride ι} (hrunning : s.after.reactor.stopped = false)
    (hunwind : s.move ≠ .unwind) {q : QueueId} (h : .deliver q ∈ s.before.pending) :
    .deliver q ∈ s.after.pending ∨ s.Consumes q := by
  obtain ⟨hbefore, hstop⟩ := Stride.running_of_after hrunning
  have hpassage := s.passage
  generalize s.notes.filterMap accepted? = accepted, s.notes.filterMap called? = called,
    s.dropped = dropped at hpassage
  rw [pending] at h ⊢
  cases hpassage with
  | rests queue hand _ => exact .inl (by rwa [queue, hand])
  | nudges queue hand _ => exact .inl (by rwa [queue, hand])
  | accepts _ queue hand _ _ =>
      left
      rw [queue, hand, ← List.append_assoc]
      exact List.mem_append_left _ h
  | stops stop _ _ _ => exact absurd stop hstop
  | takes waits _ _ hand =>
      rw [waits.2] at h
      exact .inl (List.mem_append_left _ (hand.symm ▸ h))
  | @works w _ queue hand _ =>
      rw [hand, List.cons_append] at h
      rcases List.mem_cons.mp h with rfl | hrest
      · obtain ⟨hm, events, hstage⟩ := Stride.advance_of_unworked hunwind hand
        exact .inr ⟨hm, hbefore, _, events, hstage⟩
      · exact .inl (by rwa [queue])
  | discards stopped _ _ _ =>
      rw [hbefore] at stopped
      cases stopped
  | loses unwind _ _ _ => exact absurd unwind hunwind
  | breaks queue hand _ => exact .inl (by rwa [queue, hand])

/-- A delivery leaves nothing in a queue that is served. -/
lemma Stride.Consumes.emptied {s : Stride ι} {q : QueueId} (h : s.Consumes q)
    (hserved : s.before.Served q) : (s.after.reactor.queue q).items = [] := by
  have hidle := (s.advance h.1).1
  rcases h.outcome with ⟨hwhy, hreactor, -⟩ | ⟨callback, -, -, hnotes⟩
  · rw [hreactor]
    rcases hwhy with hnone | hempty
    · rcases hserved with hconsumer | hwork
      · exact absurd hnone hconsumer
      · exact absurd (atWork_of_idle hidle q) hwork
    · exact hempty
  · have hstarts : s.Starts callback (.consumer q (s.before.reactor.queue q).items) := by
      rw [Stride.Starts, hnotes]
      exact List.mem_singleton_self _
    rw [hstarts.delivers.2.2.2]

/-- A push queues a delivery. -/
lemma Stride.mem_pending_of_push {s : Stride ι} {q : QueueId} {item : ι}
    (hm : s.move = .push q item) (hrunning : s.before.reactor.stopped = false) :
    .deliver q ∈ s.after.pending := by
  have hmade := s.made
  simp only [hm, step, Reactor.push, Option.some.injEq, Prod.mk.injEq] at hmade
  rcases (s.before.reactor.setQueue q { s.before.reactor.queue q with
      items := (s.before.reactor.queue q).items ++ [item] }).wakeUp_some (.deliver q) with
    ⟨hstopped, -⟩ | ⟨-, haccepted⟩
  · have hsame : s.before.reactor.stopped = true := hstopped
    rw [hrunning] at hsame
    cases hsame
  · rw [haccepted] at hmade
    rw [pending, ← hmade.1]
    refine List.mem_append_right _ ?_
    rw [(Reactor.sameWork_wake _).wakeups]
    exact List.mem_append_right _ (List.mem_singleton_self _)

/-! ### The whole run -/

/-- What carries the argument from the moment at which a queue has got a consumer: the queue goes on
being served, and as long as something is left of what was pushed since, a delivery is pending. -/
structure Attended (q : QueueId) (past : List (Stride ι)) (l : Loop ι) : Prop where
  served : l.Served q
  awaited : itemsPushed q past ≠ [] → (l.reactor.queue q).items ≠ [] → .deliver q ∈ l.pending

lemma Attended.stride {q : QueueId} {past : List (Stride ι)} {s : Stride ι}
    (h : Attended q past s.before) (hclear : s.move ≠ .clearConsumer q)
    (hunwind : s.move ≠ .unwind) (hrunning : s.after.reactor.stopped = false) :
    Attended q (past ++ [s]) s.after := by
  refine ⟨(s.handling q).served hclear hunwind h.served, fun hpushed hitems => ?_⟩
  rw [itemsPushed_append, itemsPushed_singleton] at hpushed
  cases hpush : s.move.pushes? q with
  | some item =>
      have hm : s.move = .push q item := by
        generalize s.move = m at hpush
        cases m with
        | push x item' =>
            obtain ⟨rfl, hitem⟩ := Option.ite_none_right_eq_some.mp hpush
            rw [Option.some.inj hitem]
        | _ => cases hpush
      exact Stride.mem_pending_of_push hm (Stride.running_of_after hrunning).1
  | none =>
      rw [hpush, Option.toList_none, List.append_nil] at hpushed
      have hlaw := (s.handling q).items
      rw [hpush, Option.toList_none, List.append_nil] at hlaw
      have hbefore : (s.before.reactor.queue q).items ≠ [] := by
        rw [← hlaw]
        exact List.append_ne_nil_of_right_ne_nil _ hitems
      rcases Stride.mem_pending_or_consumes hrunning hunwind (h.awaited hpushed hbefore) with
        hpending | hconsumes
      · exact hpending
      · exact absurd (hconsumes.emptied h.served) hitems

/-- **No item is stranded.** A queue gets a consumer, which is replaced perhaps but not removed, an
item is pushed, by whomever, no callback panics, and the reactor is not stopped. Then a delivery of
the queue is pending as long as the queue holds this item, or anything at all: it waits in the queue
of the reactor, or among the wakeups that the driver has taken and not come to. So when all wakeups
have been worked off, nothing is left in the queue. -/
theorem no_item_is_stranded (kernel : Kernel) (capacity : Nat) (ms : List (Move ι)) (q : QueueId)
    (past middle rest : List (Stride ι)) (s p : Stride ι) (item : ι)
    (cut : (start kernel capacity).strides ms = past ++ s :: (middle ++ p :: rest))
    (installs : s.move = .setConsumer q) (pushes : p.move = .push q item)
    (kept : ∀ t ∈ middle ++ p :: rest, t.move ≠ .clearConsumer q ∧ t.move ≠ .unwind)
    (running : ((start kernel capacity).after ms).reactor.stopped = false) :
    ((((start kernel capacity).after ms).reactor.queue q).items ≠ [] →
      .deliver q ∈ ((start kernel capacity).after ms).stage.unworked ∨
        .deliver q ∈ ((start kernel capacity).after ms).reactor.wakeups) ∧
    (((start kernel capacity).after ms).stage.unworked = [] →
      ((start kernel capacity).after ms).reactor.wakeups = [] →
      (((start kernel capacity).after ms).reactor.queue q).items = []) := by
  obtain ⟨-, ms₂, -, -, hlater, hafter⟩ := exists_moves_of_strides_eq cut
  have hinstalled : s.after.Served q :=
    .inl (by rw [Stride.queue_of_setConsumer installs]; exact Option.some_ne_none _)
  have hattended : Attended q (s.after.strides ms₂) (s.after.after ms₂) := by
    refine history_rec
      (P := fun past' l => (∀ t ∈ past', t.move ≠ .clearConsumer q ∧ t.move ≠ .unwind) →
        l.reactor.stopped = false → Attended q past' l)
      (fun _ _ => ⟨hinstalled, fun h => absurd rfl h⟩) ?_ ms₂ (hlater ▸ kept) (hafter ▸ running)
    intro past' t ih hkept hrunning
    obtain ⟨hclear, hunwind⟩ := hkept t (by simp)
    have hbefore := ih (fun u hu => hkept u (List.mem_append_left _ hu))
      (Stride.running_of_after hrunning).1
    exact hbefore.stride hclear hunwind hrunning
  rw [hlater, hafter] at hattended
  have hpushed : itemsPushed q (middle ++ p :: rest) ≠ [] := by
    have hmem : item ∈ itemsPushed q (middle ++ p :: rest) := by
      refine List.mem_filterMap.mpr ⟨p, by simp, ?_⟩
      rw [pushes]
      exact if_pos rfl
    exact List.ne_nil_of_mem hmem
  have hpending := hattended.awaited hpushed
  refine ⟨fun hitems => List.mem_append.mp (hpending hitems), fun hhand hqueue => ?_⟩
  by_contra hitems
  have hmem := hpending hitems
  rw [pending, hhand, hqueue] at hmem
  cases hmem

/-! ### A consumer that pushes and is replaced

A wakeup callback pushes an item in the batch that delivers the queue, the consumer pushes another
one while it is at work, and is replaced before its work is done.
-/

namespace ReplacedConsumer

/-- The queue gets its first consumer. -/
def installs : Stride Nat :=
  stride ((start (.boot none) 64).after [.wakeUp true]) (.setConsumer 0) rfl

/-- Everything up to the start of the consumer. -/
def middle : List (Move Nat) :=
  [.push 0 7, .enter, .advance, .advance, .push 0 8, .finish, .advance]

/-- The consumer pushes an item. -/
def pushes : Stride Nat := stride (installs.after.after middle) (.push 0 9) rfl

/-- The consumer is replaced, and comes to its end. -/
def ends : List (Move Nat) := [.setConsumer 0, .finish]

/-- The driver works off what is pending then. -/
def works : List (Move Nat) := ends ++ [.advance, .advance, .advance, .advance, .finish, .advance]

/-- All of it, with what comes after the push. -/
def moves (rest : List (Move Nat)) : List (Move Nat) :=
  .wakeUp true :: .setConsumer 0 :: (middle ++ .push 0 9 :: rest)

lemma cut (rest : List (Move Nat)) : (start (.boot none) 64).strides (moves rest) =
    (start (.boot none) 64).strides [.wakeUp true] ++
      installs :: (installs.after.strides middle ++ pushes :: pushes.after.strides rest) := rfl

lemma kept {rest : List (Move Nat)} (h : ∀ m ∈ rest, m ≠ .clearConsumer 0 ∧ m ≠ .unwind) :
    ∀ t ∈ installs.after.strides middle ++ pushes :: pushes.after.strides rest,
      t.move ≠ .clearConsumer 0 ∧ t.move ≠ .unwind := by
  intro t ht
  have hmem : t.move ∈ middle ++ .push 0 9 :: rest :=
    move_mem (show t ∈ installs.after.strides (middle ++ .push 0 9 :: rest) from ht)
  have hall : ∀ m ∈ middle ++ .push 0 9 :: rest, m ≠ .clearConsumer 0 ∧ m ≠ .unwind := by
    simpa [middle] using h
  exact hall _ hmem

end ReplacedConsumer

/-- With its item in the queue, the driver has nothing at hand, but a delivery is queued; and after
two more waits, when nothing is pending, the queue is empty. -/
theorem no_item_is_stranded_replaced :
    ReplacedConsumer.installs.move = .setConsumer 0 ∧
      ReplacedConsumer.pushes.move = .push 0 9 ∧
      (((start (.boot none) 64).after
        (ReplacedConsumer.moves ReplacedConsumer.ends)).reactor.queue 0).items = [9] ∧
      (.deliver 0 ∈ ([] : List Wakeup) ∨ .deliver 0 ∈ [Wakeup.deliver 0, .deliver 0]) ∧
      (((start (.boot none) 64).after
        (ReplacedConsumer.moves ReplacedConsumer.works)).reactor.queue 0).items = [] := by
  have hends := no_item_is_stranded (.boot none) 64 _ 0 _ _ _ _ _ 9
    (ReplacedConsumer.cut ReplacedConsumer.ends) rfl rfl
    (ReplacedConsumer.kept (by simp [ReplacedConsumer.ends])) rfl
  have hworks := no_item_is_stranded (.boot none) 64 _ 0 _ _ _ _ _ 9
    (ReplacedConsumer.cut ReplacedConsumer.works) rfl rfl
    (ReplacedConsumer.kept (by simp [ReplacedConsumer.works, ReplacedConsumer.ends])) rfl
  exact ⟨rfl, rfl, rfl, hends.1 (List.cons_ne_nil _ _), hworks.2 rfl rfl⟩

end EventLoop.Loop
