import EventLoop.Proofs.Queue.Moves

/-!
The items of a queue, from the push to the drain or to the consumer that gets them. Whoever takes
items takes all there are, so that they leave the queue in the order in which they came.

* `Handling.items` is the law of one move: what it takes out and what is in the queue after it is
  what was in the queue before and what it puts in, in this order.
* `taken_append_items` is what follows for a run.
* `Stride.Consumes` says that the driver works off a wakeup of the queue, and
  `Stride.Consumes.outcome` what comes of it.
* `items_leave_in_order` is the main statement here.
-/

namespace EventLoop.Loop

open Reactor (Note Role)

variable {ι : Type}

lemma itemsPushed_append (q : QueueId) (history history' : List (Stride ι)) :
    itemsPushed q (history ++ history') = itemsPushed q history ++ itemsPushed q history' :=
  List.filterMap_append

lemma itemsPushed_singleton (q : QueueId) (s : Stride ι) :
    itemsPushed q [s] = (s.move.pushes? q).toList := by
  rw [itemsPushed, List.filterMap_cons, List.filterMap_nil]
  cases s.move.pushes? q <;> rfl

lemma itemsTaken_append (q : QueueId) (history history' : List (Stride ι)) :
    itemsTaken q (history ++ history') = itemsTaken q history ++ itemsTaken q history' :=
  List.flatMap_append

lemma itemsTaken_singleton (q : QueueId) (s : Stride ι) : itemsTaken q [s] = s.itemsTaken q :=
  List.flatMap_singleton ..

/-! ### One move -/

/-- What a move takes out of a queue comes first in it, and what it puts in comes last. -/
lemma Handling.items {l l' : Loop ι} {q : QueueId} {m : Move ι} {pushed taken : List ι}
    (h : Handling l q m l' pushed taken) :
    taken ++ (l'.reactor.queue q).items = (l.reactor.queue q).items ++ pushed := by
  cases h with
  | rests _ _ queue _ => rw [queue, List.nil_append, List.append_nil]
  | pushes _ queue _ => rw [queue, List.nil_append]
  | drains _ queue _ => rw [queue]
  | sets _ queue _ => rw [queue, List.nil_append, List.append_nil]
  | clears _ queue _ => rw [queue, List.nil_append, List.append_nil]
  | delivers _ _ _ _ queue _ => rw [queue]
  | returns _ _ queue _ => rw [queue, List.nil_append, List.append_nil]
  | dies _ _ queue _ => rw [queue, List.nil_append, List.append_nil]

/-- The driver works off a wakeup that hands the items of a queue to its consumer. -/
def Stride.Consumes (s : Stride ι) (q : QueueId) : Prop :=
  s.move = .advance ∧ s.before.reactor.stopped = false ∧
    ∃ rest events, s.before.stage = .waking (.deliver q :: rest) events

/-- With no consumer or no items, nothing comes of a delivery; otherwise the consumer is started
with all the items. -/
lemma Stride.Consumes.outcome {s : Stride ι} {q : QueueId} (h : s.Consumes q) :
    (((s.before.reactor.queue q).consumer = none ∨ (s.before.reactor.queue q).items = []) ∧
        s.after.reactor = s.before.reactor ∧ s.notes = []) ∨
      ∃ callback, (s.before.reactor.queue q).consumer = some callback ∧
        (s.before.reactor.queue q).items ≠ [] ∧
        s.notes = [.started callback (.consumer q (s.before.reactor.queue q).items)] := by
  obtain ⟨hm, hrunning, rest, events, hstage⟩ := h
  have hidle := (s.advance hm).1
  have hmade := s.made
  simp only [hm, step, Loop.advance, hidle, hstage, workOff, hrunning, Option.isSome_none,
    Bool.false_eq_true, if_false, Option.map_some, Option.some.injEq, Prod.mk.injEq] at hmade
  obtain ⟨hafter, -, hnotes⟩ := hmade
  rcases s.before.reactor.takeDelivery_outcome q with ⟨hwhy, htake⟩ | ⟨callback, hc, hne, htake⟩
  · rw [htake] at hafter hnotes
    exact .inl ⟨hwhy, by rw [← hafter]; rfl, hnotes.symm⟩
  · rw [htake] at hnotes
    exact .inr ⟨callback, hc, hne, hnotes.symm⟩

/-- The driver takes nothing out of a queue without a consumer. -/
lemma Stride.untouched_of_no_consumer {s : Stride ι} {q : QueueId} (hm : s.move = .advance)
    (hc : (s.before.reactor.queue q).consumer = none) :
    s.itemsTaken q = [] ∧ s.after.reactor.queue q = s.before.reactor.queue q := by
  have hhandling := s.handling q
  generalize s.itemsTaken q = taken, (s.move.pushes? q).toList = pushed at hhandling ⊢
  cases hhandling with
  | rests _ _ queue _ => exact ⟨rfl, queue⟩
  | pushes move _ _ => simp [hm] at move
  | drains move _ _ => simp [hm] at move
  | sets move _ _ => simp [hm] at move
  | clears move _ _ => simp [hm] at move
  | delivers _ _ consumer _ _ _ => simp [hc] at consumer
  | returns move _ _ _ => simp [hm] at move
  | dies move _ _ _ => simp [hm] at move

/-! ### The whole run -/

/-- Over a run, the items that are taken out of a queue and those that are left in it are those that
were there and those that were put in, in this order. -/
theorem taken_append_items (l : Loop ι) (ms : List (Move ι)) (q : QueueId) :
    itemsTaken q (l.strides ms) ++ ((l.after ms).reactor.queue q).items =
      (l.reactor.queue q).items ++ itemsPushed q (l.strides ms) := by
  refine history_rec (P := fun past l' => itemsTaken q past ++ (l'.reactor.queue q).items =
    (l.reactor.queue q).items ++ itemsPushed q past) ?_ ?_ ms
  · rw [itemsTaken, itemsPushed, List.flatMap_nil, List.filterMap_nil, List.nil_append,
      List.append_nil]
  · intro past s ih
    rw [itemsTaken_append, itemsPushed_append, itemsTaken_singleton, itemsPushed_singleton]
    calc itemsTaken q past ++ s.itemsTaken q ++ (s.after.reactor.queue q).items
        = itemsTaken q past ++ (s.itemsTaken q ++ (s.after.reactor.queue q).items) :=
          List.append_assoc ..
      _ = itemsTaken q past ++
            ((s.before.reactor.queue q).items ++ (s.move.pushes? q).toList) := by
          rw [(s.handling q).items]
      _ = (l.reactor.queue q).items ++ itemsPushed q past ++ (s.move.pushes? q).toList := by
          rw [← List.append_assoc, ih]
      _ = (l.reactor.queue q).items ++ (itemsPushed q past ++ (s.move.pushes? q).toList) :=
          List.append_assoc ..

/-- **The items of a queue leave it in the order in which they were pushed.** What drains answered
and what consumers were started with, one after the other, followed by what is still in the queue,
is what was pushed. A consumer is started with some item at least; a delivery to a queue without a
consumer takes nothing, and one to a queue with a consumer hands over all that there is; and a push
answers how many items are in the queue then. -/
theorem items_leave_in_order (kernel : Kernel) (capacity : Nat) (ms : List (Move ι))
    (q : QueueId) :
    itemsTaken q ((start kernel capacity).strides ms) ++
        (((start kernel capacity).after ms).reactor.queue q).items =
      itemsPushed q ((start kernel capacity).strides ms) ∧
    (∀ s ∈ (start kernel capacity).strides ms, ∀ callback items,
      s.Starts callback (.consumer q items) → items ≠ []) ∧
    (∀ s ∈ (start kernel capacity).strides ms, s.Consumes q →
      (s.before.reactor.queue q).consumer = none →
      s.itemsTaken q = [] ∧ s.after.reactor.queue q = s.before.reactor.queue q) ∧
    (∀ s ∈ (start kernel capacity).strides ms, s.Consumes q →
      ∀ callback, (s.before.reactor.queue q).consumer = some callback →
      (s.before.reactor.queue q).items ≠ [] →
      s.Starts callback (.consumer q (s.before.reactor.queue q).items)) ∧
    (∀ s ∈ (start kernel capacity).strides ms, ∀ item, s.move = .push q item →
      s.reply = .count (s.after.reactor.queue q).items.length) := by
  refine ⟨?_, ?_, ?_, ?_, ?_⟩
  · exact taken_append_items (start kernel capacity) ms q
  · intro s _ callback items hstarts
    exact hstarts.delivers.2.2.1
  · intro s _ hconsumes hnone
    exact s.untouched_of_no_consumer hconsumes.1 hnone
  · intro s _ hconsumes callback hc hne
    rcases hconsumes.outcome with ⟨hwhy, -⟩ | ⟨mine, hmine, -, hnotes⟩
    · rcases hwhy with hnone | hempty
      · rw [hc] at hnone
        cases hnone
      · exact absurd hempty hne
    · rw [hc, Option.some.injEq] at hmine
      rw [hmine, Stride.Starts, hnotes]
      exact List.mem_singleton_self _
  · intro s _ item hm
    exact s.reply_of_push hm

/-! ### A consumer that panics

A consumer gets two items, pushes a third one while it is at work, and panics, which takes it away.
The next run finds the queue without a consumer, and the items are drained.
-/

namespace PanickingConsumer

/-- Everything up to the push from inside the consumer. -/
def begin : List (Move Nat) :=
  [.setConsumer 0, .push 0 7, .push 0 8, .enter, .advance, .advance, .push 0 9]

/-- The driver starts the consumer. -/
def starts : Stride Nat := stride ((start (.boot none) 64).after (begin.take 5)) .advance rfl

/-- The panic, another push, and a run up to the first wakeup. -/
def next : List (Move Nat) := begin ++ [.unwind, .push 0 6, .enter, .advance]

/-- The driver works off a wakeup of the queue. -/
def consumes : Stride Nat := stride ((start (.boot none) 64).after next) .advance rfl

/-- All of it. -/
def moves : List (Move Nat) := next ++ [.advance, .drain 0, .push 0 5]

lemma starts_mem : starts ∈ (start (.boot none) 64).strides moves := by
  have hcut : (start (.boot none) 64).strides moves =
      (start (.boot none) 64).strides (begin.take 5) ++
        starts :: starts.after.strides (moves.drop 6) := rfl
  rw [hcut]
  simp

lemma consumes_mem : consumes ∈ (start (.boot none) 64).strides moves := by
  have hcut : (start (.boot none) 64).strides moves = (start (.boot none) 64).strides next ++
      consumes :: consumes.after.strides [.drain 0, .push 0 5] := rfl
  rw [hcut]
  simp

lemma consumes_consumes : consumes.Consumes 0 := ⟨rfl, rfl, [.deliver 0], [], rfl⟩

end PanickingConsumer

/-- The batch of the consumer and the drained items stand in the order of the pushes, before the
item that was pushed last; the consumer has not got nothing, and the delivery after the panic takes
nothing. -/
theorem items_leave_in_order_panicking :
    itemsTaken 0 ((start (.boot none) 64).strides PanickingConsumer.moves) ++ [5] =
        [7, 8, 9, 6, 5] ∧
      PanickingConsumer.starts.Starts 0 (.consumer 0 [7, 8]) ∧ [7, 8] ≠ [] ∧
      PanickingConsumer.consumes.Consumes 0 ∧
      PanickingConsumer.consumes.itemsTaken 0 = [] ∧
      (PanickingConsumer.consumes.after.reactor.queue 0).items = [9, 6] := by
  have hall := items_leave_in_order (.boot none) 64 PanickingConsumer.moves 0
  have hstarts : PanickingConsumer.starts.Starts 0 (.consumer 0 [7, 8]) :=
    List.mem_singleton.mpr rfl
  have huntouched := hall.2.2.1 _ PanickingConsumer.consumes_mem
    PanickingConsumer.consumes_consumes rfl
  refine ⟨hall.1, hstarts, ?_, PanickingConsumer.consumes_consumes, huntouched.1, ?_⟩
  · exact hall.2.1 _ PanickingConsumer.starts_mem _ _ hstarts
  · rw [huntouched.2]
    rfl

end EventLoop.Loop
