import EventLoop.Proofs.Moves

/-!
What a move can do to a queue and to its consumer, told once and case by case. While a consumer is
at work it is not in its queue; it goes back there when its call comes to its end, unless the queue
has got another one by then.

* `Loop.atWork` is the callback that is running as the consumer of a queue.
* `itemsPushed`, `itemsDrained` and `itemsTaken` are the items of a history that were put into a
  queue, that drains answered, and that were taken out by drains and by consumers.
* `Handling` lists what a move can do to a queue; `Stride.handling` is the main statement here:
  there is nothing else.
* `Stride.Starts.delivers` says what it means for a queue that its consumer is started.
-/

namespace EventLoop

namespace Reactor

variable {ι : Type}

/-! ### The operations on queues -/

lemma SameWork.queue_eq {r r' : Reactor ι} (h : SameWork r r') (q : QueueId) :
    r'.queue q = r.queue q := by
  rw [queue, queue, h.queues]

@[simp] lemma queue_setQueue (r : Reactor ι) (q x : QueueId) (state : ReactiveQueue ι) :
    (r.setQueue q state).queue x = if q = x then state else r.queue x := by
  rw [queue, setQueue, Std.ExtTreeMap.getElem?_insert]
  simp only [Std.compare_eq_iff_eq, queue]
  split <;> rfl

@[simp] lemma queue_wake (r : Reactor ι) (q : QueueId) : r.wake.1.queue q = r.queue q :=
  r.sameWork_wake.queue_eq q

@[simp] lemma queue_wakeUp (r : Reactor ι) (w : Option Wakeup) (q : QueueId) :
    (r.wakeUp w).1.queue q = r.queue q := by
  unfold wakeUp
  split
  · exact r.queue_wake q
  · split
    · rfl
    · exact queue_wake _ q

lemma queue_push (r : Reactor ι) (q x : QueueId) (item : ι) :
    (r.push q item).1.queue x =
      if q = x then { r.queue q with items := (r.queue q).items ++ [item] } else r.queue x := by
  rw [push, queue_wakeUp, queue_setQueue]

/-- What becomes of a delivery: nothing, if the queue has no consumer or no items; or its consumer
leaves it with all its items. -/
lemma takeDelivery_outcome (r : Reactor ι) (q : QueueId) :
    (((r.queue q).consumer = none ∨ (r.queue q).items = []) ∧ r.takeDelivery q = (r, none)) ∨
      ∃ callback, (r.queue q).consumer = some callback ∧ (r.queue q).items ≠ [] ∧
        r.takeDelivery q = (r.setQueue q ⟨[], none⟩, some (callback, (r.queue q).items)) := by
  rw [takeDelivery]
  cases hc : (r.queue q).consumer with
  | none => exact .inl ⟨.inl rfl, rfl⟩
  | some callback =>
      by_cases hitems : (r.queue q).items = []
      · exact .inl ⟨.inr hitems, by simp [hitems]⟩
      · exact .inr ⟨callback, rfl, hitems, by simp [hitems]⟩

/-- A consumer goes back to its queue, unless there is another one. -/
lemma queue_returnConsumer (r : Reactor ι) (q x : QueueId) (callback : CallbackId) :
    (r.returnConsumer q callback).1.queue x =
      if q = x then { r.queue q with consumer := (r.queue q).consumer.or (some callback) }
      else r.queue x := by
  rw [returnConsumer]
  split
  · next held hheld =>
      split
      · next hx => rw [← hx, hheld, Option.some_or, ← hheld]
      · rfl
  · next hnone => rw [setConsumer, queue_setQueue, hnone, Option.none_or]

end Reactor

namespace Loop

open Reactor (Note Role)

variable {ι : Type}

/-! ### The items of a history -/

/-- The callback that is running as the consumer of a queue. -/
def atWork (l : Loop ι) (q : QueueId) : Option CallbackId :=
  l.active.bind fun a =>
    match a.role with
    | .consumer x _ => if x = q then some a.callback else none
    | _ => none

/-- The item that a move puts into a queue. -/
def Move.pushes? (q : QueueId) : Move ι → Option ι
  | .push x item => if x = q then some item else none
  | _ => none

/-- The items that a consumer of a queue is started with. -/
def batch? (q : QueueId) : Note ι → Option (List ι)
  | .started _ (.consumer x items) => if x = q then some items else none
  | _ => none

/-- The items that a move drains from a queue, given its reply. -/
def Move.drained (q : QueueId) : Move ι → Reply ι → List ι
  | .drain x, .items items => if x = q then items else []
  | _, _ => []

/-- The items that a stride takes out of a queue. -/
def Stride.itemsTaken (s : Stride ι) (q : QueueId) : List ι :=
  s.move.drained q s.reply ++ (s.notes.filterMap (batch? q)).flatten

/-- The items that were put into a queue, in their order. -/
def itemsPushed (q : QueueId) (history : List (Stride ι)) : List ι :=
  history.filterMap fun s => s.move.pushes? q

/-- The items that drains of a queue answered, one drain after the other. -/
def itemsDrained (q : QueueId) (history : List (Stride ι)) : List ι :=
  history.flatMap fun s => s.move.drained q s.reply

/-- The items that were taken out of a queue, by drains and by consumers that were started with
them, one batch after the other. -/
def itemsTaken (q : QueueId) (history : List (Stride ι)) : List ι :=
  history.flatMap fun s => s.itemsTaken q

/-- Whether a move is an operation on a queue. -/
def Move.concerns (q : QueueId) : Move ι → Bool
  | .push x _ | .drain x | .setConsumer x | .clearConsumer x => x == q
  | _ => false

/-- Whether a move ends the running callback. -/
def Move.ends : Move ι → Bool
  | .finish | .unwind => true
  | _ => false

/-! ### What a move does to a queue -/

/-- What a move does to a queue and to the consumer that is at work for it, with the items that it
puts into the queue and those that it takes out. -/
inductive Handling (l : Loop ι) (q : QueueId) (m : Move ι) (l' : Loop ι) :
    List ι → List ι → Prop
  /-- Nothing happens to them. -/
  | rests (other : m.concerns q = false)
      (goesOn : l.atWork q ≠ none → m ≠ .finish ∧ m ≠ .unwind)
      (queue : l'.reactor.queue q = l.reactor.queue q) (work : l'.atWork q = l.atWork q) :
      Handling l q m l' [] []
  /-- An item is added. -/
  | pushes {item : ι} (move : m = .push q item)
      (queue : l'.reactor.queue q =
        { l.reactor.queue q with items := (l.reactor.queue q).items ++ [item] })
      (work : l'.atWork q = l.atWork q) : Handling l q m l' [item] []
  /-- The items are drained. -/
  | drains (move : m = .drain q)
      (queue : l'.reactor.queue q = { l.reactor.queue q with items := [] })
      (work : l'.atWork q = l.atWork q) : Handling l q m l' [] (l.reactor.queue q).items
  /-- The queue gets a consumer. -/
  | sets (move : m = .setConsumer q)
      (queue : l'.reactor.queue q = { l.reactor.queue q with consumer := some l.nextCallback })
      (work : l'.atWork q = l.atWork q) : Handling l q m l' [] []
  /-- The queue loses its consumer. -/
  | clears (move : m = .clearConsumer q)
      (queue : l'.reactor.queue q = { l.reactor.queue q with consumer := none })
      (work : l'.atWork q = l.atWork q) : Handling l q m l' [] []
  /-- The consumer goes to work on all the items. -/
  | delivers {callback : CallbackId} (move : m = .advance) (idle : l.active = none)
      (consumer : (l.reactor.queue q).consumer = some callback)
      (nonempty : (l.reactor.queue q).items ≠ []) (queue : l'.reactor.queue q = ⟨[], none⟩)
      (active : l'.active = some ⟨callback, .consumer q (l.reactor.queue q).items⟩) :
      Handling l q m l' [] (l.reactor.queue q).items
  /-- The consumer comes to the end of its work, and goes back unless there is another one. -/
  | returns {callback : CallbackId} (move : m = .finish) (work : l.atWork q = some callback)
      (queue : l'.reactor.queue q =
        { l.reactor.queue q with
          consumer := (l.reactor.queue q).consumer.or (some callback) })
      (idle : l'.active = none) : Handling l q m l' [] []
  /-- The consumer panics at its work. -/
  | dies {callback : CallbackId} (move : m = .unwind) (work : l.atWork q = some callback)
      (queue : l'.reactor.queue q = l.reactor.queue q) (idle : l'.active = none) :
      Handling l q m l' [] []

lemma atWork_congr {l l' : Loop ι} (h : l'.active = l.active) (q : QueueId) :
    l'.atWork q = l.atWork q := by
  rw [atWork, atWork, h]

lemma atWork_eq_some_iff {l : Loop ι} {q : QueueId} {callback : CallbackId} :
    l.atWork q = some callback ↔ ∃ items, l.active = some ⟨callback, .consumer q items⟩ := by
  constructor
  · intro h
    obtain ⟨⟨running, role⟩, ha, hrole⟩ := Option.bind_eq_some_iff.mp h
    cases role with
    | consumer x items =>
        obtain ⟨rfl, hrunning⟩ := Option.ite_none_right_eq_some.mp hrole
        exact ⟨items, by rw [ha, ← Option.some.inj hrunning]⟩
    | readiness token direction => cases hrole
    | wakeup => cases hrole
  · rintro ⟨items, ha⟩
    rw [atWork, ha]
    exact if_pos rfl

@[simp] lemma atWork_of_idle {l : Loop ι} (h : l.active = none) (q : QueueId) :
    l.atWork q = none := by
  rw [atWork, h]
  rfl

lemma Handling.congr {l l' : Loop ι} {q : QueueId} {m : Move ι}
    {pushed pushed' taken taken' : List ι} (h : Handling l q m l' pushed taken)
    (hp : pushed' = pushed) (ht : taken' = taken) : Handling l q m l' pushed' taken' := by
  rwa [hp, ht]

/-- A move that is no operation on the queue and does not end the running callback leaves the queue
alone, as long as the queue and the running callback stay the same. -/
lemma Handling.of_same {l l' : Loop ι} {q : QueueId} {m : Move ι} (hm : m.concerns q = false)
    (hends : m.ends = false) (hq : l'.reactor.queue q = l.reactor.queue q)
    (ha : l'.active = l.active) : Handling l q m l' [] [] := by
  refine .rests hm (fun _ => ⟨?_, ?_⟩) hq (atWork_congr ha q)
  · rintro rfl
    cases hends
  · rintro rfl
    cases hends

lemma filterMap_batch?_of_noStart {notes : List (Note ι)} (h : NoStart notes) (q : QueueId) :
    notes.filterMap (batch? q) = [] := by
  rw [List.filterMap_eq_nil_iff]
  intro n hn
  cases n with
  | started callback role => exact absurd hn (h callback role)
  | _ => rfl

/-- What the driver's own moves do to a queue. -/
lemma Advance.handling {l l' : Loop ι} {notes : List (Note ι)} (h : Advance l l' notes)
    (hl : l.active = none) (q : QueueId) :
    Handling l q .advance l' [] (notes.filterMap (batch? q)).flatten := by
  have hidle {l' : Loop ι} (hq : l'.reactor.queue q = l.reactor.queue q)
      (hw : l'.atWork q = none) : Handling l q .advance l' [] [] :=
    .rests rfl (fun h => absurd (atWork_of_idle hl q) h) hq (hw.trans (atWork_of_idle hl q).symm)
  cases h with
  | @wakes k batch _ _ _ _ =>
      refine Handling.congr (hidle ?_ ?_) rfl ?_
      · rfl
      · exact atWork_of_idle hl q
      · split <;> rfl
  | @discards w rest events _ _ =>
      refine Handling.congr (hidle ?_ ?_) rfl ?_
      · rfl
      · exact atWork_of_idle hl q
      · rw [filterMap_batch?_of_noStart (noStart_discards _)]
        rfl
  | @delivers x rest events callback items _ _ delivery =>
      rcases l.reactor.takeDelivery_outcome x with ⟨-, hnone⟩ | ⟨mine, hc, hne, htake⟩
      · rw [hnone] at delivery
        cases delivery
      · rw [htake, Option.some.injEq, Prod.mk.injEq] at delivery
        obtain ⟨rfl, rfl⟩ := delivery
        by_cases hx : x = q
        · subst hx
          refine (Handling.delivers rfl hl hc hne ?_ rfl).congr rfl ?_
          · simp [htake]
          · simp [batch?]
        · refine (hidle ?_ ?_).congr rfl ?_
          · simp [htake, hx]
          · simp [atWork, hx]
          · simp [batch?, hx]
  | @writes e rest fd registration callback _ _ _ armed handler =>
      have htaken := l.reactor.taken fd armed handler
      refine (hidle (htaken.sameWork.queue_eq q) rfl).congr rfl ?_
      rw [List.filterMap_append, filterMap_batch?_of_noStart
        (noStart_of_registration (ofRegistration_takeWrite l.reactor fd registration))]
      rfl
  | _ => exact hidle rfl (by first | rfl | exact atWork_of_idle hl q)

/-- What the moves other than the driver's own do to a queue. -/
lemma handling_of_step {l l' : Loop ι} {m : Move ι} {reply : Reply ι} {notes : List (Note ι)}
    (h : l.step m = some (l', reply, notes)) (hm : m ≠ .advance) (q : QueueId) :
    Handling l q m l' (m.pushes? q).toList (m.drained q reply) := by
  cases m with
  | advance => exact absurd rfl hm
  | add fd i =>
      simp only [step, Loop.add, Option.some.injEq, Prod.mk.injEq] at h
      obtain ⟨rfl, -, -⟩ := h
      have hwork := (l.reactor.added fd i l.nextCallback).sameWork
      exact .of_same rfl rfl (hwork.queue_eq q) rfl
  | remove fd i =>
      simp only [step, Loop.remove, Option.some.injEq, Prod.mk.injEq] at h
      obtain ⟨rfl, -, -⟩ := h
      exact .of_same rfl rfl ((l.reactor.removed fd i).sameWork.queue_eq q) rfl
  | requestWrite fd =>
      simp only [step, Option.some.injEq, Prod.mk.injEq] at h
      obtain ⟨rfl, -, -⟩ := h
      exact .of_same rfl rfl ((l.reactor.requested fd).sameWork.queue_eq q) rfl
  | stop =>
      simp only [step, Loop.stop, Reactor.stop, Option.some.injEq, Prod.mk.injEq] at h
      obtain ⟨rfl, -, -⟩ := h
      exact .of_same rfl rfl (Reactor.queue_wake _ q) rfl
  | wakeUp withCallback =>
      simp only [step, Loop.wakeUp, Option.some.injEq, Prod.mk.injEq] at h
      obtain ⟨rfl, -, -⟩ := h
      refine .of_same rfl rfl ?_ ?_
      · split <;> exact Reactor.queue_wakeUp _ _ q
      · split <;> rfl
  | push x item =>
      simp only [step, Option.some.injEq, Prod.mk.injEq] at h
      obtain ⟨rfl, rfl, -⟩ := h
      by_cases hx : x = q
      · subst hx
        refine Handling.congr (.pushes rfl ?_ rfl) ?_ rfl
        · exact (l.reactor.queue_push x x item).trans (if_pos rfl)
        · simp [Move.pushes?]
      · refine Handling.congr (.of_same ?_ rfl ?_ rfl) ?_ rfl
        · simp [Move.concerns, hx]
        · exact (l.reactor.queue_push x q item).trans (if_neg hx)
        · simp [Move.pushes?, hx]
  | drain x =>
      simp only [step, Reactor.drainQueue, Option.some.injEq, Prod.mk.injEq] at h
      obtain ⟨rfl, rfl, -⟩ := h
      by_cases hx : x = q
      · subst hx
        refine Handling.congr (.drains rfl ?_ rfl) rfl (if_pos rfl)
        simp
      · refine Handling.congr (.of_same ?_ rfl ?_ rfl) rfl (if_neg hx)
        · simp [Move.concerns, hx]
        · simp [hx]
  | setConsumer x =>
      simp only [step, Loop.setConsumer, newCallback, Reactor.setConsumer, Option.some.injEq,
        Prod.mk.injEq] at h
      obtain ⟨rfl, rfl, -⟩ := h
      by_cases hx : x = q
      · subst hx
        exact .sets rfl (by simp) rfl
      · exact .of_same (by simp [Move.concerns, hx]) rfl (by simp [hx]) rfl
  | clearConsumer x =>
      simp only [step, Loop.clearConsumer, Reactor.clearConsumer, Option.some.injEq,
        Prod.mk.injEq] at h
      obtain ⟨rfl, rfl, -⟩ := h
      by_cases hx : x = q
      · subst hx
        exact .clears rfl (by simp) rfl
      · exact .of_same (by simp [Move.concerns, hx]) rfl (by simp [hx]) rfl
  | file action =>
      simp only [step, Option.map_eq_some_iff, Prod.mk.injEq] at h
      obtain ⟨_, -, rfl, -, -⟩ := h
      exact .of_same rfl rfl rfl rfl
  | breakWatching =>
      simp only [step, Option.some.injEq, Prod.mk.injEq] at h
      obtain ⟨rfl, -, -⟩ := h
      exact .of_same rfl rfl rfl rfl
  | breakWakeup =>
      simp only [step, Option.some.injEq, Prod.mk.injEq] at h
      obtain ⟨rfl, -, -⟩ := h
      exact .of_same rfl rfl rfl rfl
  | enter =>
      simp only [step, Option.ite_none_right_eq_some, Option.some.injEq, Prod.mk.injEq] at h
      obtain ⟨-, rfl, -, -⟩ := h
      exact .of_same rfl rfl rfl rfl
  | finish =>
      simp only [step, finish, Option.map_map, Option.map_eq_some_iff, Function.comp_apply,
        Prod.mk.injEq] at h
      obtain ⟨a, ha, rfl, rfl, -⟩ := h
      rcases a with ⟨callback, role⟩
      cases role with
      | readiness token direction =>
          have hnobody : l.atWork q = none := by rw [atWork, ha]; rfl
          exact .rests rfl (absurd hnobody) rfl hnobody.symm
      | wakeup =>
          have hnobody : l.atWork q = none := by rw [atWork, ha]; rfl
          exact .rests rfl (absurd hnobody) rfl hnobody.symm
      | consumer x items =>
          have hqueue := l.reactor.queue_returnConsumer x q callback
          by_cases hx : x = q
          · subst hx
            exact .returns rfl (atWork_eq_some_iff.mpr ⟨items, ha⟩) (hqueue.trans (if_pos rfl)) rfl
          · have hnobody : l.atWork q = none := by rw [atWork, ha]; exact if_neg hx
            exact .rests rfl (absurd hnobody) (hqueue.trans (if_neg hx)) hnobody.symm
  | unwind =>
      simp only [step, unwind, leave, Option.map_map, Option.map_eq_some_iff, Function.comp_apply,
        Prod.mk.injEq] at h
      obtain ⟨a, ha, rfl, rfl, -⟩ := h
      cases hwork : l.atWork q with
      | none => exact .rests rfl (absurd hwork) rfl hwork.symm
      | some callback => exact .dies rfl hwork rfl rfl

/-- **What a move does to a queue is one of the listed handlings**, with the items that it puts in
and takes out. -/
theorem Stride.handling (s : Stride ι) (q : QueueId) :
    Handling s.before q s.move s.after (s.move.pushes? q).toList (s.itemsTaken q) := by
  by_cases hm : s.move = .advance
  · obtain ⟨hidle, hadvance⟩ := s.advance hm
    rw [Stride.itemsTaken, hm]
    exact hadvance.handling hidle q
  · refine (handling_of_step s.made hm q).congr rfl ?_
    rw [Stride.itemsTaken, filterMap_batch?_of_noStart (s.aside hm).noStart, List.flatten_nil,
      List.append_nil]

lemma Stride.handled (s : Stride ι) (q : QueueId) :
    ∃ pushed taken, Handling s.before q s.move s.after pushed taken :=
  ⟨_, _, s.handling q⟩

/-- A consumer that is started is the one that the queue had, and gets all the items of the queue,
of which there are some. The queue is left with nothing. -/
lemma Stride.Starts.delivers {s : Stride ι} {callback : CallbackId} {q : QueueId} {items : List ι}
    (h : s.Starts callback (.consumer q items)) :
    (s.before.reactor.queue q).consumer = some callback ∧
      (s.before.reactor.queue q).items = items ∧ items ≠ [] ∧
      s.after.reactor.queue q = ⟨[], none⟩ := by
  obtain ⟨hm, hidle, -, hactive⟩ := h.advance
  have hnow := atWork_eq_some_iff.mpr ⟨items, hactive⟩
  have hbefore := atWork_of_idle hidle q
  have hsame (work : s.after.atWork q = s.before.atWork q) : False := by
    rw [hnow, hbefore] at work
    cases work
  obtain ⟨pushed, taken, hhandled⟩ := s.handled q
  cases hhandled with
  | rests _ _ _ work => exact (hsame work).elim
  | pushes _ _ work => exact (hsame work).elim
  | drains _ _ work => exact (hsame work).elim
  | sets _ _ work => exact (hsame work).elim
  | clears _ _ work => exact (hsame work).elim
  | delivers _ _ consumer nonempty queue active =>
      rw [hactive, Option.some.injEq, Activation.mk.injEq, Role.consumer.injEq] at active
      obtain ⟨rfl, -, rfl⟩ := active
      exact ⟨consumer, rfl, nonempty, queue⟩
  | returns move _ _ _ => simp [hm] at move
  | dies move _ _ _ => simp [hm] at move

/-- A push answers how many items there are in the queue then. -/
lemma Stride.reply_of_push {s : Stride ι} {q : QueueId} {item : ι} (hm : s.move = .push q item) :
    s.reply = .count (s.after.reactor.queue q).items.length := by
  have hmade := s.made
  simp only [hm, step, Option.some.injEq, Prod.mk.injEq] at hmade
  obtain ⟨hafter, hreply, -⟩ := hmade
  rw [← hafter, ← hreply, Reactor.queue_push, if_pos rfl]
  rfl

lemma Stride.queue_of_setConsumer {s : Stride ι} {q : QueueId} (hm : s.move = .setConsumer q) :
    s.after.reactor.queue q =
      { s.before.reactor.queue q with consumer := some s.before.nextCallback } := by
  have hmade := s.made
  simp only [hm, step, Loop.setConsumer, newCallback, Reactor.setConsumer, Option.some.injEq,
    Prod.mk.injEq] at hmade
  rw [← hmade.1, Reactor.queue_setQueue, if_pos rfl]

lemma Stride.queue_of_clearConsumer {s : Stride ι} {q : QueueId}
    (hm : s.move = .clearConsumer q) :
    s.after.reactor.queue q = { s.before.reactor.queue q with consumer := none } ∧
      s.after.active = s.before.active := by
  have hmade := s.made
  simp only [hm, step, Loop.clearConsumer, Reactor.clearConsumer, Option.some.injEq,
    Prod.mk.injEq] at hmade
  rw [← hmade.1, Reactor.queue_setQueue, if_pos rfl]
  exact ⟨rfl, rfl⟩

end Loop

end EventLoop
