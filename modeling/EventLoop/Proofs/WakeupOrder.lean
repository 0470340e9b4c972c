import EventLoop.Proofs.Wakeups

/-!
The callbacks of wakeups run at most once, in the order in which they were accepted, and not after a
stop.

* `Ordered` says that what was started, what the driver has taken and what is queued stand in this
  order among what was accepted; `ordered` that this is so at any time.
* `count_eq` says that without a panic nothing else becomes of an accepted callback than to be
  started, dropped, taken or queued.
* `wakeups_run_once_in_order` is the main statement here.
-/

namespace EventLoop.Loop

open Reactor (Note)

variable {ι : Type}

/-- The move hands over a callback as a wakeup, and it is accepted. -/
def Stride.Accepts (s : Stride ι) (callback : CallbackId) : Prop :=
  .accepted (.call callback) ∈ s.notes

lemma Stride.Accepts.mem {s : Stride ι} {callback : CallbackId} (h : s.Accepts callback) :
    .call callback ∈ s.notes.filterMap accepted? :=
  List.mem_filterMap.mpr ⟨_, h, rfl⟩

lemma Stride.Starts.mem_called {s : Stride ι} {callback : CallbackId}
    (h : s.Starts callback .wakeup) : callback ∈ s.notes.filterMap called? :=
  List.mem_filterMap.mpr ⟨_, h, rfl⟩

lemma accepted_concat (past : List (Stride ι)) (s : Stride ι) :
    accepted (past ++ [s]) =
      accepted past ++ (s.notes.filterMap accepted?).filterMap Wakeup.callback? := by
  rw [accepted, noted_concat, List.filterMap_append]
  rfl

lemma called_concat (past : List (Stride ι)) (s : Stride ι) :
    called (past ++ [s]) = called past ++ s.notes.filterMap called? := noted_concat _ _ _

lemma dropped_concat (past : List (Stride ι)) (s : Stride ι) :
    dropped (past ++ [s]) = dropped past ++ s.dropped := by
  simp [dropped]

lemma filterMap_callback?_cons (w : Wakeup) (rest : List Wakeup) :
    (w :: rest).filterMap Wakeup.callback? =
      w.callback?.toList ++ rest.filterMap Wakeup.callback? := by
  cases w <;> rfl

/-! ### One move -/

/-- What a move starts, and what is at hand and in the queue after it, was at hand, in the queue or
accepted, in this order. -/
lemma Passage.sublist {l l' : Loop ι} {m : Move ι} {accepted : List Wakeup}
    {called dropped : List CallbackId} (h : Passage l m l' accepted called dropped) :
    (called ++ (l'.atHand ++ l'.queued)).Sublist
      (l.atHand ++ l.queued ++ accepted.filterMap Wakeup.callback?) := by
  simp only [atHand, queued]
  cases h with
  | rests queue hand _ => simp [queue, hand]
  | nudges queue hand _ => simp [queue, hand]
  | accepts _ queue hand _ _ => simp [queue, hand]
  | stops _ queue hand _ => simp [queue, hand]
  | takes waits _ queue hand => simp [queue, hand, waits.2]
  | works _ queue hand _ => simp [queue, hand, filterMap_callback?_cons]
  | discards _ queue hand _ => simp [queue, hand]
  | loses _ queue hand _ => simp [queue, hand]
  | breaks queue hand _ => simp [queue, hand]

/-- Whatever a move but a panic does, no callback gets lost. -/
lemma Passage.count {l l' : Loop ι} {m : Move ι} {accepted : List Wakeup}
    {called dropped : List CallbackId} (h : Passage l m l' accepted called dropped)
    (hm : m ≠ .unwind) (callback : CallbackId) :
    called.count callback + dropped.count callback + l'.atHand.count callback +
        l'.queued.count callback =
      l.atHand.count callback + l.queued.count callback +
        (accepted.filterMap Wakeup.callback?).count callback := by
  simp only [atHand, queued]
  cases h with
  | rests queue hand _ => simp [queue, hand]
  | nudges queue hand _ => simp [queue, hand]
  | accepts _ queue hand _ _ =>
      simp only [queue, hand, List.filterMap_append, List.count_append, List.count_nil]
      omega
  | stops _ queue hand _ =>
      simp only [queue, hand, queued, List.filterMap_nil, List.count_nil]
      omega
  | takes waits _ queue hand => simp [queue, hand, waits.2]
  | works _ queue hand _ =>
      simp [queue, hand, filterMap_callback?_cons]
  | discards _ queue hand _ => simp [queue, hand, atHand]
  | loses unwind _ _ _ => exact absurd unwind hm
  | breaks queue hand _ => simp [queue, hand]

/-- The callback that a move accepts is the one that it hands over. -/
lemma Passage.fresh {l l' : Loop ι} {m : Move ι} {accepted : List Wakeup}
    {called dropped : List CallbackId} (h : Passage l m l' accepted called dropped) :
    accepted.filterMap Wakeup.callback? = [] ∨
      accepted.filterMap Wakeup.callback? = [l.nextCallback] ∧
        l'.nextCallback = l.nextCallback + 1 := by
  cases h with
  | @accepts w _ _ _ _ fresh =>
      rw [filterMap_callback?_cons, List.filterMap_nil, List.append_nil]
      cases hw : w.callback? with
      | none => exact .inl rfl
      | some callback =>
          obtain ⟨rfl, hnext⟩ := fresh callback hw
          exact .inr ⟨rfl, hnext⟩
  | _ => exact .inl rfl

/-- A stopped reactor accepts no wakeup, starts none, and its queue stays empty. -/
lemma Passage.stopped {l l' : Loop ι} {m : Move ι} {accepted : List Wakeup}
    {called dropped : List CallbackId} (h : Passage l m l' accepted called dropped)
    (hl : l.reactor.stopped = true) :
    accepted = [] ∧ called = [] ∧ (l.reactor.wakeups = [] → l'.reactor.wakeups = []) := by
  cases h with
  | rests queue _ _ => exact ⟨rfl, rfl, queue.trans⟩
  | nudges queue _ _ => exact ⟨rfl, rfl, queue.trans⟩
  | accepts running _ _ _ _ => simp [hl] at running
  | stops _ queue _ _ => exact ⟨rfl, rfl, fun _ => queue⟩
  | takes _ running _ _ => simp [hl] at running
  | works running _ _ _ => simp [hl] at running
  | discards _ queue _ _ => exact ⟨rfl, rfl, queue.trans⟩
  | loses _ queue _ _ => exact ⟨rfl, rfl, queue.trans⟩
  | breaks queue _ _ => exact ⟨rfl, rfl, queue.trans⟩

/-- What is started was at hand. -/
lemma Passage.called_subset {l l' : Loop ι} {m : Move ι} {accepted : List Wakeup}
    {called dropped : List CallbackId} (h : Passage l m l' accepted called dropped) :
    called ⊆ l.atHand := by
  cases h with
  | works _ _ hand _ => simp [atHand, hand, filterMap_callback?_cons]
  | _ => exact List.nil_subset _

/-- The driver takes wakeups by waiting only, and a move that accepts a wakeup is no wait. -/
lemma Passage.hand_subset {l l' : Loop ι} {m : Move ι} {accepted : List Wakeup}
    {called dropped : List CallbackId} (h : Passage l m l' accepted called dropped)
    (hm : ¬(m = .advance ∧ l.stage = .head) ∨ accepted ≠ []) : l'.atHand ⊆ l.atHand := by
  simp only [atHand]
  cases h with
  | rests _ hand _ => simp [hand]
  | nudges _ hand _ => simp [hand]
  | accepts _ _ hand _ _ => simp [hand]
  | stops _ _ hand _ => simp [hand]
  | takes waits _ _ _ => simp [waits] at hm
  | works _ _ hand _ => simp [hand, filterMap_callback?_cons]
  | discards _ _ hand _ => simp [hand]
  | loses _ _ hand _ => simp [hand]
  | breaks _ hand _ => simp [hand]

/-! ### The whole run -/

/-- What was started, what the driver has taken and what is queued, in the order in which it was
accepted. Every callback has a number of its own, and a stopped reactor has nothing in its queue. -/
structure Ordered (past : List (Stride ι)) (l : Loop ι) : Prop where
  fresh : ∀ callback ∈ accepted past, callback < l.nextCallback
  nodup : (accepted past).Nodup
  order : (called past ++ (l.atHand ++ l.queued)).Sublist (accepted past)

lemma Ordered.stride {past : List (Stride ι)} {s : Stride ι} (h : Ordered past s.before) :
    Ordered (past ++ [s]) s.after := by
  have hold : ∀ callback ∈ accepted past, callback < s.after.nextCallback := by
    intro callback hcallback
    rw [s.nextCallback]
    exact Nat.lt_of_lt_of_le (h.fresh callback hcallback) (Nat.le_add_right _ _)
  refine ⟨?_, ?_, ?_⟩
  · rw [accepted_concat]
    rcases s.passage.fresh with hnone | ⟨hone, hnext⟩
    · rw [hnone, List.append_nil]
      exact hold
    · rw [hone]
      intro callback hcallback
      rcases List.mem_append.mp hcallback with hcallback | hcallback
      · exact hold callback hcallback
      · rw [List.mem_singleton] at hcallback
        rw [hcallback, hnext]
        exact Nat.lt_succ_self _
  · rw [accepted_concat]
    rcases s.passage.fresh with hnone | ⟨hone, -⟩
    · rw [hnone, List.append_nil]
      exact h.nodup
    · rw [hone]
      refine List.nodup_append.mpr ⟨h.nodup, List.nodup_singleton _, ?_⟩
      intro a ha b hb
      rw [List.mem_singleton] at hb
      exact hb ▸ Nat.ne_of_lt (h.fresh a ha)
  · rw [accepted_concat, called_concat, List.append_assoc]
    have hmove := List.Sublist.append_left s.passage.sublist (called past)
    refine hmove.trans ?_
    rw [← List.append_assoc]
    exact h.order.append_right _

lemma ordered (kernel : Kernel) (capacity : Nat) (ms : List (Move ι)) :
    Ordered ((start kernel capacity).strides ms) ((start kernel capacity).after ms) :=
  history_rec ⟨nofun, .nil, .slnil⟩ (fun _ _ h => h.stride) ms

/-- Without a panic, an accepted callback was started or dropped, or is at hand or in the queue. -/
lemma count_eq (kernel : Kernel) (capacity : Nat) (ms : List (Move ι)) (callback : CallbackId)
    (hms : ∀ s ∈ (start kernel capacity).strides ms, s.move ≠ .unwind) :
    (called ((start kernel capacity).strides ms)).count callback +
        (dropped ((start kernel capacity).strides ms)).count callback +
        ((start kernel capacity).after ms).atHand.count callback +
        ((start kernel capacity).after ms).queued.count callback =
      (accepted ((start kernel capacity).strides ms)).count callback := by
  refine history_rec (P := fun past l => (∀ s ∈ past, s.move ≠ .unwind) →
    (called past).count callback + (dropped past).count callback + l.atHand.count callback +
      l.queued.count callback = (accepted past).count callback) (fun _ => rfl) ?_ ms hms
  intro past s ih hpast
  have hbefore := ih fun t ht => hpast t (List.mem_append_left _ ht)
  have hmove := s.passage.count (hpast s (by simp)) callback
  rw [called_concat, dropped_concat, accepted_concat, List.count_append, List.count_append,
    List.count_append]
  omega

/-! ### After a stop and before the next wait -/

/-- What a run from a stopped reactor does to the wakeups: nothing. -/
lemma silent_of_stopped {l : Loop ι} (hl : l.reactor.stopped = true)
    (hqueue : l.reactor.wakeups = []) (ms : List (Move ι)) :
    noted accepted? (l.strides ms) = [] ∧ called (l.strides ms) = [] ∧
      ∀ s ∈ l.strides ms, s.after.reactor.wakeups = [] := by
  have h := history_rec (l := l)
    (P := fun past l' => l'.reactor.stopped = true ∧ l'.reactor.wakeups = [] ∧
      noted accepted? past = [] ∧ called past = [] ∧ ∀ s ∈ past, s.after.reactor.wakeups = [])
    ⟨hl, hqueue, rfl, rfl, by simp⟩ ?_ ms
  · exact h.2.2
  · rintro past s ⟨hstopped, hempty, haccepted, hcalled, hafter⟩
    obtain ⟨hnow, hstarts, hqueue'⟩ := s.passage.stopped hstopped
    refine ⟨s.stopped.mpr (.inl hstopped), hqueue' hempty, ?_, ?_, ?_⟩
    · rw [noted_concat, haccepted, hnow]
      rfl
    · rw [called_concat, hcalled, hstarts]
      rfl
    · intro t ht
      rcases List.mem_append.mp ht with ht | ht
      · exact hafter t ht
      · rw [List.mem_singleton] at ht
        exact ht ▸ hqueue' hempty

/-- A stop leaves nothing in the queue. -/
lemma Stride.wakeups_of_stop {s : Stride ι} (h : s.move = .stop) :
    s.after.reactor.wakeups = [] := by
  have hmade := s.made
  simp only [h, step, Loop.stop, Option.some.injEq, Prod.mk.injEq] at hmade
  rw [← hmade.1]
  exact (Reactor.sameWork_wake _).wakeups

/-- A callback is at hand only if it was accepted before. -/
lemma Ordered.atHand_subset {past : List (Stride ι)} {l : Loop ι} (h : Ordered past l) :
    l.atHand ⊆ accepted past := fun _ hmem =>
  h.order.subset (List.mem_append_right _ (List.mem_append_left _ hmem))

/-- A callback that is accepted is not at hand then. -/
lemma Stride.Accepts.not_atHand {past : List (Stride ι)} {s : Stride ι}
    (h : Ordered past s.before) {callback : CallbackId} (hs : s.Accepts callback) :
    callback ∉ s.after.atHand := by
  have hmem : callback ∈ (s.notes.filterMap accepted?).filterMap Wakeup.callback? :=
    List.mem_filterMap.mpr ⟨_, hs.mem, rfl⟩
  have hcallback : callback = s.before.nextCallback := by
    rcases s.passage.fresh with hnone | ⟨hone, -⟩
    · rw [hnone] at hmem
      cases hmem
    · rwa [hone, List.mem_singleton] at hmem
  intro hhand
  have hbefore := h.atHand_subset
    (s.passage.hand_subset (.inr (List.ne_nil_of_mem hs.mem)) hhand)
  exact absurd (h.fresh callback hbefore) (hcallback ▸ Nat.lt_irrefl _)

/-- **Wakeup callbacks run at most once, in their order, and never after a stop.** Each is started
at most once, those that are started in the order in which they were accepted, and none before the
next wait of the driver, so not in the batch that is at work when it is accepted. After a stop none
is started, no wakeup is accepted, and the queue is empty at any time. And as long as no callback
panics, those that were started, those dropped by a stop, those at hand in the batch at work and
those in the queue are together the accepted ones, each of them once. -/
theorem wakeups_run_once_in_order (kernel : Kernel) (capacity : Nat) (ms : List (Move ι)) :
    (called ((start kernel capacity).strides ms)).Nodup ∧
    (called ((start kernel capacity).strides ms)).Sublist
      (accepted ((start kernel capacity).strides ms)) ∧
    (accepted ((start kernel capacity).strides ms)).Nodup ∧
    (∀ past s middle t later callback,
      (start kernel capacity).strides ms = past ++ s :: (middle ++ t :: later) →
      s.Accepts callback → (∀ q ∈ middle, ¬q.Waits) → ¬t.Starts callback .wakeup) ∧
    (∀ past s later, (start kernel capacity).strides ms = past ++ s :: later → s.move = .stop →
      called later = [] ∧ noted accepted? later = [] ∧
        ∀ q ∈ s :: later, q.after.reactor.wakeups = []) ∧
    ((∀ s ∈ (start kernel capacity).strides ms, s.move ≠ .unwind) →
      (called ((start kernel capacity).strides ms) ++
        dropped ((start kernel capacity).strides ms) ++
        ((start kernel capacity).after ms).atHand ++
        ((start kernel capacity).after ms).queued).Perm
        (accepted ((start kernel capacity).strides ms))) := by
  have hordered := ordered kernel capacity ms
  have hsublist := (List.sublist_append_left _ _).trans hordered.order
  refine ⟨hordered.nodup.sublist hsublist, hsublist, hordered.nodup, ?_, ?_, fun hms => ?_⟩
  · intro past s middle t later callback hcut hs hmiddle ht
    obtain ⟨ms₁, ms₂, hpast, hbefore, hrest, -⟩ := exists_moves_of_strides_eq hcut
    obtain ⟨ms₃, -, hmiddle', hafter, -⟩ := exists_moves_of_strides_eq hrest
    have hs' := hs.not_atHand (hbefore ▸ hpast ▸ ordered kernel capacity ms₁)
    -- until the next wait the driver goes on with what it has taken
    have hsubset : (s.after.after ms₃).atHand ⊆ s.after.atHand :=
      after_of_stride (P := fun l => l.atHand ⊆ s.after.atHand) (Q := fun q => ¬q.Waits)
        (fun q hq ih => List.Subset.trans (q.passage.hand_subset (.inl hq)) ih)
        (List.Subset.refl _) (hmiddle' ▸ hmiddle)
    rw [hafter] at hsubset
    exact hs' (hsubset (t.passage.called_subset ht.mem_called))
  · intro past s later hcut hs
    obtain ⟨-, ms₂, -, -, rfl, -⟩ := exists_moves_of_strides_eq hcut
    have hstop := Stride.wakeups_of_stop hs
    obtain ⟨haccepted, hcalled, hafter⟩ :=
      silent_of_stopped (s.stopped.mpr (.inr hs)) hstop ms₂
    refine ⟨hcalled, haccepted, fun q hq => ?_⟩
    rcases List.mem_cons.mp hq with rfl | hq
    · exact hstop
    · exact hafter q hq
  · rw [List.perm_iff_count]
    intro callback
    rw [List.count_append, List.count_append, List.count_append]
    exact count_eq kernel capacity ms callback hms

/-! ### A batch that is stopped

Three wakeups are taken at once. The first one hands over a fourth one, and the second one stops the
reactor.
-/

namespace StoppedBatch

/-- Everything up to the start of the first wakeup. -/
def begin : List (Move Unit) :=
  [.wakeUp true, .wakeUp true, .wakeUp true, .enter, .advance, .advance]

/-- The first wakeup hands over another one. -/
def accepts : Stride Unit := stride ((start (.boot none) 64).after begin) (.wakeUp true) rfl

def ends : Stride Unit := stride accepts.after .finish rfl

/-- The second wakeup is started. -/
def next : Stride Unit := stride ends.after .advance rfl

/-- The second wakeup stops the reactor. -/
def stops : Stride Unit := stride next.after .stop rfl

/-- The end of the second wakeup, and what the driver does then. -/
def rest : List (Move Unit) := [.finish, .advance, .advance, .advance, .wakeUp true]

/-- All of it. -/
def moves : List (Move Unit) := begin ++ .wakeUp true :: .finish :: .advance :: .stop :: rest

lemma cut : (start (.boot none) 64).strides moves =
    (start (.boot none) 64).strides begin ++
      accepts :: ([ends] ++ next :: (stops :: stops.after.strides rest)) := rfl

lemma cut_stops : (start (.boot none) 64).strides moves =
    ((start (.boot none) 64).strides begin ++ [accepts, ends, next]) ++
      stops :: stops.after.strides rest := rfl

lemma quiet : ∀ s ∈ (start (.boot none) 64).strides moves, s.move ≠ .unwind := by
  intro s hs
  have hmem := move_mem hs
  simp only [moves, begin, rest, List.mem_append, List.mem_cons, List.not_mem_nil] at hmem
  rintro hunwind
  simp [hunwind] at hmem

end StoppedBatch

/-- Two of the four callbacks are started, the last one is not started in the batch at work, and a
stop drops it from the queue and the third one from the batch. -/
theorem wakeups_run_once_in_order_stopped :
    (start (.boot none) 64).strides StoppedBatch.moves =
      (start (.boot none) 64).strides StoppedBatch.begin ++ StoppedBatch.accepts ::
        ([StoppedBatch.ends] ++ StoppedBatch.next ::
          (StoppedBatch.stops :: StoppedBatch.stops.after.strides StoppedBatch.rest)) ∧
      StoppedBatch.accepts.Accepts 3 ∧ (∀ q ∈ [StoppedBatch.ends], ¬q.Waits) ∧
      ¬StoppedBatch.next.Starts 3 .wakeup ∧ StoppedBatch.stops.move = .stop ∧
      called (StoppedBatch.stops.after.strides StoppedBatch.rest) = [] ∧
      (∀ s ∈ (start (.boot none) 64).strides StoppedBatch.moves, s.move ≠ .unwind) ∧
      ([0, 1] ++ [3, 2] ++ [] ++ []).Perm [0, 1, 2, 3] := by
  have hall := wakeups_run_once_in_order (.boot none) 64 StoppedBatch.moves
  have haccepts : StoppedBatch.accepts.Accepts 3 := List.mem_cons_self ..
  have hends : ∀ q ∈ [StoppedBatch.ends], ¬q.Waits := by
    simp only [List.forall_mem_singleton]
    exact fun h => nomatch h.1
  refine ⟨StoppedBatch.cut, haccepts, hends, ?_, rfl, ?_, StoppedBatch.quiet, ?_⟩
  · exact hall.2.2.2.1 _ _ _ _ _ _ StoppedBatch.cut haccepts hends
  · exact (hall.2.2.2.2.1 _ _ _ StoppedBatch.cut_stops rfl).1
  · exact hall.2.2.2.2.2 StoppedBatch.quiet

end EventLoop.Loop
