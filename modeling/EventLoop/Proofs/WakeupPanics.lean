import EventLoop.Proofs.Kernel.Reports
import EventLoop.Proofs.Queue.Deliveries
import EventLoop.Proofs.WakeupOrder
import EventLoop.Proofs.WakeupSignal

/-!
What a panic does to the wakeups. The queue stays as it is, and so does the counter that wakes the
driver; but the driver has taken wakeups out of the queue that it has not come to yet, and these are
lost.

* `settled` are the wakeups that the driver has parted with: it worked them off, or they were lost.
  `settled_append_pending` says that they are the first ones of those that were accepted, in their
  order, and that what is left is pending.
* `Stride.settling` is the law of one move, and says that without a panic to be settled is to be
  worked off.
* `serve` is a run that is left alone, and `serves_queue` says that it starts all that is queued.
* `panic_loses_wakeups_at_hand` is the main statement here, and `wakeup_is_lost_by_panic` says that
  it cannot be improved.
-/

namespace EventLoop.Loop

open Reactor (Note Role)

variable {ι : Type}

/-- The wakeups that the driver had taken before a move and has not any more. -/
def Stride.settled (s : Stride ι) : List Wakeup :=
  s.before.stage.unworked.take
    (s.before.stage.unworked.length - s.after.stage.unworked.length)

/-- The wakeups that the driver has parted with, in their order. -/
def settled (history : List (Stride ι)) : List Wakeup := history.flatMap Stride.settled

lemma settled_append (history history' : List (Stride ι)) :
    settled (history ++ history') = settled history ++ settled history' := List.flatMap_append

lemma settled_cons (s : Stride ι) (history : List (Stride ι)) :
    settled (s :: history) = s.settled ++ settled history := rfl

lemma settled_concat (past : List (Stride ι)) (s : Stride ι) :
    settled (past ++ [s]) = settled past ++ s.settled := by
  rw [settled, settled, List.flatMap_append, List.flatMap_singleton]

/-! ### One move -/

lemma Stride.settled_eq {s : Stride ι} {wakeups : List Wakeup}
    (h : s.before.stage.unworked = wakeups ++ s.after.stage.unworked) : s.settled = wakeups := by
  rw [Stride.settled, h, List.length_append, Nat.add_sub_cancel, List.take_left]

lemma Stride.settled_of_nothing {s : Stride ι} (h : s.before.stage.unworked = []) :
    s.settled = [] := by
  rw [Stride.settled, h, List.take_nil]

/-- What a move does to the wakeups of a reactor that is not stopped. Those that it settles come
first among the pending ones, and those that it accepts come last. And unless it is a panic, what it
settles it works off: a callback is started, or a queue is delivered. -/
lemma Stride.settling {s : Stride ι} (hrunning : s.after.reactor.stopped = false) :
    s.settled ++ s.after.pending = s.before.pending ++ s.notes.filterMap accepted? ∧
      (s.move ≠ .unwind →
        s.notes.filterMap called? = s.settled.filterMap Wakeup.callback? ∧
          ∀ q, .deliver q ∈ s.settled → s.Consumes q) := by
  obtain ⟨hbefore, hstop⟩ := Stride.running_of_after hrunning
  have hkept (hand : s.after.stage.unworked = s.before.stage.unworked) : s.settled = [] :=
    Stride.settled_eq (by rw [hand, List.nil_append])
  have hpassage := s.passage
  generalize s.notes.filterMap accepted? = accepted, s.notes.filterMap called? = called,
    s.dropped = dropped at hpassage ⊢
  rw [pending, pending]
  cases hpassage with
  | rests queue hand _ => simp [hkept hand, queue, hand]
  | nudges queue hand _ => simp [hkept hand, queue, hand]
  | accepts _ queue hand _ _ => simp [hkept hand, queue, hand]
  | stops stop _ _ _ => exact absurd stop hstop
  | takes waits _ queue hand =>
      have hnone : s.settled = [] := Stride.settled_of_nothing (by rw [waits.2]; rfl)
      simp [hnone, queue, hand, waits.2]
  | @works w _ queue hand _ =>
      have hone : s.settled = [w] := Stride.settled_eq hand
      refine ⟨by simp [hone, queue, hand], fun hunwind => ⟨?_, fun q hq => ?_⟩⟩
      · rw [hone, filterMap_callback?_cons, List.filterMap_nil, List.append_nil]
      · rw [hone] at hq
        obtain rfl := List.mem_singleton.mp hq
        obtain ⟨hm, events, hstage⟩ := Stride.advance_of_unworked hunwind hand
        exact ⟨hm, hbefore, _, events, hstage⟩
  | discards stopped _ _ _ =>
      rw [hbefore] at stopped
      cases stopped
  | loses unwind queue hand _ =>
      have hall : s.settled = s.before.stage.unworked :=
        Stride.settled_eq (by rw [hand, List.append_nil])
      exact ⟨by simp [hall, queue, hand], fun hunwind => absurd unwind hunwind⟩
  | breaks queue hand _ => simp [hkept hand, queue, hand]

/-- A panic ends the run of the driver and changes nothing of the reactor; what the driver had taken
is released. -/
lemma Stride.unwound {s : Stride ι} (hm : s.move = .unwind) :
    s.after.reactor = s.before.reactor ∧ s.after.stage = .outside ∧ s.after.active = none ∧
      ∀ callback ∈ s.before.atHand, .released callback ∈ s.notes := by
  have hmade := s.made
  simp only [hm, step, Loop.unwind, Option.map_map, Option.map_eq_some_iff, Function.comp_apply,
    Prod.mk.injEq] at hmade
  obtain ⟨a, -, hafter, -, hnotes⟩ := hmade
  rw [← hafter, ← hnotes]
  refine ⟨rfl, rfl, rfl, fun callback hcallback => ?_⟩
  refine List.mem_append_left _ (List.mem_append_right _ ?_)
  exact List.mem_map.mpr ⟨callback, hcallback, rfl⟩

lemma Stride.settled_of_unwind {s : Stride ι} (hm : s.move = .unwind) :
    s.settled = s.before.stage.unworked :=
  Stride.settled_eq (by rw [(Stride.unwound hm).2.1]; exact (List.append_nil _).symm)

/-- Whatever a move starts as a wakeup, it settles. -/
lemma Stride.called_subset {s : Stride ι} (hrunning : s.after.reactor.stopped = false) :
    s.notes.filterMap called? ⊆ s.settled.filterMap Wakeup.callback? := by
  by_cases hm : s.move = .unwind
  · rw [noCall_of_noStart (s.aside (by simp [hm])).noStart]
    exact List.nil_subset _
  · rw [((Stride.settling hrunning).2 hm).1]
    exact List.Subset.refl _

/-! ### The whole run -/

/-- Over a run, the wakeups that are settled and those that are pending in the end are those that
were pending and those that were accepted, in this order. -/
theorem settled_append_pending (l : Loop ι) (ms : List (Move ι))
    (running : (l.after ms).reactor.stopped = false) :
    settled (l.strides ms) ++ (l.after ms).pending =
      l.pending ++ noted accepted? (l.strides ms) := by
  refine history_rec (P := fun past l' => l'.reactor.stopped = false →
    settled past ++ l'.pending = l.pending ++ noted accepted? past) ?_ ?_ ms running
  · intro _
    rw [settled, noted_nil, List.flatMap_nil, List.nil_append, List.append_nil]
  · intro past s ih hrunning
    have hpast := ih (Stride.running_of_after hrunning).1
    rw [settled_concat, noted_concat]
    calc settled past ++ s.settled ++ s.after.pending
        = settled past ++ (s.settled ++ s.after.pending) := List.append_assoc ..
      _ = settled past ++ (s.before.pending ++ s.notes.filterMap accepted?) := by
          rw [(Stride.settling hrunning).1]
      _ = l.pending ++ noted accepted? past ++ s.notes.filterMap accepted? := by
          rw [← List.append_assoc, hpast]
      _ = l.pending ++ (noted accepted? past ++ s.notes.filterMap accepted?) :=
          List.append_assoc ..

/-- Without a panic, what is started is what is settled. -/
lemma called_eq_settled {l : Loop ι} {ms : List (Move ι)}
    (running : (l.after ms).reactor.stopped = false)
    (hms : ∀ s ∈ l.strides ms, s.move ≠ .unwind) :
    called (l.strides ms) = (settled (l.strides ms)).filterMap Wakeup.callback? := by
  rw [called, noted, Machine.told, settled, List.filterMap_flatMap]
  refine List.flatMap_congr fun s hs => ?_
  exact ((Stride.settling (running_of_mem hs running)).2 (hms s hs)).1

lemma called_subset_settled {l : Loop ι} {ms : List (Move ι)}
    (running : (l.after ms).reactor.stopped = false) :
    called (l.strides ms) ⊆ (settled (l.strides ms)).filterMap Wakeup.callback? := by
  intro callback hcallback
  obtain ⟨s, hs, hmem⟩ := List.mem_flatMap.mp hcallback
  rw [settled, List.filterMap_flatMap]
  exact List.mem_flatMap.mpr ⟨s, hs, Stride.called_subset (running_of_mem hs running) hmem⟩

/-! ### A driver that is left alone -/

/-- The driver works off so many wakeups, and the callbacks that it starts come to their end. -/
def workThrough (n : Nat) : List (Move ι) := (List.replicate n [.advance, .finish]).flatten

/-- A run begins, and the driver waits and works off so many wakeups. -/
def serve (n : Nat) : List (Move ι) := .enter :: .advance :: workThrough n

lemma not_unwind_of_mem_serve {n : Nat} {m : Move ι} (hm : m ∈ serve n) : m ≠ .unwind := by
  have hall : ∀ m ∈ (serve n : List (Move ι)), m = .enter ∨ m = .advance ∨ m = .finish := by
    simp +contextual [serve, workThrough]
  rintro rfl
  simpa using hall _ hm

/-- When no callback is running any more, the driver stands where it stood. -/
lemma after_finish (l : Loop ι) :
    (l.after [.finish]).active = none ∧ (l.after [.finish]).stage = l.stage ∧
      (l.after [.finish]).reactor.stopped = l.reactor.stopped ∧
      settled (l.strides [.finish]) = [] := by
  rcases step_eq_none_or_stride l .finish with hnone | ⟨s, rfl, hm⟩
  · rw [after_cons_of_none hnone, strides_cons_of_none hnone]
    refine ⟨?_, rfl, rfl, rfl⟩
    rw [step, finish, Option.map_map, Option.map_eq_none_iff] at hnone
    exact hnone
  · have hmade := s.made
    simp only [hm, step, finish, Option.map_map, Option.map_eq_some_iff, Function.comp_apply,
      Prod.mk.injEq] at hmade
    obtain ⟨a, -, hafter, -, -⟩ := hmade
    have haside := s.aside (by simp [hm])
    have hstage : s.after.stage = s.before.stage := by
      rcases haside.stage with hsame | ⟨hunwind, -⟩ | ⟨henter, -⟩
      · exact hsame
      · simp [hm] at hunwind
      · simp [hm] at henter
    rw [← hm, after_cons_stride, strides_cons_stride]
    refine ⟨?_, hstage, ?_, ?_⟩
    · rw [after_nil, ← hafter]
      split <;> rfl
    · have hstopped := s.stopped
      rw [hm] at hstopped
      rw [after_nil, Bool.eq_iff_iff, hstopped]
      simp
    · have hnone : s.settled = [] := Stride.settled_eq (by rw [hstage, List.nil_append])
      rw [strides_nil, settled_cons, hnone]
      rfl

/-- A driver that is left alone works off all that it has taken. -/
lemma settled_workThrough {l : Loop ι} {wakeups : List Wakeup} (hidle : l.active = none)
    (hrunning : l.reactor.stopped = false) (hand : l.stage.unworked = wakeups) :
    settled (l.strides (workThrough wakeups.length)) = wakeups ∧
      (l.after (workThrough wakeups.length)).reactor.stopped = false := by
  induction wakeups generalizing l with
  | nil => exact ⟨rfl, hrunning⟩
  | cons w rest ih =>
      obtain ⟨events, hstage⟩ := Stage.eq_waking_of_unworked hand
      obtain ⟨s, rfl, hm⟩ := exists_advance hidle (by rw [hstage]; nofun)
      have hnext := (s.advance hm).2.of_waking hstage hrunning
      have hs : s.settled = [w] := Stride.settled_eq (by rw [hand, hnext]; rfl)
      have hstopped : s.after.reactor.stopped = false := by
        rw [(s.advance hm).2.stopped, hrunning]
      obtain ⟨hidle', hstage', hstopped', hnothing⟩ := after_finish s.after
      obtain ⟨hrest, hend⟩ := ih hidle' (hstopped'.trans hstopped) (by rw [hstage', hnext]; rfl)
      have hmoves : (workThrough (w :: rest).length : List (Move ι)) =
          s.move :: ([.finish] ++ workThrough rest.length) := by rw [hm]; rfl
      rw [hmoves, strides_cons_stride, after_cons_stride, strides_append, after_append]
      refine ⟨?_, hend⟩
      rw [settled_cons, settled_append, hs, hnothing, hrest]
      rfl

/-- A run that is left alone works off the whole queue, if its first wait brings a wakeup. -/
lemma settled_serve {l : Loop ι} (houtside : l.stage = .outside) (hidle : l.active = none)
    (hrunning : l.reactor.stopped = false) {k : Kernel} {batch : Batch}
    (hpoll : l.reactor.kernel.poll l.reactor.capacity = .ok (k, batch))
    (hwoken : batch.woken = true) :
    settled (l.strides (serve l.reactor.wakeups.length)) = l.reactor.wakeups ∧
      (l.after (serve l.reactor.wakeups.length)).reactor.stopped = false := by
  obtain ⟨e, rfl, he, hentered⟩ := exists_enter houtside hidle
  obtain ⟨s, hbefore, hm⟩ := exists_advance (l := e.after) (by rw [hentered]; exact hidle)
    (by rw [hentered]; nofun)
  have hreactor : s.before.reactor = e.before.reactor := by rw [hbefore, hentered]
  have hwaits : s.Waits := ⟨hm, by rw [hbefore, hentered]⟩
  rw [← hreactor] at hrunning hpoll
  obtain ⟨hidle', hstopped, hand⟩ := Stride.takes_queue hwaits hrunning hpoll hwoken
  obtain ⟨hrest, hend⟩ := settled_workThrough hidle' hstopped (hand.trans (by rw [hreactor]))
  have hmoves : (serve e.before.reactor.wakeups.length : List (Move ι)) =
      e.move :: s.move :: workThrough e.before.reactor.wakeups.length := by rw [he, hm]; rfl
  have hfirst : e.settled = [] := Stride.settled_of_nothing (by rw [houtside]; rfl)
  have hsecond : s.settled = [] := Stride.settled_of_nothing (by rw [hwaits.2]; rfl)
  rw [hmoves, strides_cons_stride, after_cons_stride, ← hbefore, strides_cons_stride,
    after_cons_stride]
  refine ⟨?_, hend⟩
  calc settled (e :: s :: s.after.strides (workThrough e.before.reactor.wakeups.length))
      = e.settled ++ (s.settled ++
          settled (s.after.strides (workThrough e.before.reactor.wakeups.length))) := rfl
    _ = e.before.reactor.wakeups := by rw [hfirst, hsecond, hrest]; rfl

/-- A run that is left alone starts all that is queued when it begins, if there is room for every
ready entry in its first wait. -/
lemma serves_queue {kernel : Kernel} (attentive : kernel.Attentive) {capacity : Nat}
    {ms : List (Move ι)} {l : Loop ι} (hl : (start kernel capacity).after ms = l)
    (houtside : l.stage = .outside) (hidle : l.active = none)
    (hrunning : l.reactor.stopped = false) (hqueue : l.reactor.wakeups ≠ [])
    (writable : l.reactor.kernel.wakeup.writable = true)
    (unbroken : l.reactor.kernel.watchingBroken = false)
    (most : l.reactor.capacity ≤ Kernel.mostReports)
    (room : l.reactor.kernel.readyEntries ≤ l.reactor.capacity) :
    settled (l.strides (serve l.reactor.wakeups.length)) = l.reactor.wakeups ∧
      called (l.strides (serve l.reactor.wakeups.length)) = l.queued := by
  have hattentive : l.reactor.kernel.Attentive :=
    hl ▸ attentive_after (l := start kernel capacity) attentive ms
  have hheard : l.Heard := hl ▸ heard_after kernel capacity ms
  obtain ⟨k, batch, hpoll, hwoken⟩ :=
    hattentive.exists_poll_woken unbroken most room (hheard writable hqueue)
  obtain ⟨hserved, hstill⟩ := settled_serve houtside hidle hrunning hpoll hwoken
  have hquiet : ∀ t ∈ l.strides (serve l.reactor.wakeups.length), t.move ≠ .unwind :=
    fun t ht => not_unwind_of_mem_serve (move_mem ht)
  refine ⟨hserved, ?_⟩
  rw [called_eq_settled hstill hquiet, hserved]
  rfl

/-! ### After a panic -/

/-- What a move settles is not started by a later one. -/
lemma not_called_of_settled {kernel : Kernel} {capacity : Nat} {ms : List (Move ι)}
    {past later : List (Stride ι)} {s : Stride ι}
    (cut : (start kernel capacity).strides ms = past ++ s :: later)
    (running : ((start kernel capacity).after ms).reactor.stopped = false) {callback : CallbackId}
    (hs : callback ∈ s.settled.filterMap Wakeup.callback?) : callback ∉ called later := by
  intro hcalled
  obtain ⟨-, ms₂, -, -, rfl, hend⟩ := exists_moves_of_strides_eq cut
  have hlater := called_subset_settled (by rw [hend]; exact running) hcalled
  -- every accepted callback has one place among those that are settled or pending
  have hwhole : settled past ++ (s.settled ++ settled (s.after.strides ms₂)) ++
      ((start kernel capacity).after ms).pending =
        noted accepted? ((start kernel capacity).strides ms) := by
    have hlaw := settled_append_pending (start kernel capacity) ms running
    rwa [cut, settled_append, settled_cons, ← cut] at hlaw
  have hnodup := (ordered kernel capacity ms).nodup
  rw [accepted, ← hwhole, List.filterMap_append, List.filterMap_append, List.filterMap_append]
    at hnodup
  have hmiddle := (List.nodup_append.mp (List.nodup_append.mp hnodup).1).2.1
  exact (List.nodup_append.mp hmiddle).2.2 callback hs callback hlater rfl

/-- **A panic loses the wakeups at hand, and no others.** A callback panics, and the reactor is not
stopped. The run of the driver ends, and the queue and the counter that wakes the driver stay as
they are. Of the accepted wakeups, those that the driver has not parted with by then are the ones
that it has at hand and, after them, those in the queue. The ones at hand are lost: their callbacks
are released and never started. The ones in the queue are settled later, each once and in the order
in which they were accepted, before those accepted later; and to be settled is to be worked off,
unless it is by another panic. So without another panic, what is started later and what is still at
hand and in the queue is what was in the queue, and what is accepted later. And if the next run is
left alone, and there is room for every ready entry in its wait, then it starts all that was in the
queue. -/
theorem panic_loses_wakeups_at_hand (kernel : Kernel) (capacity : Nat) (ms : List (Move ι))
    (past later : List (Stride ι)) (s : Stride ι)
    (cut : (start kernel capacity).strides ms = past ++ s :: later) (panics : s.move = .unwind)
    (running : ((start kernel capacity).after ms).reactor.stopped = false) :
    (s.after.stage = .outside ∧ s.after.reactor.wakeups = s.before.reactor.wakeups ∧
      s.after.reactor.kernel.wakeup = s.before.reactor.kernel.wakeup) ∧
    noted accepted? past =
      settled past ++ (s.before.stage.unworked ++ s.before.reactor.wakeups) ∧
    (s.settled = s.before.stage.unworked ∧
      ∀ callback ∈ s.before.atHand, .released callback ∈ s.notes ∧ callback ∉ called later) ∧
    settled later ++ (((start kernel capacity).after ms).stage.unworked ++
        ((start kernel capacity).after ms).reactor.wakeups) =
      s.before.reactor.wakeups ++ noted accepted? later ∧
    (∀ t ∈ later, t.move ≠ .unwind →
      t.notes.filterMap called? = t.settled.filterMap Wakeup.callback? ∧
        ∀ q, .deliver q ∈ t.settled → t.Consumes q) ∧
    ((∀ t ∈ later, t.move ≠ .unwind) →
      called later ++ (((start kernel capacity).after ms).atHand ++
          ((start kernel capacity).after ms).queued) =
        s.before.queued ++ accepted later) ∧
    (accepted ((start kernel capacity).strides ms)).Nodup ∧
    (kernel.Attentive → s.before.reactor.wakeups ≠ [] →
      s.after.reactor.kernel.wakeup.writable = true →
      s.after.reactor.kernel.watchingBroken = false →
      s.after.reactor.capacity ≤ Kernel.mostReports →
      s.after.reactor.kernel.readyEntries ≤ s.after.reactor.capacity →
      settled (s.after.strides (serve s.before.reactor.wakeups.length)) =
          s.before.reactor.wakeups ∧
        called (s.after.strides (serve s.before.reactor.wakeups.length)) = s.before.queued) := by
  obtain ⟨ms₁, ms₂, hpast, hbefore, hlater, hend⟩ := exists_moves_of_strides_eq cut
  obtain ⟨hreactor, houtside, hidle, hreleased⟩ := Stride.unwound panics
  have hsettled := Stride.settled_of_unwind panics
  have hmem {t : Stride ι} (ht : t ∈ s :: later) : t.after.reactor.stopped = false :=
    running_of_mem (by rw [cut]; exact List.mem_append_right _ ht) running
  have hrunning := hmem (List.mem_cons_self ..)
  have hfirst : settled past ++ s.before.pending = noted accepted? past := by
    have hlaw := settled_append_pending (start kernel capacity) ms₁
      (by rw [hbefore]; exact (Stride.running_of_after hrunning).1)
    rwa [hpast, hbefore] at hlaw
  have hthen : settled later ++ ((start kernel capacity).after ms).pending =
      s.before.reactor.wakeups ++ noted accepted? later := by
    have hlaw := settled_append_pending s.after ms₂ (by rw [hend]; exact running)
    have hpending : s.after.pending = s.before.reactor.wakeups := by
      rw [pending, houtside, hreactor]
      rfl
    rwa [hlater, hend, hpending] at hlaw
  refine ⟨⟨houtside, by rw [hreactor], by rw [hreactor]⟩, hfirst.symm, ⟨hsettled, ?_⟩, hthen, ?_,
    ?_, (ordered kernel capacity ms).nodup, ?_⟩
  · intro callback hcallback
    refine ⟨hreleased callback hcallback, not_called_of_settled cut running ?_⟩
    rw [hsettled]
    exact hcallback
  · intro t ht hm
    exact (Stride.settling (hmem (List.mem_cons_of_mem _ ht))).2 hm
  · intro hlast
    have hcalled : called later = (settled later).filterMap Wakeup.callback? := by
      rw [← hlater] at hlast ⊢
      exact called_eq_settled (by rw [hend]; exact running) hlast
    have hcallbacks := congrArg (List.filterMap Wakeup.callback?) hthen
    rwa [pending, List.filterMap_append, List.filterMap_append, List.filterMap_append, ← hcalled]
      at hcallbacks
  · intro attentive hqueue writable unbroken most room
    have hafter : (start kernel capacity).after (ms₁ ++ [.unwind]) = s.after := by
      rw [after_append, hbefore, ← panics, after_cons_stride, after_nil]
    have hserved := serves_queue attentive hafter houtside hidle hrunning
      (by rw [hreactor]; exact hqueue) writable unbroken most room
    rwa [queued, hreactor] at hserved

/-! ### A wakeup callback that panics

Two callbacks are taken at once. The first one hands over a third one, pushes an item into a queue,
and panics. The next run is left alone.
-/

namespace PanickingWakeup

/-- Everything up to the panic. -/
def begin : List (Move Nat) :=
  [.wakeUp true, .wakeUp true, .enter, .advance, .advance, .wakeUp true, .push 0 7]

def panics : Stride Nat := stride ((start (.boot none) 64).after begin) .unwind rfl

lemma cut : (start (.boot none) 64).strides (begin ++ .unwind :: serve 2) =
    (start (.boot none) 64).strides begin ++ panics :: panics.after.strides (serve 2) := rfl

end PanickingWakeup

/-- The second callback is lost, and the third one and the delivery of the queue are worked off by
the next run. -/
theorem panic_loses_wakeups_at_hand_serving :
    PanickingWakeup.panics.move = .unwind ∧
      ((start (.boot none) 64).after
        (PanickingWakeup.begin ++ .unwind :: serve 2)).reactor.stopped = false ∧
      [.call 0, .call 1, .call 2, .deliver 0] =
        settled ((start (.boot none) 64).strides PanickingWakeup.begin) ++
          ([.call 1] ++ [.call 2, .deliver 0]) ∧
      .released 1 ∈ PanickingWakeup.panics.notes ∧
      1 ∉ called (PanickingWakeup.panics.after.strides (serve 2)) ∧
      called (PanickingWakeup.panics.after.strides (serve 2)) ++ ([] ++ []) = [2] ++ [] ∧
      (Kernel.boot none).Attentive ∧
      settled (PanickingWakeup.panics.after.strides (serve 2)) = [.call 2, .deliver 0] := by
  have hall := panic_loses_wakeups_at_hand (.boot none) 64 _ _ _ _ PanickingWakeup.cut rfl rfl
  have hquiet : ∀ t ∈ PanickingWakeup.panics.after.strides (serve 2), t.move ≠ .unwind :=
    fun t ht => not_unwind_of_mem_serve (move_mem ht)
  have hlost := hall.2.2.1.2 1 (List.mem_singleton_self 1)
  refine ⟨rfl, rfl, hall.2.1, hlost.1, hlost.2, hall.2.2.2.2.2.1 hquiet,
    Kernel.attentive_boot none, ?_⟩
  have hserved := hall.2.2.2.2.2.2.2 (Kernel.attentive_boot none) (List.cons_ne_nil _ _) rfl rfl
    (by decide) (by decide)
  exact hserved.1

/-- It is not so that an accepted callback that was not started before a panic is still queued after
it, or is started later. -/
theorem wakeup_is_lost_by_panic :
    ¬∀ (limit : Option Nat) (capacity : Nat) (ms : List (Move Nat))
        (past later : List (Stride Nat)) (s : Stride Nat),
      (start (.boot limit) capacity).strides ms = past ++ s :: later → s.move = .unwind →
      ((start (.boot limit) capacity).after ms).reactor.stopped = false →
      ∀ callback ∈ accepted past, callback ∉ called past →
        callback ∈ s.after.queued ∨ callback ∈ called later := by
  intro h
  have hkept := h none 64 _ _ _ _ PanickingWakeup.cut rfl rfl 1 (by decide) (by decide)
  exact absurd hkept (by decide)

end EventLoop.Loop
