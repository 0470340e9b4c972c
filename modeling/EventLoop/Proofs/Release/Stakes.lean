import EventLoop.Proofs.Release.Purposes
import EventLoop.Proofs.WakeupPanics

/-!
What a move can make of the callbacks that somebody has. Only a few callbacks are at stake in a
move; all the others stay with somebody.

* `Stride.atStake` lists the callbacks that are at stake; `Stride.hasFor_after` says that nobody
  loses another one, and `Apart.nodup_atStake` that each of them stands in the list once.
* `Stride.Ends` lists what puts an end to a wakeup. `Apart.mem_atStake_iff` says that a wakeup is at
  stake just if it comes to its end, and `Apart.not_has_of_wakeup` that it is gone then.
* `Apart.mem_orphaned_iff` and `Apart.not_has_of_consumer` say when a callback for readiness and a
  consumer are gone.
-/

namespace EventLoop

namespace Loop

open Reactor (Direction Note Role)

variable {ι : Type}

/-! ### Who may lose a callback -/

/-- The callbacks that somebody may lose by a move, each once. -/
def Stride.atStake (s : Stride ι) : List CallbackId :=
  match s.move with
  | .add _ _ | .wakeUp true => [s.before.nextCallback]
  | .remove fd i => (s.before.reactor.heldFor fd i).dedup
  | .stop => s.before.queued
  | .setConsumer q | .clearConsumer q => (s.before.reactor.queue q).consumer.toList
  | .advance => if s.before.reactor.stopped then s.before.atHand else []
  | .finish => s.before.active.toList.map (·.callback)
  | .unwind => s.before.active.toList.map (·.callback) ++ s.before.atHand
  | _ => []

/-- A callback is added only where there is none. -/
lemma Stride.Adds.vacant {s : Stride ι} {fd : Fd} {d : Direction} {callback : CallbackId}
    (h : s.Adds fd d callback) : s.before.reactor.handlerOf fd d = none := by
  obtain ⟨i, hm, hcovers, hreply, -⟩ := h
  obtain ⟨b, hb, hadded⟩ := Stride.added hm
  obtain rfl : b = true := by simpa [hb] using hreply
  generalize s.after.reactor = r at hadded
  cases hadded with
  | added _ apart _ =>
      rw [← Reactor.currentOrFresh_handler]
      by_contra hhandler
      rw [Registration.overlaps_of_covers hcovers hhandler] at apart
      cases apart

/-- A move that is neither the driver's own nor a panic leaves what the driver has at hand. -/
lemma Stride.atHand_eq {s : Stride ι} (hadvance : s.move ≠ .advance) (hunwind : s.move ≠ .unwind) :
    s.after.atHand = s.before.atHand := by
  rcases (s.aside hadvance).stage with hsame | ⟨hpanics, -⟩ | ⟨-, houtside, hhead⟩
  · rw [atHand, atHand, hsame]
  · exact absurd hpanics hunwind
  · rw [atHand, atHand, houtside, hhead]
    rfl

lemma Stride.starts_of_mem_called {s : Stride ι} {callback : CallbackId}
    (h : callback ∈ s.notes.filterMap called?) : s.Starts callback .wakeup := by
  obtain ⟨n, hn, hnote⟩ := List.mem_filterMap.mp h
  cases n with
  | started other role =>
      cases role with
      | wakeup => cases hnote; exact hn
      | readiness _ _ => cases hnote
      | consumer _ _ => cases hnote
  | _ => cases hnote

/-- What waits and is not at stake waits after the move, or it is started. -/
lemma Stride.hasFor_of_waiting {s : Stride ι} {callback : CallbackId}
    (h : callback ∈ s.before.atHand ++ s.before.queued) (hstake : callback ∉ s.atStake) :
    s.after.HasFor .wakeup callback := by
  have hkept (hand : callback ∈ s.before.atHand → callback ∈ s.after.atHand)
      (queue : callback ∈ s.before.queued → callback ∈ s.after.queued) :
      s.after.HasFor .wakeup callback :=
    .waiting (List.mem_append.mpr ((List.mem_append.mp h).imp hand queue))
  have hpassage := s.passage
  generalize s.notes.filterMap accepted? = accepted, hcalled : s.notes.filterMap called? = called,
    s.dropped = dropped at hpassage
  cases hpassage with
  | rests queue hand _ => exact hkept (by simp [atHand, hand]) (by simp [queued, queue])
  | nudges queue hand _ => exact hkept (by simp [atHand, hand]) (by simp [queued, queue])
  | breaks queue hand _ => exact hkept (by simp [atHand, hand]) (by simp [queued, queue])
  | accepts _ queue hand _ _ =>
      refine hkept (by simp [atHand, hand]) fun hqueued => ?_
      rw [queued, queue, List.filterMap_append]
      exact List.mem_append_left _ hqueued
  | stops stop _ hand _ =>
      exact hkept (by simp [atHand, hand]) fun hqueued =>
        absurd (by simpa [Stride.atStake, stop] using hqueued) hstake
  | takes waits _ queue hand =>
      refine .waiting (List.mem_append_left _ ?_)
      simpa [atHand, queued, hand, waits.2] using h
  | @works w _ queue hand _ =>
      by_cases hfirst : w.callback? = some callback
      · -- the driver comes to it
        have hstarts : s.Starts callback .wakeup :=
          Stride.starts_of_mem_called (by rw [hcalled, hfirst]; simp)
        exact .running hstarts.advance.2.2.2
      · refine hkept (fun hhand => ?_) (by simp [queued, queue])
        rw [atHand, hand, filterMap_callback?_cons, List.mem_append, Option.mem_toList] at hhand
        exact hhand.resolve_left hfirst
  | discards stopped queue _ _ =>
      refine hkept (fun hhand => ?_) (by simp [queued, queue])
      by_cases hadvance : s.move = .advance
      · exact absurd (by simpa [Stride.atStake, hadvance, stopped] using hhand) hstake
      by_cases hunwind : s.move = .unwind
      · exact absurd (by simp [Stride.atStake, hunwind, hhand]) hstake
      · rwa [Stride.atHand_eq hadvance hunwind]
  | loses unwind queue _ _ =>
      refine hkept (fun hhand => ?_) (by simp [queued, queue])
      exact absurd (by simp [Stride.atStake, unwind, hhand]) hstake

/-- **Nobody loses a callback that is not at stake**, and one that is handed over and not at stake
is with somebody. -/
lemma Stride.hasFor_after {s : Stride ι} (hs : s.before.reactor.registry.Sound) {p : Purpose}
    {callback : CallbackId} (h : s.before.HasFor p callback ∨ s.Hands p callback)
    (hstake : callback ∉ s.atStake) : s.after.HasFor p callback := by
  rcases h with hhas | ⟨hpurpose, hnext⟩
  · cases hhas with
    | @registered _ fd d handler =>
        refine .registered ((s.handlerOf_eq_some hs fd d callback).mpr (.inr ⟨handler, ?_, ?_⟩))
        · rintro ⟨i, hm, hcovers, -⟩
          refine hstake ?_
          simp only [Stride.atStake, hm, List.mem_dedup]
          exact Reactor.mem_heldFor.mpr ⟨d, hcovers, handler⟩
        · intro other hadds
          rw [hadds.vacant] at handler
          cases handler
    | waiting wakeup => exact Stride.hasFor_of_waiting wakeup hstake
    | @consuming _ q consumer =>
        obtain ⟨pushed, taken, hhandled⟩ := s.handled q
        cases hhandled with
        | rests _ _ queue _ => exact .consuming (queue ▸ consumer)
        | pushes _ queue _ => exact .consuming (q := q) (by rwa [queue])
        | drains _ queue _ => exact .consuming (q := q) (by rwa [queue])
        | sets move _ _ => exact absurd (by simp [Stride.atStake, move, consumer]) hstake
        | clears move _ _ => exact absurd (by simp [Stride.atStake, move, consumer]) hstake
        | delivers _ _ mine _ _ active =>
            obtain rfl := Option.some.inj (consumer.symm.trans mine)
            exact .running active
        | returns _ _ queue _ => exact .consuming (q := q) (by rw [queue, consumer]; rfl)
        | dies _ _ queue _ => exact .consuming (queue ▸ consumer)
    | @running _ role active =>
        by_cases hadvance : s.move = .advance
        · simp [(s.advance hadvance).1] at active
        rcases Stride.active_eq_or_none hadvance with hkept | ⟨hends, -⟩
        · exact .running (hkept ▸ active)
        · refine absurd ?_ hstake
          cases hm : s.move with
          | finish => simp [Stride.atStake, hm, active]
          | unwind => simp [Stride.atStake, hm, active]
          | _ => simp [hm, Move.ends] at hends
  · cases hm : s.move with
    | add fd i => exact absurd (by simp [Stride.atStake, hm, hnext]) hstake
    | setConsumer q =>
        obtain rfl : p = .consumption := by simpa [hm, Move.purpose?, eq_comm] using hpurpose
        exact .consuming (q := q) (by rw [Stride.queue_of_setConsumer hm, hnext])
    | wakeUp withCallback =>
        cases withCallback with
        | true => exact absurd (by simp [Stride.atStake, hm, hnext]) hstake
        | false => simp [hm, Move.purpose?] at hpurpose
    | _ => simp [hm, Move.purpose?] at hpurpose

/-! ### What is gone after a move -/

/-- A callback that somebody still has after a move is still there for what it was there for. -/
lemma Apart.hasFor_of_has {s : Stride ι} (h : s.before.Apart)
    (hs : s.before.reactor.registry.Sound) {p : Purpose} {callback : CallbackId}
    (hbefore : s.before.HasFor p callback) (hafter : s.after.Has callback) :
    s.after.HasFor p callback := by
  obtain ⟨p', hp'⟩ := has_iff.mp hafter
  rcases Stride.hasFor_of_after hs hp' with hkept | hhands
  · exact h.purpose p p' callback hbefore hkept ▸ hp'
  · exact absurd hhands (h.not_hands hbefore)

/-- A callback for readiness that has no owner after a move is lost. -/
lemma Apart.not_mem_owners_iff {s : Stride ι} (h : s.before.Apart)
    (hs : s.before.reactor.registry.Sound) {callback : CallbackId}
    (hbefore : s.before.HasFor .readiness callback) :
    callback ∉ s.after.owners ↔ ¬s.after.Has callback :=
  not_congr ((h.stride hs).mem_owners_iff.trans ⟨HasFor.has, h.hasFor_of_has hs hbefore⟩)

/-- The callbacks that are given back by a move and lose their last owner by it are lost. -/
lemma Apart.mem_orphaned_iff {s : Stride ι} (h : s.before.Apart)
    (hs : s.before.reactor.registry.Sound) {ids : List CallbackId}
    (howned : ∀ callback, ids.count callback ≤ s.before.owners.count callback)
    (hafter : s.after.owners = ids.foldl List.erase s.before.owners) {callback : CallbackId} :
    callback ∈ orphaned s.before.owners ids ↔ callback ∈ ids ∧ ¬s.after.Has callback := by
  rw [mem_orphaned howned, ← hafter]
  refine and_congr_right fun hmem => h.not_mem_owners_iff hs (h.mem_owners_iff.mp ?_)
  exact List.count_pos_iff.mp (Nat.lt_of_lt_of_le (List.count_pos_iff.mpr hmem) (howned callback))

/-- Only a stopped driver drops wakeups, and then all that it has at hand; it starts none. -/
lemma Advance.drops {l l' : Loop ι} {notes : List (Note ι)} (h : Advance l l' notes) :
    notes.filterMap released? = (if l.reactor.stopped then l.atHand else []) ∧
      (l.reactor.stopped = true → l'.atHand = [] ∧ l'.queued = l.queued ∧
        (l.active = none → ∀ callback, l'.active ≠ some ⟨callback, .wakeup⟩)) := by
  cases h with
  | stops stage stopped => simp [stopped, atHand, queued, stage, Stage.unworked, released?]
  | fails stage running _ => simp [running, released?]
  | wakes stage running _ _ =>
      refine ⟨?_, by simp [running]⟩
      rw [running]
      split <;> rfl
  | collects stage running _ _ => simp [running]
  | woke stage => simp +contextual [atHand, queued, stage, Stage.unworked]
  | discards stage stopped =>
      rw [released_discards, if_pos stopped, atHand, stage]
      refine ⟨rfl, fun _ => ⟨rfl, rfl, fun hidle => ?_⟩⟩
      simp [hidle]
  | calls stage running => simp [running, released?]
  | skips stage running _ => simp [running]
  | delivers stage running _ => simp [running, released?]
  | turns stage => simp +contextual [atHand, queued, stage, Stage.unworked]
  | passesRead stage _ => simp +contextual [atHand, queued, stage, Stage.unworked]
  | reads stage _ _ => simp [atHand, queued, stage, Stage.unworked, released?]
  | passesWrite stage _ => simp +contextual [atHand, queued, stage, Stage.unworked]
  | @writes e rest fd registration callback stage _ _ armed handler =>
      have hnotes := (filterMap_of_registration
        (ofRegistration_takeWrite l.reactor fd registration)).2.2
      have hqueue := (l.reactor.taken fd armed handler).sameWork.wakeups
      simp [atHand, queued, stage, Stage.unworked, released?, hnotes, hqueue]
  | mismatches stage _ =>
      rcases stage with stage | stage <;>
        simp [atHand, queued, stage, Stage.unworked, released?]

/-- What a removal puts at stake are callbacks of its descriptor. -/
lemma Stride.handlerOf_of_mem_atStake {s : Stride ι} {fd : Fd} {i : Interest}
    (hm : s.move = .remove fd i) {callback : CallbackId} (hstake : callback ∈ s.atStake) :
    ∃ d, s.before.reactor.handlerOf fd d = some callback := by
  simp only [Stride.atStake, hm, List.mem_dedup] at hstake
  obtain ⟨d, -, handler⟩ := Reactor.mem_heldFor.mp hstake
  exact ⟨d, handler⟩

/-- What puts an end to a wakeup: it has run or panicked, a stop drops the queue, a stopped driver
drops what it has at hand, or another callback panics while the wakeup is at hand. -/
inductive Stride.Ends (s : Stride ι) (callback : CallbackId) : Prop
  | worked (move : s.move = .finish ∨ s.move = .unwind)
      (active : s.before.active = some ⟨callback, .wakeup⟩)
  | stopped (move : s.move = .stop) (waiting : callback ∈ s.before.queued)
  | discarded (move : s.move = .advance) (stopped : s.before.reactor.stopped = true)
      (waiting : callback ∈ s.before.atHand)
  | interrupted (move : s.move = .unwind) (waiting : callback ∈ s.before.atHand)

/-- A wakeup is at stake just if the move puts an end to it. -/
lemma Apart.mem_atStake_iff {s : Stride ι} (h : s.before.Apart) {callback : CallbackId}
    (hbefore : s.before.HasFor .wakeup callback) : callback ∈ s.atStake ↔ s.Ends callback := by
  constructor
  · intro hstake
    have hold : callback ≠ s.before.nextCallback := Nat.ne_of_lt (h.fresh _ _ hbefore)
    have hrunning (hactive : callback ∈ s.before.active.toList.map (·.callback)) :
        s.before.active = some ⟨callback, .wakeup⟩ := by
      obtain ⟨⟨running, role⟩, hmem, rfl⟩ := List.mem_map.mp hactive
      have hsome := Option.mem_toList.mp hmem
      have hpurpose := h.purpose _ _ running hbefore (.running hsome)
      cases role with
      | wakeup => exact hsome
      | readiness _ _ => cases hpurpose
      | consumer _ _ => cases hpurpose
    cases hm : s.move with
    | add fd i => exact absurd (by simpa [Stride.atStake, hm] using hstake) hold
    | wakeUp withCallback =>
        cases withCallback with
        | true => exact absurd (by simpa [Stride.atStake, hm] using hstake) hold
        | false => simp [Stride.atStake, hm] at hstake
    | remove fd i =>
        obtain ⟨d, handler⟩ := Stride.handlerOf_of_mem_atStake hm hstake
        cases h.purpose _ _ callback hbefore (.registered handler)
    | setConsumer q =>
        simp only [Stride.atStake, hm, Option.mem_toList] at hstake
        cases h.purpose _ _ callback hbefore (.consuming hstake)
    | clearConsumer q =>
        simp only [Stride.atStake, hm, Option.mem_toList] at hstake
        cases h.purpose _ _ callback hbefore (.consuming hstake)
    | stop => exact .stopped hm (by simpa [Stride.atStake, hm] using hstake)
    | advance =>
        simp only [Stride.atStake, hm, List.mem_ite_nil_right] at hstake
        exact .discarded hm hstake.1 hstake.2
    | finish =>
        simp only [Stride.atStake, hm] at hstake
        exact .worked (.inl hm) (hrunning hstake)
    | unwind =>
        simp only [Stride.atStake, hm, List.mem_append] at hstake
        rcases hstake with hactive | hwaiting
        · exact .worked (.inr hm) (hrunning hactive)
        · exact .interrupted hm hwaiting
    | _ => simp [Stride.atStake, hm] at hstake
  · rintro (⟨hm | hm, hactive⟩ | ⟨hm, hwaiting⟩ | ⟨hm, hstopped, hwaiting⟩ | ⟨hm, hwaiting⟩)
    · simp [Stride.atStake, hm, hactive]
    · simp [Stride.atStake, hm, hactive]
    · simpa [Stride.atStake, hm] using hwaiting
    · simpa [Stride.atStake, hm, hstopped] using hwaiting
    · simp [Stride.atStake, hm, hwaiting]

lemma Stride.idle_of_finish {s : Stride ι} (hm : s.move = .finish) : s.after.active = none := by
  have hmade := s.made
  simp only [hm, step, finish, Option.map_map, Option.map_eq_some_iff, Function.comp_apply,
    Prod.mk.injEq] at hmade
  obtain ⟨a, -, hafter, -⟩ := hmade
  rw [← hafter]
  split <;> rfl

/-- A wakeup that comes to its end is gone. -/
lemma Stride.Ends.not_has {s : Stride ι} {callback : CallbackId} (hends : s.Ends callback)
    (h : s.before.Apart) (hs : s.before.reactor.registry.Sound)
    (hbefore : s.before.HasFor .wakeup callback) : ¬s.after.Has callback := by
  intro hafter
  have hwaits := hasFor_wakeup.mp (h.hasFor_of_has hs hbefore hafter)
  have hdisjoint {x : CallbackId} (hx : x ∈ s.before.atHand) : x ∉ s.before.queued :=
    fun hx' => (List.nodup_append.mp h.waiting).2.2 x hx x hx' rfl
  cases hends with
  | worked move active =>
      rcases hwaits with hwaiting | hrunning
      · have hmem := s.passage.sublist.subset (List.mem_append_right _ hwaiting)
        rcases List.mem_append.mp hmem with hwaited | haccepted
        · exact h.called callback active hwaited
        · exact h.not_hands hbefore (Stride.hands_of_accepts haccepted)
      · have hidle : s.after.active = none := by
          rcases move with hm | hm
          · exact Stride.idle_of_finish hm
          · exact (Stride.unwound hm).2.2.1
        rw [hidle] at hrunning
        cases hrunning
  | stopped move waiting =>
      have hqueue : s.after.queued = [] := by rw [queued, Stride.wakeups_of_stop move]; rfl
      have hhand := Stride.atHand_eq (s := s) (by simp [move]) (by simp [move])
      rcases hwaits with hwaiting | hrunning
      · rw [hqueue, hhand, List.append_nil] at hwaiting
        exact hdisjoint hwaiting waiting
      · rcases Stride.active_of_after hrunning with hkept | hstarts
        · exact h.called callback hkept (List.mem_append_right _ waiting)
        · simpa [move] using hstarts.advance.1
  | discarded move stopped waiting =>
      obtain ⟨hidle, hadvance⟩ := s.advance move
      obtain ⟨hhand, hqueue, hactive⟩ := hadvance.drops.2 stopped
      rcases hwaits with hwaiting | hrunning
      · rw [hhand, hqueue, List.nil_append] at hwaiting
        exact hdisjoint waiting hwaiting
      · exact hactive hidle callback hrunning
  | interrupted move waiting =>
      obtain ⟨hreactor, hstage, hidle, -⟩ := Stride.unwound move
      rcases hwaits with hwaiting | hrunning
      · rw [atHand, queued, hstage, hreactor] at hwaiting
        exact hdisjoint waiting hwaiting
      · rw [hidle] at hrunning
        cases hrunning

/-- Nobody has a consumer that no queue has and that does not run. -/
lemma Apart.not_has_of_consumer {s : Stride ι} (h : s.before.Apart)
    (hs : s.before.reactor.registry.Sound) {callback : CallbackId}
    (hbefore : s.before.HasFor .consumption callback)
    (hqueue : ∀ q, (s.after.reactor.queue q).consumer ≠ some callback)
    (hactive : ∀ role, s.after.active ≠ some ⟨callback, role⟩) : ¬s.after.Has callback := by
  intro hafter
  rcases hasFor_consumption.mp (h.hasFor_of_has hs hbefore hafter) with ⟨q, hq⟩ | ⟨q, items, hrole⟩
  · exact hqueue q hq
  · exact hactive _ hrole

/-- A consumer that its queue loses, and not to the driver, is gone. -/
lemma Apart.not_has_of_replaced {s : Stride ι} (h : s.before.Apart)
    (hs : s.before.reactor.registry.Sound) (hm : s.move ≠ .advance) {q : QueueId}
    {callback : CallbackId} (consumer : (s.before.reactor.queue q).consumer = some callback)
    (hq : (s.after.reactor.queue q).consumer ≠ some callback) : ¬s.after.Has callback := by
  refine h.not_has_of_consumer hs (.consuming consumer) (fun q' hq' => ?_) fun role hactive => ?_
  · rcases Stride.consumer_of_after hq' with hkept | ⟨-, hnext⟩ | ⟨-, items, hactive⟩
    · exact hq (h.consumer q' q callback hkept consumer ▸ hq')
    · exact Nat.ne_of_gt (h.fresh _ _ (.consuming consumer)) hnext
    · exact h.atWork _ q items callback hactive consumer
  · rcases Stride.active_of_after hactive with hkept | hstarts
    · have hpurpose := h.purpose _ _ callback (.consuming consumer) (.running hkept)
      cases role with
      | consumer q' items => exact h.atWork q' q items callback hkept consumer
      | readiness _ _ => cases hpurpose
      | wakeup => cases hpurpose
    · exact hm hstarts.advance.1

lemma Apart.not_has_of_wakeup {s : Stride ι} (h : s.before.Apart)
    (hs : s.before.reactor.registry.Sound) {callback : CallbackId}
    (hbefore : s.before.HasFor .wakeup callback) (hstake : callback ∈ s.atStake) :
    ¬s.after.Has callback := ((h.mem_atStake_iff hbefore).mp hstake).not_has h hs hbefore

/-- What is at stake is at stake once. -/
lemma Apart.nodup_atStake {s : Stride ι} (h : s.before.Apart) : s.atStake.Nodup := by
  have hactive : (s.before.active.toList.map (·.callback)).Nodup := by
    cases s.before.active <;> simp
  have hhand := (List.nodup_append.mp h.waiting).1
  cases hm : s.move with
  | remove fd i => simpa only [Stride.atStake, hm] using List.nodup_dedup _
  | stop => simpa only [Stride.atStake, hm] using (List.nodup_append.mp h.waiting).2.1
  | wakeUp withCallback => cases withCallback <;> simp [Stride.atStake, hm]
  | setConsumer q => simpa only [Stride.atStake, hm] using Option.toList_nodup _
  | clearConsumer q => simpa only [Stride.atStake, hm] using Option.toList_nodup _
  | advance =>
      simp only [Stride.atStake, hm]
      split
      · exact hhand
      · exact .nil
  | finish => simpa only [Stride.atStake, hm] using hactive
  | unwind =>
      simp only [Stride.atStake, hm]
      refine List.nodup_append.mpr ⟨hactive, hhand, ?_⟩
      rintro callback hrunning _ hwaiting rfl
      obtain ⟨⟨running, role⟩, hmem, rfl⟩ := List.mem_map.mp hrunning
      have hrole := Option.mem_toList.mp hmem
      have hwaits := List.mem_append_left s.before.queued hwaiting
      have hpurpose := h.purpose _ _ running (.waiting hwaits) (.running hrole)
      cases role with
      | wakeup => exact h.called running hrole hwaits
      | readiness _ _ => cases hpurpose
      | consumer _ _ => cases hpurpose
  | _ => simp [Stride.atStake, hm]

/-- What is at stake was with somebody, or it is handed over. -/
lemma Stride.has_of_mem_atStake {s : Stride ι} {callback : CallbackId}
    (hstake : callback ∈ s.atStake) : s.before.Has callback ∨ ∃ p, s.Hands p callback := by
  have hrunning (hactive : callback ∈ s.before.active.toList.map (·.callback)) :
      s.before.Has callback := by
    obtain ⟨⟨running, role⟩, hmem, rfl⟩ := List.mem_map.mp hactive
    exact .running (Option.mem_toList.mp hmem)
  cases hm : s.move with
  | add fd i =>
      simp only [Stride.atStake, hm, List.mem_singleton] at hstake
      exact .inr ⟨.readiness, by rw [hm]; rfl, hstake.symm⟩
  | wakeUp withCallback =>
      cases withCallback with
      | true =>
          simp only [Stride.atStake, hm, List.mem_singleton] at hstake
          exact .inr ⟨.wakeup, by rw [hm]; rfl, hstake.symm⟩
      | false => simp [Stride.atStake, hm] at hstake
  | remove fd i =>
      obtain ⟨d, handler⟩ := Stride.handlerOf_of_mem_atStake hm hstake
      exact .inl (.registered handler)
  | stop =>
      simp only [Stride.atStake, hm] at hstake
      exact .inl (.waiting (List.mem_append_right _ hstake))
  | setConsumer q =>
      simp only [Stride.atStake, hm, Option.mem_toList] at hstake
      exact .inl (.consuming hstake)
  | clearConsumer q =>
      simp only [Stride.atStake, hm, Option.mem_toList] at hstake
      exact .inl (.consuming hstake)
  | advance =>
      simp only [Stride.atStake, hm, List.mem_ite_nil_right] at hstake
      exact .inl (.waiting (List.mem_append_left _ hstake.2))
  | finish =>
      simp only [Stride.atStake, hm] at hstake
      exact .inl (hrunning hstake)
  | unwind =>
      simp only [Stride.atStake, hm, List.mem_append] at hstake
      rcases hstake with hactive | hwaiting
      · exact .inl (hrunning hactive)
      · exact .inl (.waiting (List.mem_append_left _ hwaiting))
  | _ => simp [Stride.atStake, hm] at hstake

end Loop

end EventLoop
