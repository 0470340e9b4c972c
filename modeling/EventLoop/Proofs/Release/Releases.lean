import EventLoop.Proofs.Refusals
import EventLoop.Proofs.Release.Stakes

/-!
When callbacks are released. Every callback is released once, with the move by which nobody has it
any more.

* `Stride.releasesLost` says what a move releases: of the callbacks at stake those that are lost.
  For callbacks of descriptors this is so because they are released with their last owner.
  `Stride.released_iff` is what follows from it, without the list of those at stake.
* `Accounted` says that what was released is what was handed over and is with nobody; `accounted`
  that this is so at any time.
* `Loop.InUse` says that a callback is in a slot of the table or runs.
* `callbacks_are_released_once` is the main statement here.
-/

namespace EventLoop

namespace Loop

open Reactor (Direction Note Role)

variable {ι : Type}

/-! ### What a move releases -/

/-- A move releases those callbacks at stake that nobody has any more, each once. -/
structure Stride.ReleasesLost (s : Stride ι) : Prop where
  nodup : (s.notes.filterMap released?).Nodup
  mem_iff : ∀ callback, callback ∈ s.notes.filterMap released? ↔
    callback ∈ s.atStake ∧ ¬s.after.Has callback

lemma Stride.releasesLost_of_all {s : Stride ι} (h : s.before.Apart)
    (hnotes : s.notes.filterMap released? = s.atStake)
    (hlost : ∀ callback ∈ s.atStake, ¬s.after.Has callback) : s.ReleasesLost where
  nodup := hnotes ▸ h.nodup_atStake
  mem_iff callback := by
    rw [hnotes]
    exact ⟨fun hstake => ⟨hstake, hlost callback hstake⟩, And.left⟩

lemma Stride.releasesLost_of_none {s : Stride ι} (hnotes : s.notes.filterMap released? = [])
    (hkept : ∀ callback ∈ s.atStake, s.after.Has callback) : s.ReleasesLost where
  nodup := hnotes ▸ .nil
  mem_iff callback := by
    rw [hnotes]
    exact iff_of_false List.not_mem_nil fun ⟨hstake, hgone⟩ => hgone (hkept callback hstake)

lemma filterMap_released (callbacks : List CallbackId) :
    (callbacks.map (Note.released (ι := ι))).filterMap released? = callbacks := by
  have hsome : released? ∘ Note.released (ι := ι) = some := rfl
  rw [List.filterMap_map, hsome, List.filterMap_some]

/-- An addition releases the callback that it turns down. -/
lemma Stride.releasesLost_of_add {s : Stride ι} (h : s.before.Apart)
    (hs : s.before.reactor.registry.Sound) {fd : Fd} {i : Interest} (hm : s.move = .add fd i) :
    s.ReleasesLost := by
  have hmade := s.made
  simp only [hm, step, Loop.add, Option.some.injEq, Prod.mk.injEq] at hmade
  obtain ⟨-, hreply, hnotes⟩ := hmade
  have hnone := (filterMap_of_registration
    (ofRegistration_add s.before.reactor fd i s.before.nextCallback)).2.2
  obtain ⟨b, hb, hadded⟩ := Stride.added hm
  have hstake : s.atStake = [s.before.nextCallback] := by simp [Stride.atStake, hm]
  rw [hb, Reply.flag.injEq] at hreply
  cases b with
  | true =>
      refine Stride.releasesLost_of_none ?_ fun callback hcallback => ?_
      · rw [← hnotes, if_pos hreply]
        exact hnone
      · rw [hstake, List.mem_singleton] at hcallback
        obtain ⟨d, hd⟩ := Interest.exists_covers hadded.asked
        have hadds : s.Adds fd d callback := ⟨i, hm, hd, hb, hcallback.symm⟩
        exact .registered ((s.handlerOf_eq_some hs fd d callback).mpr (.inl hadds))
  | false =>
      refine Stride.releasesLost_of_all h ?_ fun callback hcallback hafter => ?_
      · rw [← hnotes, if_neg (by simp [hreply]), List.filterMap_append, hstake]
        exact congrArg (· ++ [s.before.nextCallback]) hnone
      · rw [hstake, List.mem_singleton] at hcallback
        exact h.not_has_nextCallback (hcallback ▸ Stride.has_of_refused hb hafter)

/-- A wakeup is released at once by a stopped reactor. -/
lemma Stride.releasesLost_of_wakeUp {s : Stride ι} (h : s.before.Apart)
    (hm : s.move = .wakeUp true) : s.ReleasesLost := by
  have hmade := s.made
  simp only [hm, step, Option.some.injEq, Prod.mk.injEq] at hmade
  have hstake : s.atStake = [s.before.nextCallback] := by simp [Stride.atStake, hm]
  rcases s.before.wakeUp_true with hrefused | ⟨-, haccepted⟩
  · rw [hrefused] at hmade
    refine Stride.releasesLost_of_all h (by rw [← hmade.2.2, hstake]; rfl) ?_
    intro callback hcallback
    rw [hstake, List.mem_singleton] at hcallback
    have hnobody : ¬s.before.Has callback := hcallback ▸ h.not_has_nextCallback
    rw [← hmade.1]
    rintro (handler | wakeup | consumer | active)
    · exact hnobody (.registered handler)
    · exact hnobody (.waiting wakeup)
    · exact hnobody (.consuming consumer)
    · exact hnobody (.running active)
  · rw [haccepted] at hmade
    refine Stride.releasesLost_of_none ?_ fun callback hcallback => ?_
    · rw [← hmade.2.2, List.filterMap_cons, noRelease_wake]
      rfl
    · rw [hstake, List.mem_singleton] at hcallback
      rw [hcallback, ← hmade.1]
      refine .waiting (List.mem_append_right _ ?_)
      rw [queued, (Reactor.sameWork_wake _).wakeups, List.filterMap_append]
      exact List.mem_append_right _ (List.mem_singleton.mpr rfl)

/-- A removal releases what loses its last owner with the slots that give it back. -/
lemma Stride.releasesLost_of_remove {s : Stride ι} (h : s.before.Apart)
    (hs : s.before.reactor.registry.Sound) {fd : Fd} {i : Interest} (hm : s.move = .remove fd i) :
    s.ReleasesLost := by
  have hmade := s.made
  obtain ⟨b, hb, hremoved⟩ := Stride.removed hm
  simp only [hm, step, Loop.remove, Option.some.injEq, Prod.mk.injEq, hb, Reply.flag.injEq] at hmade
  obtain ⟨hafter, hreply, hnotes⟩ := hmade
  have hnone := (filterMap_of_registration (ofRegistration_remove s.before.reactor fd i)).2.2
  rw [hreply] at hafter hnotes
  cases b with
  | true =>
      have hreleased : s.notes.filterMap released? =
          orphaned s.before.owners (s.before.reactor.heldFor fd i) := by
        rw [← hnotes, List.filterMap_append, hnone]
        exact filterMap_released _
      have howned := h.owned.count_heldFor_le fd i
      refine ⟨hreleased ▸ nodup_orphaned howned, fun callback => ?_⟩
      rw [hreleased, Stride.atStake, hm, List.mem_dedup]
      exact h.mem_orphaned_iff hs howned (congrArg owners hafter).symm
  | false =>
      refine Stride.releasesLost_of_none ?_ fun callback hstake => ?_
      · rw [← hnotes, List.filterMap_append, hnone]
        rfl
      · obtain ⟨d, handler⟩ := Stride.handlerOf_of_mem_atStake hm hstake
        exact .registered (by simpa using (hremoved.handlerOf fd d).trans handler)

/-- The end of a callback releases it, unless it is in the table or goes back to its queue. -/
lemma Stride.releasesLost_of_finish {s : Stride ι} (h : s.before.Apart)
    (hs : s.before.reactor.registry.Sound) (hm : s.move = .finish) : s.ReleasesLost := by
  have hmade := s.made
  simp only [hm, step, finish, Option.map_map, Option.map_eq_some_iff, Function.comp_apply,
    Prod.mk.injEq] at hmade
  obtain ⟨⟨callback, role⟩, hactive, hafter, -, hnotes⟩ := hmade
  have hstake : s.atStake = [callback] := by simp [Stride.atStake, hm, hactive]
  have hidle := Stride.idle_of_finish hm
  cases role with
  | readiness t d =>
      have hreleased : s.notes.filterMap released? = orphaned s.before.owners [callback] := by
        rw [← hnotes]
        exact filterMap_released _
      have hshared : s.before.shared = [callback] := shared_of_active hactive
      have howned := hshared ▸ h.owned.count_shared_le
      refine ⟨hreleased ▸ nodup_orphaned howned, fun c => ?_⟩
      rw [hreleased, hstake]
      exact h.mem_orphaned_iff hs howned (congrArg owners hafter).symm
  | wakeup =>
      refine Stride.releasesLost_of_all h (by rw [← hnotes, hstake]; rfl) fun c hc => ?_
      have hcallback := hc
      rw [hstake, List.mem_singleton] at hcallback
      exact h.not_has_of_wakeup hs (hcallback ▸ .running hactive) hc
  | consumer q items =>
      have hqueue (x : QueueId) : s.after.reactor.queue x =
          (s.before.reactor.returnConsumer q callback).1.queue x := by rw [← hafter]
      cases hheld : (s.before.reactor.queue q).consumer with
      | none =>
          refine Stride.releasesLost_of_none ?_ fun c hc => ?_
          · rw [← hnotes]
            simp [Reactor.returnConsumer, hheld, released?]
          · rw [hstake, List.mem_singleton] at hc
            refine .consuming (q := q) ?_
            rw [hqueue, Reactor.queue_returnConsumer, if_pos rfl, hheld, hc]
            rfl
      | some other =>
          have hsame : s.after.reactor = s.before.reactor := by
            rw [← hafter]
            simp [Reactor.returnConsumer, hheld]
          refine Stride.releasesLost_of_all h ?_ fun c hc => ?_
          · rw [← hnotes, hstake]
            simp only [Reactor.returnConsumer, hheld, Bool.false_eq_true, if_false]
            rfl
          · rw [hstake, List.mem_singleton] at hc
            refine h.not_has_of_consumer hs (hc ▸ .running hactive) (fun x => ?_) ?_
            · rw [hsame, hc]
              exact h.atWork q x items callback hactive
            · simp [hidle]

/-- A panic releases what is lost with the callback and all that the driver has at hand. -/
lemma Stride.releasesLost_of_unwind {s : Stride ι} (h : s.before.Apart)
    (hs : s.before.reactor.registry.Sound) (hm : s.move = .unwind) : s.ReleasesLost := by
  have hmade := s.made
  simp only [hm, step, unwind, Option.map_map, Option.map_eq_some_iff, Function.comp_apply,
    Prod.mk.injEq] at hmade
  obtain ⟨a, hactive, hafter, -, hnotes⟩ := hmade
  have hreleased : s.notes.filterMap released? =
      orphaned s.before.owners a.shared ++ (a.sole ++ s.before.atHand) := by
    rw [← hnotes]
    simp only [List.filterMap_append, giveBack, filterMap_released, released_discards]
    simp [leave, released?, atHand]
  obtain ⟨callback, role⟩ := a
  have hstake : s.atStake = callback :: s.before.atHand := by simp [Stride.atStake, hm, hactive]
  have hhand : ∀ c ∈ s.before.atHand, ¬s.after.Has c := fun c hc =>
    h.not_has_of_wakeup hs (.waiting (List.mem_append_left _ hc)) (by simp [hstake, hc])
  obtain ⟨hreactor, -, hidle, -⟩ := Stride.unwound hm
  cases role with
  | readiness t d =>
      have hshared : s.before.shared = [callback] := shared_of_active hactive
      have howned := hshared ▸ h.owned.count_shared_le
      replace hreleased : s.notes.filterMap released? =
        orphaned s.before.owners [callback] ++ s.before.atHand := hreleased
      refine ⟨?_, fun c => ?_⟩
      · have hnodup := h.nodup_atStake
        rw [hstake] at hnodup
        rw [hreleased]
        exact ((orphaned_sublist _ _).append_right _).nodup hnodup
      · rw [hreleased, hstake, List.mem_append,
          h.mem_orphaned_iff hs howned (congrArg owners hafter).symm, List.mem_singleton,
          List.mem_cons, or_and_right]
        exact or_congr_right ⟨fun hwaiting => ⟨hwaiting, hhand c hwaiting⟩, And.left⟩
  | wakeup =>
      refine Stride.releasesLost_of_all h (hreleased.trans hstake.symm) fun c hc => ?_
      rcases List.mem_cons.mp (hstake ▸ hc) with rfl | hwaiting
      · exact h.not_has_of_wakeup hs (.running hactive) hc
      · exact hhand c hwaiting
  | consumer q items =>
      refine Stride.releasesLost_of_all h (hreleased.trans hstake.symm) fun c hc => ?_
      rcases List.mem_cons.mp (hstake ▸ hc) with rfl | hwaiting
      · refine h.not_has_of_consumer hs (.running hactive) (fun x => ?_) (by simp [hidle])
        rw [hreactor]
        exact h.atWork q x items c hactive
      · exact hhand c hwaiting

/-- **What a move releases are the callbacks at stake that nobody has any more**, each once. -/
theorem Stride.releasesLost {s : Stride ι} (h : s.before.Apart)
    (hs : s.before.reactor.registry.Sound) : s.ReleasesLost := by
  have hmade := s.made
  cases hm : s.move with
  | add fd i => exact Stride.releasesLost_of_add h hs hm
  | remove fd i => exact Stride.releasesLost_of_remove h hs hm
  | requestWrite fd =>
      simp only [hm, step, Option.some.injEq, Prod.mk.injEq] at hmade
      refine Stride.releasesLost_of_none ?_ (by simp [Stride.atStake, hm])
      rw [← hmade.2.2]
      exact (filterMap_of_registration (ofRegistration_requestWrite s.before.reactor fd)).2.2
  | stop =>
      simp only [hm, step, Loop.stop, Option.some.injEq, Prod.mk.injEq] at hmade
      have hstake : s.atStake = s.before.queued := by rw [Stride.atStake, hm]
      refine Stride.releasesLost_of_all h ?_ fun callback hcallback => ?_
      · rw [← hmade.2.2, List.filterMap_append, (filterMap_stop _).2, released_discards, hstake]
        rfl
      · refine h.not_has_of_wakeup hs (.waiting (List.mem_append_right _ ?_)) hcallback
        rwa [← hstake]
  | wakeUp withCallback =>
      cases withCallback with
      | false =>
          simp only [hm, step, Option.some.injEq, Prod.mk.injEq] at hmade
          refine Stride.releasesLost_of_none ?_ (by simp [Stride.atStake, hm])
          rw [← hmade.2.2]
          exact noRelease_wake _
      | true => exact Stride.releasesLost_of_wakeUp h hm
  | push q item =>
      simp only [hm, step, Reactor.push, Option.some.injEq, Prod.mk.injEq] at hmade
      refine Stride.releasesLost_of_none ?_ (by simp [Stride.atStake, hm])
      rw [← hmade.2.2]
      rcases Reactor.wakeUp_some (s.before.reactor.setQueue q _) (.deliver q) with
        ⟨-, hrefused⟩ | ⟨-, haccepted⟩
      · rw [hrefused]
        rfl
      · rw [haccepted, List.filterMap_cons, List.filterMap_cons, noRelease_wake]
        rfl
  | drain q =>
      simp only [hm, step, Reactor.drainQueue, Option.some.injEq, Prod.mk.injEq] at hmade
      refine Stride.releasesLost_of_none ?_ (by simp [Stride.atStake, hm])
      rw [← hmade.2.2]
      rfl
  | setConsumer q =>
      simp only [hm, step, Loop.setConsumer, Option.some.injEq, Prod.mk.injEq] at hmade
      refine Stride.releasesLost_of_all h ?_ fun callback hstake => ?_
      · rw [← hmade.2.2, Stride.atStake, hm]
        exact filterMap_released _
      · simp only [Stride.atStake, hm, Option.mem_toList] at hstake
        have hhas := h.fresh _ _ (.consuming hstake)
        refine h.not_has_of_replaced hs (by simp [hm]) hstake ?_
        rw [Stride.queue_of_setConsumer hm]
        simpa using Nat.ne_of_gt hhas
  | clearConsumer q =>
      simp only [hm, step, Loop.clearConsumer, Option.some.injEq, Prod.mk.injEq] at hmade
      refine Stride.releasesLost_of_all h ?_ fun callback hstake => ?_
      · rw [← hmade.2.2, Stride.atStake, hm]
        exact filterMap_released _
      · simp only [Stride.atStake, hm, Option.mem_toList] at hstake
        refine h.not_has_of_replaced hs (by simp [hm]) hstake ?_
        rw [(Stride.queue_of_clearConsumer hm).1]
        simp
  | advance =>
      have hreleased := (s.advance hm).2.drops.1
      have hstake : s.atStake = if s.before.reactor.stopped then s.before.atHand else [] := by
        rw [Stride.atStake, hm]
      refine Stride.releasesLost_of_all h (hreleased.trans hstake.symm) fun callback hcallback => ?_
      refine h.not_has_of_wakeup hs (.waiting (List.mem_append_left _ ?_)) hcallback
      rw [hstake, List.mem_ite_nil_right] at hcallback
      exact hcallback.2
  | finish => exact Stride.releasesLost_of_finish h hs hm
  | unwind => exact Stride.releasesLost_of_unwind h hs hm
  | file action =>
      simp only [hm, step, Option.map_eq_some_iff, Prod.mk.injEq] at hmade
      obtain ⟨-, -, -, -, hnotes⟩ := hmade
      exact Stride.releasesLost_of_none (by rw [← hnotes]; rfl) (by simp [Stride.atStake, hm])
  | breakWatching =>
      simp only [hm, step, Option.some.injEq, Prod.mk.injEq] at hmade
      exact Stride.releasesLost_of_none (by rw [← hmade.2.2]; rfl) (by simp [Stride.atStake, hm])
  | breakWakeup =>
      simp only [hm, step, Option.some.injEq, Prod.mk.injEq] at hmade
      exact Stride.releasesLost_of_none (by rw [← hmade.2.2]; rfl) (by simp [Stride.atStake, hm])
  | enter =>
      simp only [hm, step, Option.ite_none_right_eq_some, Option.some.injEq, Prod.mk.injEq]
        at hmade
      obtain ⟨-, -, -, hnotes⟩ := hmade
      exact Stride.releasesLost_of_none (by rw [← hnotes]; rfl) (by simp [Stride.atStake, hm])

/-- **A callback is released by the move with which it gets lost**: somebody had it before, or it
was handed over by this move, and nobody has it afterwards. -/
theorem Stride.released_iff {s : Stride ι} (h : s.before.Apart)
    (hs : s.before.reactor.registry.Sound) (callback : CallbackId) :
    callback ∈ s.notes.filterMap released? ↔
      (s.before.Has callback ∨ ∃ p, s.Hands p callback) ∧ ¬s.after.Has callback := by
  rw [(Stride.releasesLost h hs).mem_iff]
  constructor
  · rintro ⟨hstake, hgone⟩
    exact ⟨Stride.has_of_mem_atStake hstake, hgone⟩
  · rintro ⟨hwho, hgone⟩
    have hstake : callback ∈ s.atStake := by
      by_contra hnot
      refine hgone ?_
      rcases hwho with hbefore | ⟨p, hhands⟩
      · obtain ⟨p, hp⟩ := has_iff.mp hbefore
        exact (Stride.hasFor_after hs (.inl hp) hnot).has
      · exact (Stride.hasFor_after hs (.inr hhands) hnot).has
    exact ⟨hstake, hgone⟩

lemma Stride.lt_nextCallback_of_released {s : Stride ι} (h : s.before.Apart)
    (hs : s.before.reactor.registry.Sound) {callback : CallbackId}
    (hreleased : callback ∈ s.notes.filterMap released?) : callback < s.after.nextCallback := by
  rcases ((Stride.released_iff h hs callback).mp hreleased).1 with hbefore | ⟨p, hhands⟩
  · obtain ⟨p, hp⟩ := has_iff.mp hbefore
    exact Nat.lt_of_lt_of_le (h.fresh p callback hp) (s.nextCallback ▸ Nat.le_add_right _ _)
  · exact hhands.nextCallback ▸ Nat.lt_succ_self _

/-! ### What a run releases -/

/-- The callbacks that were released, in their order. -/
def released (history : List (Stride ι)) : List CallbackId := noted released? history

lemma mem_notes_iff {s : Stride ι} {callback : CallbackId} :
    .released callback ∈ s.notes ↔ callback ∈ s.notes.filterMap released? := by
  rw [List.mem_filterMap]
  constructor
  · intro h
    exact ⟨_, h, rfl⟩
  · rintro ⟨n, hn, hreleased⟩
    cases n with
    | released other => cases hreleased; exact hn
    | _ => cases hreleased

lemma released_concat (past : List (Stride ι)) (s : Stride ι) :
    released (past ++ [s]) = released past ++ s.notes.filterMap released? := noted_concat _ _ _

/-- The callbacks that were handed over and that nobody has any more are released, each once. -/
structure Accounted (past : List (Stride ι)) (l : Loop ι) : Prop where
  apart : l.Apart
  nodup : (released past).Nodup
  mem_iff : ∀ callback, callback ∈ released past ↔
    callback < l.nextCallback ∧ ¬l.Has callback

/-- A number that is given by a move is the one of the callback that it hands over. -/
lemma Stride.exists_hands {s : Stride ι} {callback : CallbackId}
    (hle : s.before.nextCallback ≤ callback) (hlt : callback < s.after.nextCallback) :
    ∃ p, s.Hands p callback := by
  rw [s.nextCallback] at hlt
  have hnext {p : Purpose} (hp : s.move.purpose? = some p) (hone : s.move.hands.toNat = 1) :
      s.Hands p callback := by
    rw [hone] at hlt
    exact ⟨hp, Nat.le_antisymm hle (Nat.lt_succ_iff.mp hlt)⟩
  have hnone (hzero : s.move.hands.toNat = 0) : ∃ p, s.Hands p callback := by
    rw [hzero] at hlt
    exact absurd hlt (Nat.not_lt.mpr hle)
  cases hm : s.move with
  | add fd i => exact ⟨.readiness, hnext (by rw [hm]; rfl) (by rw [hm]; rfl)⟩
  | setConsumer q => exact ⟨.consumption, hnext (by rw [hm]; rfl) (by rw [hm]; rfl)⟩
  | wakeUp withCallback =>
      cases withCallback with
      | true => exact ⟨.wakeup, hnext (by rw [hm]; rfl) (by rw [hm]; rfl)⟩
      | false => exact hnone (by rw [hm]; rfl)
  | _ => exact hnone (by rw [hm]; rfl)

lemma Accounted.stride {past : List (Stride ι)} {s : Stride ι}
    (hs : s.before.reactor.registry.Sound) (h : Accounted past s.before) :
    Accounted (past ++ [s]) s.after := by
  have hreleased := Stride.released_iff h.apart hs
  refine ⟨h.apart.stride hs, ?_, fun callback => ?_⟩
  · rw [released_concat]
    refine List.nodup_append.mpr ⟨h.nodup, (Stride.releasesLost h.apart hs).nodup, ?_⟩
    -- what was released before is with nobody, and is not handed over again
    rintro callback hpast _ hnow rfl
    obtain ⟨hold, hnobody⟩ := (h.mem_iff callback).mp hpast
    rcases ((hreleased callback).mp hnow).1 with hbefore | ⟨p, -, hnext⟩
    · exact hnobody hbefore
    · exact Nat.ne_of_lt hold hnext.symm
  · rw [released_concat, List.mem_append, h.mem_iff]
    constructor
    · rintro (⟨hold, hnobody⟩ | hnow)
      · refine ⟨Nat.lt_of_lt_of_le hold (s.nextCallback ▸ Nat.le_add_right _ _), fun hafter => ?_⟩
        rcases Stride.has_of_after hs hafter with hbefore | ⟨hnext, -⟩
        · exact hnobody hbefore
        · exact Nat.ne_of_lt hold hnext.symm
      · exact ⟨Stride.lt_nextCallback_of_released h.apart hs hnow, ((hreleased callback).mp hnow).2⟩
    · rintro ⟨hlt, hgone⟩
      rw [hreleased]
      by_cases hbefore : s.before.Has callback
      · exact .inr ⟨.inl hbefore, hgone⟩
      by_cases hold : callback < s.before.nextCallback
      · exact .inl ⟨hold, hbefore⟩
      · exact .inr ⟨.inr (Stride.exists_hands (Nat.not_lt.mp hold) hlt), hgone⟩

lemma accounted (kernel : Kernel) (capacity : Nat) (ms : List (Move ι)) :
    Accounted ((start kernel capacity).strides ms) ((start kernel capacity).after ms) := by
  refine history_rec_of_sound (P := Accounted) Registry.sound_empty
    ⟨apart_start kernel capacity, .nil, fun callback => ?_⟩ (fun _ _ hs h => h.stride hs) ms
  exact iff_of_false (by simp [released]) fun h => Nat.not_lt_zero _ h.1

/-- What is so before every stride of a run. -/
lemma apart_before {kernel : Kernel} {capacity : Nat} {ms : List (Move ι)} {s : Stride ι}
    (hs : s ∈ (start kernel capacity).strides ms) :
    s.before.Apart ∧ s.before.reactor.registry.Sound := by
  obtain ⟨ms', hbefore⟩ := exists_after_eq_before hs
  rw [← hbefore]
  exact ⟨(accounted kernel capacity ms').apart, sound_after kernel capacity ms'⟩

/-- A callback is not started any more once it is released. -/
lemma not_starts_of_released {kernel : Kernel} {capacity : Nat} {ms : List (Move ι)}
    {past later : List (Stride ι)} {s t : Stride ι}
    (hcut : (start kernel capacity).strides ms = past ++ s :: later) {callback : CallbackId}
    (hreleased : .released callback ∈ s.notes) (ht : t ∈ s :: later) (role : Role ι) :
    ¬t.Starts callback role := by
  obtain ⟨hapart, hsound⟩ := apart_before (hcut ▸ List.mem_append_right _ (List.mem_cons_self ..))
  rw [mem_notes_iff] at hreleased
  have hgone := ((Stride.released_iff hapart hsound callback).mp hreleased).2
  rcases List.mem_cons.mp ht with rfl | ht
  · intro hstarts
    exact hgone (.running hstarts.advance.2.2.2)
  · obtain ⟨-, ms₂, -, -, rfl, -⟩ := exists_moves_of_strides_eq hcut
    have hlt := Stride.lt_nextCallback_of_released hapart hsound hreleased
    exact not_starts_of_not_has (s.change.follows hsound).sound hlt hgone ht role

/-! ### Callbacks for readiness and wakeups -/

/-- A callback is in a slot of the table or runs. -/
def InUse (l : Loop ι) (callback : CallbackId) : Prop :=
  (∃ fd d, l.reactor.handlerOf fd d = some callback) ∨ ∃ role, l.active = some ⟨callback, role⟩

lemma InUse.has {l : Loop ι} {callback : CallbackId} (h : l.InUse callback) : l.Has callback := by
  rcases h with ⟨fd, d, handler⟩ | ⟨role, active⟩
  · exact .registered handler
  · exact .running active

/-- After it was handed over, a callback is used for its purpose only and is not handed over
again. -/
lemma Stride.Hands.stays {a : Stride ι} {p : Purpose} {callback : CallbackId}
    (h : a.Hands p callback) (hapart : a.before.Apart) (ha : a.before.reactor.registry.Sound)
    (ms : List (Move ι)) :
    callback < (a.after.after ms).nextCallback ∧
      ∀ p', (a.after.after ms).HasFor p' callback → p' = p := by
  refine history_rec_of_sound (P := fun _ l => callback < l.nextCallback ∧
    ∀ p', l.HasFor p' callback → p' = p) (a.change.follows ha).sound ⟨?_, ?_⟩ ?_ ms
  · exact h.nextCallback ▸ Nat.lt_succ_self _
  · intro p' hp'
    rcases Stride.hasFor_of_after ha hp' with hkept | hhands
    · exact absurd h (hapart.not_hands hkept)
    · exact hhands.purpose_eq h
  · rintro - s hs ⟨hlt, hpurpose⟩
    refine ⟨Nat.lt_of_lt_of_le hlt (s.nextCallback ▸ Nat.le_add_right _ _), fun p' hp' => ?_⟩
    rcases Stride.hasFor_of_after hs hp' with hkept | ⟨-, hnext⟩
    · exact hpurpose p' hkept
    · exact absurd hnext.symm (Nat.ne_of_lt hlt)

/-- What a stride after the one that handed a callback over has to do with it. -/
lemma Stride.Hands.later {kernel : Kernel} {capacity : Nat} {ms : List (Move ι)}
    {past later : List (Stride ι)} {a s : Stride ι}
    (hcut : (start kernel capacity).strides ms = past ++ a :: later) (hmem : s ∈ later)
    {p : Purpose} {callback : CallbackId} (h : a.Hands p callback) :
    s.before.Apart ∧ s.before.reactor.registry.Sound ∧ (∀ p', ¬s.Hands p' callback) ∧
      (∀ p', s.before.HasFor p' callback → p' = p) ∧
      ∀ p', s.after.HasFor p' callback → p' = p := by
  obtain ⟨hapart, hsound⟩ := apart_before (hcut ▸ List.mem_append_right _ (List.mem_cons_self ..))
  obtain ⟨hapart', hsound'⟩ :=
    apart_before (hcut ▸ List.mem_append_right _ (List.mem_cons_of_mem a hmem))
  obtain ⟨-, ms₂, -, -, rfl, -⟩ := exists_moves_of_strides_eq hcut
  obtain ⟨ms₃, hs⟩ := exists_after_eq_before hmem
  obtain ⟨ms₄, hs'⟩ := exists_after_eq_after hmem
  obtain ⟨hlt, hpurpose⟩ := h.stays hapart hsound ms₃
  have hpurpose' := (h.stays hapart hsound ms₄).2
  rw [hs] at hlt hpurpose
  rw [hs'] at hpurpose'
  refine ⟨hapart', hsound', ?_, hpurpose, hpurpose'⟩
  rintro p' ⟨-, hnext⟩
  exact Nat.ne_of_lt hlt hnext.symm

lemma has_iff_inUse {l : Loop ι} {callback : CallbackId}
    (h : ∀ p, l.HasFor p callback → p = .readiness) :
    l.Has callback ↔ l.InUse callback := by
  refine ⟨fun hhas => ?_, InUse.has⟩
  obtain ⟨p, hp⟩ := has_iff.mp hhas
  obtain rfl := h p hp
  refine (hasFor_readiness.mp hp).imp_right ?_
  rintro ⟨t, d, active⟩
  exact ⟨_, active⟩

/-- A callback that is added is in use just if the addition succeeds. -/
lemma Stride.inUse_of_add {a : Stride ι} (h : a.before.Apart)
    (ha : a.before.reactor.registry.Sound) {fd : Fd} {i : Interest} (hm : a.move = .add fd i) :
    a.after.InUse a.before.nextCallback ↔ a.reply = .flag true := by
  obtain ⟨b, hb, hadded⟩ := Stride.added hm
  constructor
  · intro hused
    cases b with
    | true => exact hb
    | false => exact absurd (Stride.has_of_refused hb hused.has) h.not_has_nextCallback
  · intro hreply
    obtain rfl : b = true := by simpa [hb] using hreply
    obtain ⟨d, hd⟩ := Interest.exists_covers hadded.asked
    have hadds : a.Adds fd d a.before.nextCallback := ⟨i, hm, hd, hb, rfl⟩
    exact .inl ⟨fd, d, (a.handlerOf_eq_some ha fd d _).mpr (.inl hadds)⟩

/-- A wakeup is released at once just by a stopped reactor. -/
lemma Stride.released_of_wakeUp {a : Stride ι} (hm : a.move = .wakeUp true) :
    .released a.before.nextCallback ∈ a.notes ↔ a.before.reactor.stopped = true := by
  have hmade := a.made
  simp only [hm, step, Option.some.injEq, Prod.mk.injEq] at hmade
  obtain ⟨-, -, hnotes⟩ := hmade
  rw [mem_notes_iff, ← hnotes]
  rcases a.before.reactor.wakeUp_some (.call a.before.nextCallback) with
    ⟨hstopped, hrefused⟩ | ⟨hrunning, haccepted⟩
  · simp [Loop.wakeUp, newCallback, hrefused, hstopped, released?]
  · have hnone : (a.before.wakeUp true).2.filterMap released? = [] := by
      simp only [Loop.wakeUp, newCallback, haccepted, hrunning, if_true, Bool.false_eq_true,
        if_false]
      rw [List.filterMap_cons, noRelease_wake]
      rfl
    simp [hnone, hrunning]

lemma Stride.Ends.hasFor {s : Stride ι} {callback : CallbackId} (h : s.Ends callback) :
    s.before.HasFor .wakeup callback := by
  rcases h with ⟨-, active⟩ | ⟨-, waiting⟩ | ⟨-, -, waiting⟩ | ⟨-, waiting⟩
  · exact .running active
  · exact .waiting (List.mem_append_right _ waiting)
  · exact .waiting (List.mem_append_left _ waiting)
  · exact .waiting (List.mem_append_left _ waiting)

/-- **Callbacks are released once.** Whatever happens in a run, no callback is released twice; those
that were released are those that were handed over and that nobody has any more; and none is started
after its release. A callback that is added is released at once just if it is turned down. Otherwise
it is in use then, and it is released by the move with which it ceases to be in use: with which it
is neither in a slot of the table any more nor running. A callback that is handed over as a wakeup
is released at once just if the reactor is stopped, and otherwise by the move that puts an end to
it: when it has run or panicked, or when a stop, a driver that finds the reactor stopped, or the
panic of another callback drops it. -/
theorem callbacks_are_released_once (kernel : Kernel) (capacity : Nat) (ms : List (Move ι)) :
    (released ((start kernel capacity).strides ms)).Nodup ∧
    (∀ callback, callback ∈ released ((start kernel capacity).strides ms) ↔
      callback < ((start kernel capacity).after ms).nextCallback ∧
        ¬((start kernel capacity).after ms).Has callback) ∧
    (∀ past s later callback, (start kernel capacity).strides ms = past ++ s :: later →
      .released callback ∈ s.notes → ∀ t ∈ s :: later, ∀ role, ¬t.Starts callback role) ∧
    (∀ past a later fd i, (start kernel capacity).strides ms = past ++ a :: later →
      a.move = .add fd i →
      (.released a.before.nextCallback ∈ a.notes ↔ a.reply = .flag false) ∧
      (a.after.InUse a.before.nextCallback ↔ a.reply = .flag true) ∧
      ∀ s ∈ later, .released a.before.nextCallback ∈ s.notes ↔
        s.before.InUse a.before.nextCallback ∧ ¬s.after.InUse a.before.nextCallback) ∧
    (∀ past a later, (start kernel capacity).strides ms = past ++ a :: later →
      a.move = .wakeUp true →
      (.released a.before.nextCallback ∈ a.notes ↔ a.before.reactor.stopped = true) ∧
      ∀ s ∈ later, .released a.before.nextCallback ∈ s.notes ↔ s.Ends a.before.nextCallback) := by
  have hall := accounted kernel capacity ms
  refine ⟨hall.nodup, hall.mem_iff, ?_, ?_, ?_⟩
  · intro past s later callback hcut hreleased t ht role
    exact not_starts_of_released hcut hreleased ht role
  · intro past a later fd i hcut hm
    obtain ⟨hapart, hsound⟩ :=
      apart_before (hcut ▸ List.mem_append_right _ (List.mem_cons_self ..))
    have hhands : a.Hands .readiness a.before.nextCallback := ⟨by rw [hm]; rfl, rfl⟩
    have hused := Stride.inUse_of_add hapart hsound hm
    refine ⟨?_, hused, fun s hs => ?_⟩
    · have hpurpose := (hhands.stays hapart hsound []).2
      rw [after_nil] at hpurpose
      rw [mem_notes_iff, Stride.released_iff hapart hsound,
        and_iff_right (.inr ⟨_, hhands⟩), has_iff_inUse hpurpose, hused]
      obtain ⟨b, hb, -⟩ := Stride.added hm
      cases b <;> simp [hb]
    · obtain ⟨hapart', hsound', hnot, hpurpose, hpurpose'⟩ := hhands.later hcut hs
      rw [mem_notes_iff, Stride.released_iff hapart' hsound',
        or_iff_left fun ⟨p, hp⟩ => hnot p hp, has_iff_inUse hpurpose, has_iff_inUse hpurpose']
  · intro past a later hcut hm
    have hhands : a.Hands .wakeup a.before.nextCallback := ⟨by rw [hm]; rfl, rfl⟩
    refine ⟨Stride.released_of_wakeUp hm, fun s hs => ?_⟩
    obtain ⟨hapart, hsound, hnot, hpurpose, -⟩ := hhands.later hcut hs
    rw [mem_notes_iff, Stride.released_iff hapart hsound, or_iff_left fun ⟨p, hp⟩ => hnot p hp]
    constructor
    · rintro ⟨hbefore, hgone⟩
      obtain ⟨p, hp⟩ := has_iff.mp hbefore
      obtain rfl := hpurpose p hp
      refine (hapart.mem_atStake_iff hp).mp ?_
      by_contra hnot
      exact hgone (Stride.hasFor_after hsound (.inl hp) hnot).has
    · intro hends
      exact ⟨hends.hasFor.has, hends.not_has hapart hsound hends.hasFor⟩

/-! ### A callback that removes itself

A callback serves both directions. When it runs for the first time it removes itself in both, hands
a wakeup over and comes to its end; then the reactor is stopped.
-/

namespace SelfRemoval

/-- The addition of the callback. -/
def adds : Stride Unit :=
  stride ((start (.boot none) 64).after [.file (.pair 100 101)]) (.add 100 .both) rfl

/-- Up to the removal, in the middle of the callback. -/
def middle : List (Move Unit) :=
  [.file (.write 101 [120]), .enter, .advance, .advance, .remove 100 .both]

/-- A wakeup is handed over. -/
def wakes : Stride Unit := stride (adds.after.after middle) (.wakeUp true) rfl

/-- The end of the callback. -/
def ends : Stride Unit := stride wakes.after .finish rfl

def stops : Stride Unit := stride ends.after .stop rfl

def moves : List (Move Unit) :=
  .file (.pair 100 101) :: .add 100 .both :: (middle ++ [.wakeUp true, .finish, .stop])

lemma cut : (start (.boot none) 64).strides moves =
    (start (.boot none) 64).strides [.file (.pair 100 101)] ++
      adds :: (adds.after.strides middle ++ [wakes, ends, stops]) := rfl

lemma cut_wakes : (start (.boot none) 64).strides moves =
    ((start (.boot none) 64).strides [.file (.pair 100 101)] ++
      adds :: adds.after.strides middle) ++ wakes :: [ends, stops] := rfl

lemma cut_ends : (start (.boot none) 64).strides moves =
    ((start (.boot none) 64).strides [.file (.pair 100 101)] ++
      adds :: (adds.after.strides middle ++ [wakes])) ++ ends :: [stops] := rfl

end SelfRemoval

/-- The callback is released at its end and not at its removal, and the wakeup at the stop. -/
theorem callbacks_are_released_once_removed :
    (start (.boot none) 64).strides SelfRemoval.moves =
        (start (.boot none) 64).strides [.file (.pair 100 101)] ++ SelfRemoval.adds ::
          (SelfRemoval.adds.after.strides SelfRemoval.middle ++
            [SelfRemoval.wakes, SelfRemoval.ends, SelfRemoval.stops]) ∧
      SelfRemoval.adds.move = .add 100 .both ∧ SelfRemoval.wakes.move = .wakeUp true ∧
      SelfRemoval.adds.after.InUse 0 ∧ .released 0 ∈ SelfRemoval.ends.notes ∧
      (SelfRemoval.ends.before.InUse 0 ∧ ¬SelfRemoval.ends.after.InUse 0) ∧
      SelfRemoval.stops.Ends 1 ∧ .released 1 ∈ SelfRemoval.stops.notes ∧
      ∀ role, ¬SelfRemoval.stops.Starts 0 role := by
  obtain ⟨-, -, hstarts, hadded, hwoken⟩ :=
    callbacks_are_released_once (.boot none) 64 SelfRemoval.moves
  obtain ⟨-, hused, hlater⟩ := hadded _ _ _ 100 .both SelfRemoval.cut rfl
  have hreleased : .released 0 ∈ SelfRemoval.ends.notes :=
    List.mem_cons_of_mem _ (List.mem_singleton.mpr rfl)
  have hends : SelfRemoval.stops.Ends 1 := .stopped rfl (List.mem_singleton.mpr rfl)
  refine ⟨SelfRemoval.cut, rfl, rfl, hused.mpr rfl, hreleased, ?_, hends, ?_, ?_⟩
  · exact (hlater SelfRemoval.ends (by simp)).mp hreleased
  · exact ((hwoken _ _ _ SelfRemoval.cut_wakes rfl).2 SelfRemoval.stops (by simp)).mpr hends
  · exact hstarts _ _ _ 0 SelfRemoval.cut_ends hreleased SelfRemoval.stops (by simp)

end Loop

end EventLoop
