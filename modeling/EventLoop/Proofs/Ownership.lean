import EventLoop.Proofs.Dispatch
import EventLoop.Proofs.Queue.Moves
import EventLoop.Proofs.WakeupOrder

/-!
Who has a callback. A callback that was handed over is with a registration, with a wakeup, with a
queue as its consumer or with the driver that is running it. Nobody gets a callback from nowhere, so
one that nobody has any more stays away for good.

* `Loop.Has` lists the places where a callback can be.
* `Stride.Starts.has` says that the driver starts no callback that nobody has.
* `Stride.has_of_after` is the main statement here: a move brings no callback but the one that it
  hands over. `not_has_after` is what follows for a whole run, and `not_starts_of_not_has` that a
  callback nobody has is never started again.
* `lt_nextCallback_of_has` says that nobody has a callback before it is handed over.
-/

namespace EventLoop

namespace Loop

open Reactor (Direction Note Role)

variable {ι : Type}

/-- Somebody has a callback. -/
inductive Has (l : Loop ι) (callback : CallbackId) : Prop
  | registered {fd : Fd} {d : Direction} (handler : l.reactor.handlerOf fd d = some callback)
  | waiting (wakeup : callback ∈ l.atHand ++ l.queued)
  | consuming {q : QueueId} (consumer : (l.reactor.queue q).consumer = some callback)
  | running {role : Role ι} (active : l.active = some ⟨callback, role⟩)

/-! ### What the driver starts -/

/-- The driver starts no callback that nobody has. -/
lemma Stride.Starts.has {s : Stride ι} {callback : CallbackId} {role : Role ι}
    (h : s.Starts callback role) (hs : s.before.reactor.registry.Sound) :
    s.before.Has callback := by
  cases role with
  | readiness t d =>
      obtain ⟨fd, -, -, -, hhandler⟩ := h.entry hs
      exact .registered hhandler
  | wakeup =>
      have hcalled := s.passage.called_subset h.mem_called
      exact .waiting (List.mem_append_left _ hcalled)
  | consumer q items => exact .consuming h.delivers.1

/-! ### Where a callback comes from -/

/-- The moves other than the driver's own start nothing, and only two of them end what runs. -/
lemma Stride.active_eq_or_none {s : Stride ι} (hm : s.move ≠ .advance) :
    s.after.active = s.before.active ∨ s.move.ends = true ∧ s.after.active = none := by
  obtain ⟨l, m, ⟨reply, notes⟩, l', h⟩ := s
  dsimp only at hm ⊢
  cases m with
  | advance => exact absurd rfl hm
  | wakeUp withCallback => cases withCallback <;> cases h <;> exact .inl rfl
  | file action =>
      simp only [step, Option.map_eq_some_iff, Prod.mk.injEq] at h
      obtain ⟨-, -, rfl, -, -⟩ := h
      exact .inl rfl
  | enter =>
      simp only [step, Option.ite_none_right_eq_some, Option.some.injEq, Prod.mk.injEq] at h
      obtain ⟨-, rfl, -, -⟩ := h
      exact .inl rfl
  | finish =>
      simp only [step, finish, Option.map_map, Option.map_eq_some_iff, Function.comp_apply,
        Prod.mk.injEq] at h
      obtain ⟨a, -, rfl, -, -⟩ := h
      right
      refine ⟨rfl, ?_⟩
      split <;> rfl
  | unwind =>
      simp only [step, unwind, leave, Option.map_map, Option.map_eq_some_iff, Function.comp_apply,
        Prod.mk.injEq] at h
      obtain ⟨a, -, rfl, -, -⟩ := h
      exact .inr ⟨rfl, rfl⟩
  | _ => cases h; exact .inl rfl

/-- The callback that is running was running before, or is started. -/
lemma Stride.active_of_after {s : Stride ι} {callback : CallbackId} {role : Role ι}
    (h : s.after.active = some ⟨callback, role⟩) :
    s.before.active = some ⟨callback, role⟩ ∨ s.Starts callback role := by
  by_cases hm : s.move = .advance
  · obtain ⟨hidle, hadvance⟩ := s.advance hm
    exact .inr ((started_mem_iff_of_advance hadvance hidle callback role).mpr h)
  · rcases Stride.active_eq_or_none hm with hkept | ⟨-, hnone⟩
    · exact .inl (hkept ▸ h)
    · simp [hnone] at h

/-- The consumer of a queue was its consumer before, is handed over, or comes back from its work. -/
lemma Stride.consumer_of_after {s : Stride ι} {q : QueueId} {callback : CallbackId}
    (h : (s.after.reactor.queue q).consumer = some callback) :
    (s.before.reactor.queue q).consumer = some callback ∨
      s.move = .setConsumer q ∧ s.before.nextCallback = callback ∨
      s.after.active = none ∧ ∃ items, s.before.active = some ⟨callback, .consumer q items⟩ := by
  obtain ⟨pushed, taken, hhandled⟩ := s.handled q
  cases hhandled with
  | rests _ _ queue _ => exact .inl (queue ▸ h)
  | pushes _ queue _ => exact .inl (by rwa [queue] at h)
  | drains _ queue _ => exact .inl (by rwa [queue] at h)
  | sets move queue _ =>
      rw [queue] at h
      exact .inr (.inl ⟨move, Option.some.inj h⟩)
  | clears _ queue _ =>
      rw [queue] at h
      cases h
  | delivers _ _ _ _ queue _ =>
      rw [queue] at h
      cases h
  | returns _ work queue idle =>
      rw [queue] at h
      rcases Option.or_eq_some_iff.mp h with hkept | ⟨-, hback⟩
      · exact .inl hkept
      · exact .inr (.inr ⟨idle, atWork_eq_some_iff.mp (hback ▸ work)⟩)
  | dies _ _ queue _ => exact .inl (queue ▸ h)

/-- **A move brings no callback but the one that it hands over.** -/
theorem Stride.has_of_after {s : Stride ι} (hs : s.before.reactor.registry.Sound)
    {callback : CallbackId} (h : s.after.Has callback) :
    s.before.Has callback ∨
      s.before.nextCallback = callback ∧ s.after.nextCallback = callback + 1 := by
  have hnext := s.nextCallback
  cases h with
  | @registered fd d handler =>
      rw [s.handlerOf_eq_some hs] at handler
      rcases handler with ⟨i, hm, -, -, rfl⟩ | ⟨hkept, -⟩
      · rw [hm] at hnext
        exact .inr ⟨rfl, hnext⟩
      · exact .inl (.registered hkept)
  | waiting wakeup =>
      have hmem := s.passage.sublist.subset (List.mem_append_right _ wakeup)
      rcases List.mem_append.mp hmem with hkept | haccepted
      · exact .inl (.waiting hkept)
      · rcases s.passage.fresh with hnone | ⟨hone, hnext⟩
        · rw [hnone] at haccepted
          cases haccepted
        · rw [hone, List.mem_singleton] at haccepted
          rw [haccepted]
          exact .inr ⟨rfl, hnext⟩
  | consuming consumer =>
      rcases Stride.consumer_of_after consumer with
        hkept | ⟨hm, rfl⟩ | ⟨-, items, hactive⟩
      · exact .inl (.consuming hkept)
      · rw [hm] at hnext
        exact .inr ⟨rfl, hnext⟩
      · exact .inl (.running hactive)
  | running active =>
      rcases Stride.active_of_after active with hkept | hstarts
      · exact .inl (.running hkept)
      · exact .inl (hstarts.has hs)

/-! ### What follows for a run -/

/-- Nobody has a callback before it is handed over. -/
lemma lt_nextCallback_of_has (kernel : Kernel) (capacity : Nat) (ms : List (Move ι))
    {callback : CallbackId} (h : ((start kernel capacity).after ms).Has callback) :
    callback < ((start kernel capacity).after ms).nextCallback := by
  refine history_rec_of_sound
    (P := fun _ l => ∀ callback, l.Has callback → callback < l.nextCallback)
    Registry.sound_empty ?_ ?_ ms callback h
  · intro callback h
    cases h with
    | registered handler => simp [start, Reactor.start, Reactor.handlerOf] at handler
    | waiting wakeup => simp [start, Reactor.start, atHand, queued, Stage.unworked] at wakeup
    | consuming consumer => simp [start, Reactor.start, Reactor.queue] at consumer
    | running active => cases active
  · intro _ s hs ih callback h
    rcases Stride.has_of_after hs h with hbefore | ⟨-, hnext⟩
    · rw [s.nextCallback]
      exact Nat.lt_of_lt_of_le (ih callback hbefore) (Nat.le_add_right _ _)
    · exact hnext ▸ Nat.lt_succ_self _

/-- A callback that was handed over before and that nobody has is not with anybody again. -/
lemma not_has_after {l : Loop ι} (hl : l.reactor.registry.Sound) {callback : CallbackId}
    (hold : callback < l.nextCallback) (hnone : ¬l.Has callback) (ms : List (Move ι)) :
    ¬(l.after ms).Has callback := by
  have h := history_rec_of_sound (l := l)
    (P := fun _ l' => callback < l'.nextCallback ∧ ¬l'.Has callback) hl ⟨hold, hnone⟩ ?_ ms
  · exact h.2
  · rintro _ s hs ⟨hlt, ih⟩
    refine ⟨?_, fun h => ?_⟩
    · rw [s.nextCallback]
      exact Nat.lt_of_lt_of_le hlt (Nat.le_add_right _ _)
    · rcases Stride.has_of_after hs h with hbefore | ⟨hcallback, -⟩
      · exact ih hbefore
      · exact Nat.ne_of_gt hlt hcallback

/-- A callback that was handed over before and that nobody has is not started again. -/
lemma not_starts_of_not_has {l : Loop ι} (hl : l.reactor.registry.Sound) {callback : CallbackId}
    (hold : callback < l.nextCallback) (hnone : ¬l.Has callback) {ms : List (Move ι)}
    {s : Stride ι} (hs : s ∈ l.strides ms) (role : Role ι) : ¬s.Starts callback role := by
  intro hstarts
  obtain ⟨ms', hbefore⟩ := exists_after_eq_before hs
  have hsound := (follows_after hl ms').sound
  rw [hbefore] at hsound
  exact not_has_after hl hold hnone ms' (hbefore.symm ▸ hstarts.has hsound)

end Loop

end EventLoop
