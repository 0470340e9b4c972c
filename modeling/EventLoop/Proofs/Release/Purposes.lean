import EventLoop.Proofs.Ownership
import EventLoop.Proofs.Release.Owners

/-!
What callbacks are handed over for, and where they are. A callback is handed over for the readiness
of a descriptor, as a wakeup or as the consumer of a queue, and is used for nothing else. One for
readiness can be in several places at once; the others are in one place at a time.

* `Loop.HasFor` says that somebody has a callback for a purpose; `hasFor_readiness`, `hasFor_wakeup`
  and `hasFor_consumption` say where it is then.
* `Stride.hasFor_of_after` says that a move leaves to every callback its purpose.
* `Apart` says that every callback has one purpose, which places exclude each other and that all
  owners are there for something; `Apart.stride` is the main statement here: every move keeps it so.
* `Apart.mem_owners_iff` says that what has an owner is what is there for readiness.
-/

namespace EventLoop

namespace Loop

open Reactor (Direction Role)

variable {ι : Type}

/-- What a callback is handed over for. -/
inductive Purpose where
  | readiness
  | wakeup
  | consumption
deriving DecidableEq

end Loop

/-- What a callback that runs in a role was handed over for. -/
def Reactor.Role.purpose {ι : Type} : Reactor.Role ι → Loop.Purpose
  | .readiness _ _ => .readiness
  | .wakeup => .wakeup
  | .consumer _ _ => .consumption

namespace Loop

open Reactor (Direction Role)

variable {ι : Type}

/-- What a move hands a callback over for, if it does so. -/
def Move.purpose? : Move ι → Option Purpose
  | .add _ _ => some .readiness
  | .wakeUp true => some .wakeup
  | .setConsumer _ => some .consumption
  | _ => none

/-- The move hands a callback over for a purpose. -/
def Stride.Hands (s : Stride ι) (p : Purpose) (callback : CallbackId) : Prop :=
  s.move.purpose? = some p ∧ s.before.nextCallback = callback

/-- Somebody has a callback for a purpose. -/
inductive HasFor (l : Loop ι) : Purpose → CallbackId → Prop
  | registered {callback : CallbackId} {fd : Fd} {d : Direction}
      (handler : l.reactor.handlerOf fd d = some callback) : HasFor l .readiness callback
  | waiting {callback : CallbackId} (wakeup : callback ∈ l.atHand ++ l.queued) :
      HasFor l .wakeup callback
  | consuming {callback : CallbackId} {q : QueueId}
      (consumer : (l.reactor.queue q).consumer = some callback) : HasFor l .consumption callback
  | running {callback : CallbackId} {role : Role ι} (active : l.active = some ⟨callback, role⟩) :
      HasFor l role.purpose callback

lemma has_iff {l : Loop ι} {callback : CallbackId} :
    l.Has callback ↔ ∃ p, l.HasFor p callback := by
  constructor
  · rintro (handler | wakeup | consumer | active)
    · exact ⟨_, .registered handler⟩
    · exact ⟨_, .waiting wakeup⟩
    · exact ⟨_, .consuming consumer⟩
    · exact ⟨_, .running active⟩
  · rintro ⟨p, handler | wakeup | consumer | active⟩
    · exact .registered handler
    · exact .waiting wakeup
    · exact .consuming consumer
    · exact .running active

lemma HasFor.has {l : Loop ι} {p : Purpose} {callback : CallbackId} (h : l.HasFor p callback) :
    l.Has callback := has_iff.mpr ⟨p, h⟩

/-! ### Where a callback is -/

/-- A callback for readiness is in the table or runs. -/
lemma hasFor_readiness {l : Loop ι} {callback : CallbackId} :
    l.HasFor .readiness callback ↔ (∃ fd d, l.reactor.handlerOf fd d = some callback) ∨
      ∃ t d, l.active = some ⟨callback, .readiness t d⟩ := by
  constructor
  · intro h
    generalize hp : Purpose.readiness = p at h
    cases h with
    | registered handler => exact .inl ⟨_, _, handler⟩
    | waiting _ => cases hp
    | consuming _ => cases hp
    | @running _ role active =>
        cases role with
        | readiness t d => exact .inr ⟨t, d, active⟩
        | wakeup => cases hp
        | consumer _ _ => cases hp
  · rintro (⟨fd, d, handler⟩ | ⟨t, d, active⟩)
    · exact .registered handler
    · exact .running active

/-- A wakeup waits or runs. -/
lemma hasFor_wakeup {l : Loop ι} {callback : CallbackId} :
    l.HasFor .wakeup callback ↔
      callback ∈ l.atHand ++ l.queued ∨ l.active = some ⟨callback, .wakeup⟩ := by
  constructor
  · intro h
    generalize hp : Purpose.wakeup = p at h
    cases h with
    | registered _ => cases hp
    | waiting wakeup => exact .inl wakeup
    | consuming _ => cases hp
    | @running _ role active =>
        cases role with
        | readiness _ _ => cases hp
        | wakeup => exact .inr active
        | consumer _ _ => cases hp
  · rintro (wakeup | active)
    · exact .waiting wakeup
    · exact .running active

/-- A consumer is with its queue or at work. -/
lemma hasFor_consumption {l : Loop ι} {callback : CallbackId} :
    l.HasFor .consumption callback ↔ (∃ q, (l.reactor.queue q).consumer = some callback) ∨
      ∃ q items, l.active = some ⟨callback, .consumer q items⟩ := by
  constructor
  · intro h
    generalize hp : Purpose.consumption = p at h
    cases h with
    | registered _ => cases hp
    | waiting _ => cases hp
    | consuming consumer => exact .inl ⟨_, consumer⟩
    | @running _ role active =>
        cases role with
        | readiness _ _ => cases hp
        | wakeup => cases hp
        | consumer q items => exact .inr ⟨q, items, active⟩
  · rintro (⟨q, consumer⟩ | ⟨q, items, active⟩)
    · exact .consuming consumer
    · exact .running active

/-! ### What a move does to it -/

lemma Stride.Hands.nextCallback {s : Stride ι} {p : Purpose} {callback : CallbackId}
    (h : s.Hands p callback) : s.after.nextCallback = callback + 1 := by
  obtain ⟨hpurpose, rfl⟩ := h
  rw [s.nextCallback]
  cases hm : s.move with
  | add fd i => rfl
  | setConsumer q => rfl
  | wakeUp withCallback =>
      cases withCallback with
      | true => rfl
      | false => simp [hm, Move.purpose?] at hpurpose
  | _ => simp [hm, Move.purpose?] at hpurpose

lemma Stride.Hands.purpose_eq {s : Stride ι} {p p' : Purpose} {callback callback' : CallbackId}
    (h : s.Hands p callback) (h' : s.Hands p' callback') : p = p' :=
  Option.some.inj (h.1.symm.trans h'.1)

/-- A move that accepts a callback as a wakeup hands it over as one. -/
lemma Stride.hands_of_accepts {s : Stride ι} {callback : CallbackId}
    (h : callback ∈ (s.notes.filterMap accepted?).filterMap Wakeup.callback?) :
    s.Hands .wakeup callback := by
  rcases s.passage.fresh with hnone | ⟨hone, hnext⟩
  · rw [hnone] at h
    cases h
  rw [hone, List.mem_singleton] at h
  have hgrows : s.after.reactor.wakeups ≠ s.before.reactor.wakeups := by
    have hpassage := s.passage
    generalize s.notes.filterMap accepted? = accepted, s.notes.filterMap called? = called,
      s.dropped = dropped at hpassage hone
    cases hpassage with
    | accepts _ queue _ _ _ => simp [queue]
    | _ => cases hone
  refine ⟨?_, h.symm⟩
  rw [s.nextCallback, Nat.add_left_cancel_iff] at hnext
  cases hm : s.move with
  | add fd i =>
      obtain ⟨b, -, hadded⟩ := Stride.added hm
      exact absurd hadded.sameWork.wakeups hgrows
  | setConsumer q =>
      have hmade := s.made
      simp only [hm, step, Loop.setConsumer, Option.some.injEq, Prod.mk.injEq] at hmade
      exact absurd (by rw [← hmade.1]; rfl) hgrows
  | wakeUp withCallback =>
      cases withCallback with
      | true => rfl
      | false => simp [hm, Move.hands] at hnext
  | _ => simp [hm, Move.hands] at hnext

/-- **A move leaves to every callback its purpose**: who has a callback after a move has it for what
somebody had it for before, or for what the move hands it over. -/
theorem Stride.hasFor_of_after {s : Stride ι} (hs : s.before.reactor.registry.Sound) {p : Purpose}
    {callback : CallbackId} (h : s.after.HasFor p callback) :
    s.before.HasFor p callback ∨ s.Hands p callback := by
  cases h with
  | registered handler =>
      rw [s.handlerOf_eq_some hs] at handler
      rcases handler with ⟨i, hm, -, -, rfl⟩ | ⟨hkept, -⟩
      · exact .inr ⟨by rw [hm]; rfl, rfl⟩
      · exact .inl (.registered hkept)
  | waiting wakeup =>
      have hmem := s.passage.sublist.subset (List.mem_append_right _ wakeup)
      rcases List.mem_append.mp hmem with hkept | haccepted
      · exact .inl (.waiting hkept)
      · exact .inr (Stride.hands_of_accepts haccepted)
  | consuming consumer =>
      rcases Stride.consumer_of_after consumer with hkept | ⟨hm, rfl⟩ | ⟨-, items, hactive⟩
      · exact .inl (.consuming hkept)
      · exact .inr ⟨by rw [hm]; rfl, rfl⟩
      · exact .inl (.running hactive)
  | @running _ role active =>
      rcases Stride.active_of_after active with hkept | hstarts
      · exact .inl (.running hkept)
      · left
        cases role with
        | readiness t d =>
            obtain ⟨fd, -, -, -, hhandler⟩ := hstarts.entry hs
            exact .registered hhandler
        | wakeup =>
            have hcalled := s.passage.called_subset hstarts.mem_called
            exact .waiting (List.mem_append_left _ hcalled)
        | consumer q items => exact .consuming hstarts.delivers.1

/-! ### Which places exclude each other -/

/-- Every callback was handed over for one purpose. A wakeup waits once and not while it runs; a
consumer is with one queue and not while it is at work; and the owners of a callback for readiness
are the places where it is. -/
structure Apart (l : Loop ι) : Prop where
  owned : l.Owned
  fresh : ∀ p callback, l.HasFor p callback → callback < l.nextCallback
  purpose : ∀ p p' callback, l.HasFor p callback → l.HasFor p' callback → p = p'
  waiting : (l.atHand ++ l.queued).Nodup
  called : ∀ callback, l.active = some ⟨callback, .wakeup⟩ → callback ∉ l.atHand ++ l.queued
  consumer : ∀ q q' callback, (l.reactor.queue q).consumer = some callback →
    (l.reactor.queue q').consumer = some callback → q = q'
  atWork : ∀ q q' items callback, l.active = some ⟨callback, .consumer q items⟩ →
    (l.reactor.queue q').consumer ≠ some callback

lemma apart_start (kernel : Kernel) (capacity : Nat) : (start kernel capacity : Loop ι).Apart := by
  have hnobody (p : Purpose) (callback : CallbackId) :
      ¬(start kernel capacity : Loop ι).HasFor p callback := by
    rintro (handler | wakeup | consumer | active)
    · simp [start, Reactor.start, Reactor.handlerOf] at handler
    · simp [start, Reactor.start, atHand, queued, Stage.unworked] at wakeup
    · simp [start, Reactor.start, Reactor.queue] at consumer
    · cases active
  have hslots (fd : Fd) (callback : CallbackId) :
      (start kernel capacity : Loop ι).reactor.slots fd callback = 0 :=
    Reactor.slots_eq_zero_iff.mpr fun d handler => hnobody .readiness callback (.registered handler)
  exact
    { owned := fun callback => ⟨0, fun other _ => hslots other callback, by rw [hslots]; rfl⟩
      fresh := fun p callback h => absurd h (hnobody p callback)
      purpose := fun p _ callback h => absurd h (hnobody p callback)
      waiting := .nil
      called := fun callback h => absurd (.running h) (hnobody .wakeup callback)
      consumer := fun q _ callback h => absurd (.consuming h) (hnobody .consumption callback)
      atWork := fun q _ items callback h =>
        absurd (.running h) (hnobody (Role.consumer q items).purpose callback) }

/-- What has an owner is what somebody has for readiness. -/
lemma Apart.mem_owners_iff {l : Loop ι} (h : l.Apart) {callback : CallbackId} :
    callback ∈ l.owners ↔ l.HasFor .readiness callback :=
  h.owned.mem_owners_iff.trans hasFor_readiness.symm

/-- Nobody has a callback before it is handed over. -/
lemma Apart.not_has_nextCallback {l : Loop ι} (h : l.Apart) : ¬l.Has l.nextCallback := by
  intro hhas
  obtain ⟨p, hp⟩ := has_iff.mp hhas
  exact Nat.lt_irrefl _ (h.fresh p _ hp)

/-- What is handed over was nowhere before. -/
lemma Apart.not_hands {s : Stride ι} (h : s.before.Apart) {p p' : Purpose} {callback : CallbackId}
    (hhas : s.before.HasFor p callback) : ¬s.Hands p' callback := fun hhands =>
  Nat.ne_of_lt (h.fresh p callback hhas) hhands.2.symm

/-- What the driver starts, what waits after a move and what waited before, with what it accepts. -/
lemma Apart.nodup {s : Stride ι} (h : s.before.Apart) :
    (s.notes.filterMap called? ++ (s.after.atHand ++ s.after.queued)).Nodup := by
  refine s.passage.sublist.nodup (List.nodup_append.mpr ⟨h.waiting, ?_, ?_⟩)
  · rcases s.passage.fresh with hnone | ⟨hone, -⟩
    · exact hnone ▸ .nil
    · exact hone ▸ List.nodup_singleton _
  · rintro callback hwaiting _ haccepted rfl
    exact h.not_hands (.waiting hwaiting) (Stride.hands_of_accepts haccepted)

/-- **Every move keeps the places apart.** -/
theorem Apart.stride {s : Stride ι} (hs : s.before.reactor.registry.Sound) (h : s.before.Apart) :
    s.after.Apart where
  owned := (Stride.turnover hs).owned h.owned fun hmem =>
    h.not_has_nextCallback (h.mem_owners_iff.mp hmem).has
  fresh p callback hafter := by
    rcases Stride.hasFor_of_after hs hafter with hkept | hhands
    · rw [s.nextCallback]
      exact Nat.lt_of_lt_of_le (h.fresh p callback hkept) (Nat.le_add_right _ _)
    · exact hhands.nextCallback ▸ Nat.lt_succ_self _
  purpose p p' callback hafter hafter' := by
    rcases Stride.hasFor_of_after hs hafter with hkept | hhands <;>
      rcases Stride.hasFor_of_after hs hafter' with hkept' | hhands'
    · exact h.purpose p p' callback hkept hkept'
    · exact absurd hhands' (h.not_hands hkept)
    · exact absurd hhands (h.not_hands hkept')
    · exact hhands.purpose_eq hhands'
  waiting := (List.nodup_append.mp h.nodup).2.1
  called callback active := by
    rcases Stride.active_of_after active with hkept | hstarts
    · intro hwaiting
      have hbefore : s.before.HasFor .wakeup callback := .running hkept
      have hmem := s.passage.sublist.subset (List.mem_append_right _ hwaiting)
      rcases List.mem_append.mp hmem with hwaited | haccepted
      · exact h.called callback hkept hwaited
      · exact h.not_hands hbefore (Stride.hands_of_accepts haccepted)
    · intro hwaiting
      exact (List.nodup_append.mp h.nodup).2.2 callback hstarts.mem_called callback hwaiting rfl
  consumer q q' callback hq hq' := by
    have hsets {x : QueueId} (hm : s.move = .setConsumer x)
        (hnext : s.before.nextCallback = callback) : s.Hands .consumption callback :=
      ⟨by rw [hm]; rfl, hnext⟩
    rcases Stride.consumer_of_after hq with hkept | ⟨hm, hnext⟩ | ⟨-, items, hactive⟩ <;>
      rcases Stride.consumer_of_after hq' with hkept' | ⟨hm', hnext'⟩ | ⟨-, items', hactive'⟩
    · exact h.consumer q q' callback hkept hkept'
    · exact absurd (hsets hm' hnext') (h.not_hands (.consuming hkept))
    · exact absurd hkept (h.atWork q' q items' callback hactive')
    · exact absurd (hsets hm hnext) (h.not_hands (.consuming hkept'))
    · exact Move.setConsumer.inj (hm.symm.trans hm')
    · exact absurd (hsets hm hnext) (h.not_hands (.running hactive'))
    · exact absurd hkept' (h.atWork q q' items callback hactive)
    · exact absurd (hsets hm' hnext') (h.not_hands (.running hactive))
    · rw [hactive, Option.some.injEq, Activation.mk.injEq, Role.consumer.injEq] at hactive'
      exact hactive'.2.1
  atWork q q' items callback active hq' := by
    rcases Stride.consumer_of_after hq' with hkept | ⟨hm, hnext⟩ | ⟨hidle, -⟩
    · rcases Stride.active_of_after active with hbefore | hstarts
      · exact h.atWork q q' items callback hbefore hkept
      · -- the queue of a consumer that is started has no consumer any more
        obtain ⟨hconsumer, -, -, hqueue⟩ := hstarts.delivers
        obtain rfl := h.consumer q q' callback hconsumer hkept
        rw [hqueue] at hq'
        cases hq'
    · have hhands : s.Hands .consumption callback := ⟨by rw [hm]; rfl, hnext⟩
      rcases Stride.active_of_after active with hbefore | hstarts
      · exact h.not_hands (.running hbefore) hhands
      · have hmove := hstarts.advance.1
        rw [hm] at hmove
        cases hmove
    · rw [hidle] at active
      cases active

end Loop

end EventLoop
