import EventLoop.Proofs.Machine
import EventLoop.Proofs.Timer.Table
import EventLoop.Timer.Scheduler

/-!
What a move of a scheduler does to its timers, told once and case by case.

* `Scheduler.Stride`, `Scheduler.strides` and `Scheduler.after` are the runs of a scheduler.
* `Stride.Schedules` says that a timer is added, `Stride.Invokes` that what a timer carried is
  called.
* `Effect` lists what a move can do to the timers; `Stride.effect` is the main statement here: there
  is nothing else.
-/

namespace EventLoop

namespace Instant

variable {now again : Instant} {delay : Delay}

lemma after?_eq_none_iff : after? now delay = none ↔ latest < now + delay := by
  simp [after?]

/-- A delay whose end can be represented ends there. -/
lemma deadline?_of_le (h : now + delay ≤ latest) :
    deadline? now again delay = some (now + delay) := by
  rw [deadline?, after?_eq_some_iff.mpr ⟨rfl, h⟩, Option.some_or]

/-- The stand-in takes the place of an end that cannot be represented. -/
lemma deadline?_of_lt (h : latest < now + delay) :
    deadline? now again delay = after? again Delay.standIn := by
  rw [deadline?, after?_eq_none_iff.mpr h, Option.none_or]

end Instant

namespace Timers

variable {α : Type}

/-- The two tables have the same timers, and the same number comes next. -/
structure Kept (t t' : Timers α) : Prop where
  entries : t'.entries = t.entries
  index : t'.index = t.index
  nextId : t'.nextId = t.nextId

lemma Kept.refl (t : Timers α) : Kept t t := ⟨rfl, rfl, rfl⟩

lemma Kept.ids_eq {t t' : Timers α} (h : Kept t t') : t'.ids = t.ids := by
  rw [ids, ids, h.entries]

lemma Kept.follows {t t' : Timers α} (h : Kept t t') (ht : t.Sound) : t.Follows t' where
  sound :=
    { sorted := h.entries ▸ ht.sorted
      index := fun id d => by rw [h.index, h.entries, ht.index]
      issued := fun e he => h.nextId ▸ ht.issued e (h.entries ▸ he) }
  nextId := Nat.le_of_eq h.nextId.symm
  stays _ he _ := h.entries ▸ he

end Timers

namespace Scheduler

variable {α : Type}

/-! ### Runs -/

/-- One move of a scheduler that was made. -/
abbrev Stride (α : Type) := Machine.Stride (@step α)

/-- The history of the run that makes the moves of a list. -/
abbrev strides (s : Scheduler α) (ms : List (Move α)) : List (Stride α) := Machine.strides step s ms

/-- The scheduler that the run ends in. -/
abbrev after (s : Scheduler α) (ms : List (Move α)) : Scheduler α := Machine.after step s ms

/-- The numbers of the pending timers. -/
def pendingIds (s : Scheduler α) : List TimerId := s.timers.ids

lemma length_pendingIds (s : Scheduler α) : s.pendingIds.length = s.pending := List.length_map _

/-- The move adds a timer for a moment, under a number and with what it carries. -/
def Stride.Schedules (s : Stride α) (id : TimerId) (deadline : Instant) (payload : α) : Prop :=
  s.before.timers.nextId = id ∧
    (s.move = .scheduleAt deadline payload ∨ ∃ delay lag, s.move = .schedule delay lag payload ∧
      Instant.deadline? s.before.clock (s.before.pass lag).clock delay = some deadline)

/-- The run on top, which was waiting, calls what a timer carried. -/
def Stride.Invokes (s : Stride α) (id : TimerId) (payload : α) : Prop :=
  s.move = .advance ∧
    ∃ outer, s.before.runs = .waiting :: outer ∧ s.after.runs = .firing id payload :: outer

@[simp] lemma pass_zero (s : Scheduler α) : s.pass 0 = s := by
  simp [pass]

/-- A timer for a delay whose end can be told is added, while time passes. -/
lemma schedule_of_deadline {s : Scheduler α} {delay lag : Delay} {deadline : Instant}
    (h : Instant.deadline? s.clock (s.pass lag).clock delay = some deadline) (payload : α) :
    s.schedule delay lag payload =
      ({ s.pass lag with timers := (s.timers.insert deadline payload).1 },
        some s.timers.nextId) := by
  rw [schedule, h]
  rfl

/-- For a delay whose end cannot be told no timer is added, and only time passes. -/
lemma schedule_of_no_deadline {s : Scheduler α} {delay lag : Delay}
    (h : Instant.deadline? s.clock (s.pass lag).clock delay = none) (payload : α) :
    s.schedule delay lag payload = (s.pass lag, none) := by
  rw [schedule, h]

/-- What comes of scheduling for a delay: a timer is added, or there is no end of the delay and only
time passes. -/
lemma Stride.added_or_passed {s : Stride α} {delay lag : Delay} {payload : α}
    (hm : s.move = .schedule delay lag payload) :
    (∃ deadline,
      Instant.deadline? s.before.clock (s.before.pass lag).clock delay = some deadline ∧
      s.after =
        { s.before.pass lag with timers := (s.before.timers.insert deadline payload).1 } ∧
      s.notes = [.scheduled s.before.timers.nextId]) ∨
    Instant.deadline? s.before.clock (s.before.pass lag).clock delay = none ∧
      s.after = s.before.pass lag ∧ s.notes = [] := by
  have hmade := s.made
  simp only [hm, step] at hmade
  cases hdeadline : Instant.deadline? s.before.clock (s.before.pass lag).clock delay with
  | some deadline =>
      simp only [schedule_of_deadline hdeadline, Option.some.injEq, Prod.mk.injEq] at hmade
      exact .inl ⟨deadline, rfl, hmade.1.symm, hmade.2.symm⟩
  | none =>
      simp only [schedule_of_no_deadline hdeadline, Option.some.injEq, Prod.mk.injEq] at hmade
      exact .inr ⟨rfl, hmade.1.symm, hmade.2.symm⟩

/-! ### What is noted about timers -/

/-- The timer that is added. -/
def scheduled? : Note → Option TimerId
  | .scheduled id => some id
  | _ => none

/-- The timer that is withdrawn. -/
def cancelled? : Note → Option TimerId
  | .cancelled id => some id
  | _ => none

/-- The timer that is fired. -/
def fired? : Note → Option TimerId
  | .firing id => some id
  | _ => none

/-- The timers that were added, in their order. -/
def issued (history : List (Stride α)) : List TimerId := Machine.noted scheduled? history

/-- The timers that were withdrawn, in their order. -/
def cancelled (history : List (Stride α)) : List TimerId := Machine.noted cancelled? history

/-- The timers that were fired, in their order. -/
def fired (history : List (Stride α)) : List TimerId := Machine.noted fired? history

/-! ### What a move does to the timers -/

/-- What a move does to the timers, with what it notes about them. -/
inductive Effect (s : Stride α) : Prop
  | schedules {deadline : Instant} {payload : α}
      (schedules : s.Schedules s.before.timers.nextId deadline payload)
      (timers : s.after.timers = (s.before.timers.insert deadline payload).1)
      (notes : s.notes = [.scheduled s.before.timers.nextId])
  | cancels {key : TimerKey} {payload : α} (move : s.move = .cancel key.id)
      (lost : s.before.timers.Lost key payload s.after.timers)
      (notes : s.notes = [.cancelled key.id])
  /-- The first of all timers is due and is fired. -/
  | fires {key : TimerKey} {payload : α} (running : s.before.isStopped = false)
      (due : key.deadline ≤ s.before.clock)
      (first : ∀ e ∈ s.before.timers.entries, e.1 = key ∨ key.before e.1 = true)
      (invokes : s.Invokes key.id payload)
      (lost : s.before.timers.Lost key payload s.after.timers)
      (notes : s.notes = [.firing key.id])
  | keeps (kept : s.before.timers.Kept s.after.timers)
      (calm : ∀ id payload, ¬s.Invokes id payload)
      (silent : ∀ n ∈ s.notes, scheduled? n = none ∧ cancelled? n = none ∧ fired? n = none)

lemma Stride.not_invokes {s : Stride α} (hm : s.move ≠ .advance) (id : TimerId) (payload : α) :
    ¬s.Invokes id payload := fun h => hm h.1

/-- A run ends when the scheduler was stopped. -/
lemma turn_leaves {s next : Scheduler α} {pending : Nat} (h : s.turn = .leaves next pending) :
    ∃ outer, s.runs = .waiting :: outer ∧ s.isStopped = true ∧ next = { s with runs := outer } ∧
      pending = s.pending := by
  rw [turn] at h
  split at h
  · next outer hruns =>
      split at h
      · next hstopped =>
          cases h
          exact ⟨outer, hruns, hstopped, rfl, rfl⟩
      · split at h <;> cases h
  · cases h

/-- A run fires what it takes out of the table, unless the scheduler was stopped. -/
lemma turn_fires {s next : Scheduler α} {id : TimerId} {payload : α}
    (h : s.turn = .fires next id payload) :
    ∃ outer, s.runs = .waiting :: outer ∧ s.isStopped = false ∧
      (s.timers.popDue s.clock).2 = some (id, payload) ∧
      next =
        { s with
          timers := (s.timers.popDue s.clock).1
          runs := .firing id payload :: outer } := by
  rw [turn] at h
  split at h
  · next outer hruns =>
      split at h
      · cases h
      · next hrunning =>
          split at h
          · next timers id' payload' hpop =>
              cases h
              rw [hpop]
              exact ⟨outer, hruns, by simpa using hrunning, rfl, rfl⟩
          · cases h
  · cases h

/-- What the turn of a waiting run does to the timers. -/
lemma effect_of_advance {s : Stride α} (hs : s.before.timers.Sound) (hm : s.move = .advance) :
    Effect s := by
  have hmade := s.made
  simp only [hm, step] at hmade
  cases hturn : s.before.turn with
  | leaves next pending =>
      obtain ⟨outer, hruns, -, rfl, -⟩ := turn_leaves hturn
      simp only [hturn, Option.some.injEq, Prod.mk.injEq] at hmade
      obtain ⟨hafter, hnotes⟩ := hmade
      refine .keeps (hafter ▸ .refl _) ?_ (by simp [← hnotes, scheduled?, cancelled?, fired?])
      -- the run on top is gone
      rintro id payload ⟨-, outer', hbefore, hruns'⟩
      rw [hruns] at hbefore
      obtain ⟨-, rfl⟩ := List.cons.inj hbefore
      rw [← hafter] at hruns'
      exact List.cons_ne_self _ _ hruns'.symm
  | fires next id payload =>
      obtain ⟨outer, hruns, hrunning, hpopped, rfl⟩ := turn_fires hturn
      simp only [hturn, Option.some.injEq, Prod.mk.injEq] at hmade
      obtain ⟨hafter, hnotes⟩ := hmade
      rcases Timers.popDue_outcome hs s.before.clock with
        ⟨-, hnone⟩ | ⟨key, carried, hdue, hfirst, hcarried, hlost⟩
      · rw [hnone] at hpopped
        cases hpopped
      · rw [hpopped] at hcarried
        cases hcarried
        refine .fires hrunning hdue hfirst ⟨hm, outer, hruns, by rw [← hafter]⟩ ?_ hnotes.symm
        rw [← hafter]
        exact hlost
  | waits =>
      rw [hturn] at hmade
      cases hmade
  | busy =>
      rw [hturn] at hmade
      cases hmade

/-- **What a move does to the timers is one of the listed effects.** -/
theorem Stride.effect {s : Stride α} (hs : s.before.timers.Sound) : Effect s := by
  have hmade := s.made
  cases hm : s.move with
  | schedule delay lag payload =>
      rcases Stride.added_or_passed hm with ⟨deadline, hdeadline, hafter, hnotes⟩ |
        ⟨-, hafter, hnotes⟩
      · exact .schedules ⟨rfl, .inr ⟨delay, lag, hm, hdeadline⟩⟩ (by rw [hafter]) hnotes
      · exact .keeps (hafter ▸ .refl _) (Stride.not_invokes (by simp [hm])) (by simp [hnotes])
  | scheduleAt deadline payload =>
      simp only [hm, step, Scheduler.scheduleAt, Option.some.injEq, Prod.mk.injEq] at hmade
      exact .schedules ⟨rfl, .inl hm⟩ (by rw [← hmade.1]) hmade.2.symm
  | cancel id =>
      rcases Timers.remove_outcome hs id with ⟨-, hnone⟩ | ⟨key, payload, rfl, hsome, hlost⟩
      · simp only [hm, step, Scheduler.cancel, hnone, Option.some.injEq, Prod.mk.injEq] at hmade
        exact .keeps (hmade.1 ▸ .refl _) (Stride.not_invokes (by simp [hm])) (by simp [← hmade.2])
      · simp only [hm, step, Scheduler.cancel, hsome, Option.some.injEq, Prod.mk.injEq] at hmade
        exact .cancels hm (by rw [← hmade.1]; exact hlost) hmade.2.symm
  | advance => exact effect_of_advance hs hm
  | stop =>
      simp only [hm, step, Scheduler.stop, Option.some.injEq, Prod.mk.injEq] at hmade
      exact .keeps (hmade.1 ▸ ⟨rfl, rfl, rfl⟩) (Stride.not_invokes (by simp [hm]))
        (by simp [← hmade.2])
  | enter =>
      simp only [hm, step, Scheduler.enter, Option.some.injEq, Prod.mk.injEq] at hmade
      exact .keeps (hmade.1 ▸ .refl _) (Stride.not_invokes (by simp [hm]))
        (by simp [← hmade.2, scheduled?, cancelled?, fired?])
  | finish =>
      simp only [hm, step, Scheduler.finish, Option.map_eq_some_iff, Prod.mk.injEq] at hmade
      obtain ⟨next, hnext, hafter, hnotes⟩ := hmade
      refine .keeps ?_ (Stride.not_invokes (by simp [hm])) (by simp [← hnotes])
      split at hnext
      · cases hnext
        exact hafter ▸ .refl _
      · cases hnext
  | unwind =>
      simp only [hm, step, Scheduler.unwind, Option.map_eq_some_iff, Prod.mk.injEq] at hmade
      obtain ⟨next, hnext, hafter, hnotes⟩ := hmade
      refine .keeps ?_ (Stride.not_invokes (by simp [hm])) (by simp [← hnotes])
      split at hnext
      · cases hnext
        exact hafter ▸ .refl _
      · cases hnext
  | pass delay =>
      simp only [hm, step, Scheduler.pass, Option.some.injEq, Prod.mk.injEq] at hmade
      exact .keeps (hmade.1 ▸ .refl _) (Stride.not_invokes (by simp [hm])) (by simp [← hmade.2])
  | yieldRuns count =>
      simp only [hm, step, Scheduler.yieldRuns, Option.some.injEq, Prod.mk.injEq] at hmade
      exact .keeps (hmade.1 ▸ .refl _) (Stride.not_invokes (by simp [hm])) (by simp [← hmade.2])

end Scheduler

end EventLoop
