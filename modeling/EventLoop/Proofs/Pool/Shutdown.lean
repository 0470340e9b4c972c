import EventLoop.Proofs.Pool.Jobs
import Mathlib.Algebra.GroupWithZero.Nat

/-!
The shutdown of a pool: when it is over, every job that was accepted has been called.

* `Closed` says that the shutdown is over: every worker has ended or was lost.
* `remaining` is how much a pool can still do without new jobs; `Effect.remaining_lt` says that it
  gets less with every move of the shutdown, and `closed_of_stuck` that the shutdown is over when
  nothing can be done any more.
* `accepted_jobs_run_once` is the main statement here.
-/

namespace EventLoop.Pool

/-- The shutdown is over: it has begun, and no worker is left. -/
structure Closed (p : Pool) : Prop where
  stopping : p.stopping = true
  ended : ∀ slot ∈ p.slots, slot.worker = .lost ∨ slot.worker = .gone

/-! ### How long a shutdown takes -/

/-- How many more moves a worker can make without a new job. -/
def Worker.remaining : Worker → Nat
  | idle => 1
  | running _ => 2
  | lost => 0
  | gone => 0

/-- How many more moves a worker can make without a new job, given the one that it has not taken
yet. -/
def Slot.remaining (s : Slot) : Nat := (if s.pending.isSome then 2 else 0) + s.worker.remaining

/-- How many more moves can be made without new jobs. -/
def remaining (p : Pool) : Nat := (p.slots.map Slot.remaining).sum

lemma sum_remaining_set {slots : List Slot} {i : SlotId} {s : Slot} (h : slots[i]? = some s)
    (s' : Slot) :
    s.remaining + ((slots.set i s').map Slot.remaining).sum =
      s'.remaining + (slots.map Slot.remaining).sum := by
  simpa using ((set_perm h s').map Slot.remaining).sum_nat

/-- Every move of the shutdown uses something up. -/
lemma Effect.remaining_lt {p q : Pool} {m : Move} {notes : List JobNote} (h : Effect p m q notes)
    (hp : p.Sound) (stopping : p.stopping = true) (hm : m ≠ .stop) : q.remaining < p.remaining := by
  -- replacing a slot by one with less to do makes the sum smaller
  have hless : ∀ {i : SlotId} {s s' : Slot}, p.slots[i]? = some s → s'.remaining < s.remaining →
      ((p.slots.set i s').map Slot.remaining).sum < p.remaining := fun {i s s'} hs hlt => by
    have hsum := sum_remaining_set hs s'
    rw [remaining]
    omega
  cases h with
  | submits running _ => simp [stopping] at running
  | retries running _ _ => simp [stopping] at running
  | handsOver claimed _ _ => simp [hp.unclaimed stopping] at claimed
  | takes slot_eq => exact hless slot_eq (by simp [Slot.remaining, Worker.remaining])
  | finishes slot_eq => exact hless slot_eq (by simp [Slot.remaining, Worker.remaining])
  | loses slot_eq => exact hless slot_eq (by simp [Slot.remaining, Worker.remaining])
  | stops _ _ _ => exact absurd rfl hm
  | leaves _ slot_eq => exact hless slot_eq (by simp [Slot.remaining, Worker.remaining])

lemma Effect.remaining_of_stop {p q : Pool} {notes : List JobNote} (h : Effect p .stop q notes) :
    q.remaining = p.remaining := by
  cases h
  rfl

/-- A shutdown is never taken back. -/
lemma Effect.stopping {p q : Pool} {m : Move} {notes : List JobNote} (h : Effect p m q notes)
    (stopping : p.stopping = true) : q.stopping = true := by
  by_cases hm : m = .stop
  · subst hm
    cases h
    rfl
  · exact (h.stopping_eq hm).trans stopping

/-- There is an end to what can be done during the shutdown. -/
lemma Sound.length_strides_le {p : Pool} (hp : p.Sound) (stopping : p.stopping = true)
    (ms : List Move) : ((p.strides ms).filter (·.move ≠ .stop)).length ≤ p.remaining := by
  have hall : (p.after ms).stopping = true ∧
      ((p.strides ms).filter (·.move ≠ .stop)).length + (p.after ms).remaining ≤ p.remaining := by
    refine hp.history_rec (P := fun past q => q.stopping = true ∧
      (past.filter (·.move ≠ .stop)).length + q.remaining ≤ p.remaining) ⟨stopping, by simp⟩ ?_ ms
    rintro past s hsound ⟨hstopping, hle⟩
    have heffect := Stride.effect s
    refine ⟨heffect.stopping hstopping, ?_⟩
    rw [List.filter_append, List.length_append]
    by_cases hm : s.move = .stop
    · have hsame := (hm ▸ heffect).remaining_of_stop
      simpa [hm, hsame] using hle
    · have hlt := heffect.remaining_lt hsound hstopping hm
      rw [List.filter_singleton, decide_eq_true hm, cond_true, List.length_singleton]
      omega
  omega

/-- When nothing more can be done after the shutdown has begun, it is over. -/
lemma closed_of_stuck {p : Pool} (stopping : p.stopping = true)
    (stuck : ∀ m, m ≠ .stop → p.step m = none) : p.Closed := by
  refine ⟨stopping, fun slot hslot => ?_⟩
  obtain ⟨i, hi⟩ := List.mem_iff_getElem?.mp hslot
  obtain ⟨pending, worker⟩ := slot
  cases worker with
  | idle =>
      cases pending with
      | none =>
          have hleaves : p.step (.leave i) = _ := leave_eq_some.mpr ⟨stopping, hi, rfl⟩
          rw [stuck (.leave i) nofun] at hleaves
          cases hleaves
      | some job =>
          have htakes : p.step (.take i) = _ :=
            congrArg (Option.map Prod.fst) (take_eq_some.mpr ⟨hi, rfl⟩)
          rw [stuck (.take i) nofun] at htakes
          cases htakes
  | running job =>
      have hfinishes : p.step (.finish i) = _ := finish_eq_some.mpr ⟨job, pending, hi, rfl⟩
      rw [stuck (.finish i) nofun] at hfinishes
      cases hfinishes
  | lost => exact .inl rfl
  | gone => exact .inr rfl

/-! ### When the shutdown is over -/

/-- No slot holds a job that nobody is going to take. -/
lemma Closed.heldJobs_eq_nil {p : Pool} (h : p.Closed) (hp : p.Sound) : p.heldJobs = [] := by
  refine List.eq_nil_iff_forall_not_mem.mpr fun job hjob => ?_
  obtain ⟨i, hheld⟩ := mem_heldJobs.mp hjob
  have hslot := List.mem_of_getElem? (hp.slot_of_held hheld)
  rcases h.ended _ hslot with hended | hended <;> cases hended

lemma Closed.runningJobs_eq_nil {p : Pool} (h : p.Closed) : p.runningJobs = [] := by
  refine List.filterMap_eq_nil_iff.mpr fun slot hslot => ?_
  rcases h.ended slot hslot with hended | hended <;> rw [hended] <;> rfl

/-- **Every accepted job is called once, also during the shutdown.** For a pool that was made by any
plan, and any run of it:

* A job that was accepted is in its slot or was taken, and it was not taken twice; a job that was
  taken is running or has come to an end, once.
* A job is put into an empty slot and remains there until the worker of the slot takes it. A worker
  ends only when its slot is empty. When a job panics, the other slots remain as they are, and no
  job is in its own slot.
* A job that is in a slot can be taken at once, whichever jobs have panicked and whether the
  shutdown has begun.
* After the shutdown has begun only so many moves can be made, and when none is possible any more,
  it is over. Then no submission is under way, and every accepted job was taken once and has
  returned or panicked. -/
theorem accepted_jobs_run_once (b : PoolBuilder) (threads : Option Nat) (p : Pool)
    (h : (b.build threads).1 = .ok p) (ms : List Move) :
    (accepted (p.strides ms)).Nodup ∧
    (taken (p.strides ms) ++ (p.after ms).heldJobs).Perm (accepted (p.strides ms)) ∧
    (finished (p.strides ms) ++ panicked (p.strides ms) ++ (p.after ms).runningJobs).Perm
      (taken (p.strides ms)) ∧
    (∀ s ∈ p.strides ms,
      (∀ job, s.move = .handOver job →
        ∃ i, s.before.held? i = none ∧ s.after.held? i = some job) ∧
      (∀ i job, s.before.held? i = some job →
        s.after.held? i = some job ∨ s.move = .take i ∧ s.notes = [.taken job i]) ∧
      (∀ i, s.move = .leave i → s.before.held? i = none) ∧
      (∀ i, s.move = .lose i → s.before.held? i = none ∧ s.after.claims = s.before.claims ∧
        ∀ k, k ≠ i → s.after.slots[k]? = s.before.slots[k]?)) ∧
    (∀ i job, (p.after ms).held? i = some job → ∃ q, (p.after ms).take i = some (q, job)) ∧
    ((p.after ms).stopping = true →
      (∀ ms',
        (((p.after ms).strides ms').filter (·.move ≠ .stop)).length ≤ (p.after ms).remaining) ∧
      ((∀ m, m ≠ .stop → (p.after ms).step m = none) → (p.after ms).Closed)) ∧
    ((p.after ms).Closed →
      (p.after ms).claims = [] ∧
      ∀ job ∈ accepted (p.strides ms),
        (taken (p.strides ms)).count job = 1 ∧
        (finished (p.strides ms) ++ panicked (p.strides ms)).count job = 1) := by
  have haccounted := accounted h ms
  have hsound := haccounted.sound
  refine ⟨haccounted.nodup_accepted, haccounted.held, haccounted.running, fun s hs => ?_,
    fun i job hheld => hsound.exists_take hheld,
    fun hstopping => ⟨hsound.length_strides_le hstopping, closed_of_stuck hstopping⟩,
    fun hclosed => ⟨hsound.unclaimed hclosed.stopping, fun job hjob => ?_⟩⟩
  · obtain ⟨ms', hbefore : p.after ms' = s.before⟩ := Machine.exists_after_eq_before hs
    have hsound : s.before.Sound := hbefore ▸ (accounted h ms').sound
    have heffect := Stride.effect s
    exact ⟨fun job hm => (hm ▸ heffect).held?_of_handOver,
      fun i job hheld => heffect.keeps_held hsound hheld, fun i hm => (hm ▸ heffect).held?_of_leave,
      fun i hm => (hm ▸ heffect).of_lose hsound⟩
  · have hheld := haccounted.held.count_eq job
    have hrunning := haccounted.running.count_eq job
    rw [hclosed.heldJobs_eq_nil hsound, List.append_nil,
      List.count_eq_one_of_mem haccounted.nodup_accepted hjob] at hheld
    rw [hclosed.runningJobs_eq_nil, List.append_nil, hheld] at hrunning
    exact ⟨hheld, hrunning⟩

/-!
A shutdown that begins while the first job is running and the second one is still in its slot. Then
the first job panics.
-/

namespace LateJob

/-- A pool that has not started any of its two workers yet. -/
def made : Pool := start (some 2) defaultName none

/-- What happens up to the panic. -/
def moves : List Move :=
  [.submit, .handOver 0, .take 0, .submit, .handOver 1, .stop, .lose 0]

/-- What happens then. -/
def rest : List Move := [.take 1, .finish 1, .leave 1]

lemma closed : (made.after (moves ++ rest)).Closed := ⟨rfl, by decide⟩

end LateJob

/-- After the panic, the second job can be taken. When the shutdown is over, it was called once. -/
theorem accepted_jobs_run_once_handed_over :
    ((PoolBuilder.bounded 2).build none).1 = .ok LateJob.made ∧
      ((LateJob.made.after LateJob.moves).held? 1 = some 1 ∧
        ∃ q, (LateJob.made.after LateJob.moves).take 1 = some (q, 1)) ∧
      (LateJob.made.after (LateJob.moves ++ LateJob.rest)).Closed ∧
      1 ∈ accepted (LateJob.made.strides (LateJob.moves ++ LateJob.rest)) ∧
      (taken (LateJob.made.strides (LateJob.moves ++ LateJob.rest))).count 1 = 1 ∧
      (finished (LateJob.made.strides (LateJob.moves ++ LateJob.rest)) ++
        panicked (LateJob.made.strides (LateJob.moves ++ LateJob.rest))).count 1 = 1 := by
  obtain ⟨-, -, -, -, htake, -, -⟩ :=
    accepted_jobs_run_once (.bounded 2) none LateJob.made rfl LateJob.moves
  obtain ⟨-, -, -, -, -, -, hclosed⟩ :=
    accepted_jobs_run_once (.bounded 2) none LateJob.made rfl (LateJob.moves ++ LateJob.rest)
  have hcalled := (hclosed LateJob.closed).2 1 (by decide)
  exact ⟨rfl, ⟨rfl, htake 1 1 rfl⟩, LateJob.closed, by decide, hcalled.1, hcalled.2⟩

end EventLoop.Pool
