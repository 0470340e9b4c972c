import EventLoop.Pool.Builder
import EventLoop.Proofs.Machine

/-!
What a move of a pool does, told once and case by case.

* `Pool.JobNote` is what happens to a job; `Pool.Stride`, `Pool.strides` and `Pool.after` are the
  runs of a pool, with a note of what happens to its jobs.
* `placed`, `accepted`, `taken`, `finished` and `panicked` are the jobs of a history to which this
  happened.
* `Looks` lists what a submission can do that looks for a slot, and `Effect` what a move can do;
  `Stride.effect` is the main statement here: there is nothing else.
* `build_eq_ok` says what a pool is like when it was made.
-/

namespace EventLoop.Pool

/-! ### Runs -/

/-- What happens to a job. -/
inductive JobNote where
  /-- Its submission has chosen a slot. -/
  | placed (job : JobId)
  /-- It was put into the slot, and its submission is over. -/
  | accepted (job : JobId)
  /-- The worker of the slot has taken it, and calls it. -/
  | taken (job : JobId) (slot : SlotId)
  /-- It has returned, and its slot is free again. -/
  | finished (job : JobId)
  | panicked (job : JobId)
deriving DecidableEq

/-- The job that a worker is running. -/
def Worker.job? : Worker → Option JobId
  | running job => some job
  | _ => none

/-- The job that the worker of a slot is running. -/
def running? (p : Pool) (i : SlotId) : Option JobId := p.slots[i]?.bind (·.worker.job?)

/-- What becomes of its job when a submission has looked for a slot. -/
def Submission.notes : Submission → List JobNote
  | accepted job _ => [.placed job]
  | failed _ => []
  | full => []

/-- What a move that is possible does to jobs. -/
def jobNotes (p : Pool) : Move → List JobNote
  | .submit => p.submit.2.1.notes
  | .retry => p.retry.elim [] fun looked => looked.2.1.notes
  | .handOver job => [.accepted job]
  | .take i => ((p.take i).map fun taken => JobNote.taken taken.2 i).toList
  | .finish i => ((p.running? i).map JobNote.finished).toList
  | .lose i => ((p.running? i).map JobNote.panicked).toList
  | .stop => []
  | .leave _ => []

/-- Makes one move, if it is possible, and notes what happens to jobs. -/
def stepNoted (p : Pool) (m : Move) : Option (Pool × List JobNote) :=
  (p.step m).map (·, p.jobNotes m)

/-- One move of a pool that was made. -/
abbrev Stride := Machine.Stride stepNoted

/-- The history of the run that makes the moves of a list. -/
abbrev strides (p : Pool) (ms : List Move) : List Stride := Machine.strides stepNoted p ms

/-- The pool that the run ends in. -/
abbrev after (p : Pool) (ms : List Move) : Pool := Machine.after stepNoted p ms

/-! ### What is noted about jobs -/

/-- The job for which a slot is chosen. -/
def placed? : JobNote → Option JobId
  | .placed job => some job
  | _ => none

/-- The job whose submission is over. -/
def accepted? : JobNote → Option JobId
  | .accepted job => some job
  | _ => none

/-- The job that a worker takes and calls. -/
def taken? : JobNote → Option JobId
  | .taken job _ => some job
  | _ => none

/-- The job that has returned. -/
def finished? : JobNote → Option JobId
  | .finished job => some job
  | _ => none

/-- The job that has panicked. -/
def panicked? : JobNote → Option JobId
  | .panicked job => some job
  | _ => none

/-- The jobs for which a slot was chosen, in their order. -/
def placed (history : List Stride) : List JobId := Machine.noted placed? history

/-- The jobs whose submission is over, in their order. -/
def accepted (history : List Stride) : List JobId := Machine.noted accepted? history

/-- The jobs that workers have taken and called, in their order. -/
def taken (history : List Stride) : List JobId := Machine.noted taken? history

/-- The jobs that have returned, in their order. -/
def finished (history : List Stride) : List JobId := Machine.noted finished? history

/-- The jobs that have panicked, in their order. -/
def panicked (history : List Stride) : List JobId := Machine.noted panicked? history

/-! ### What a move does -/

/-- What a submission does to a pool that looks for a slot, with what it notes. -/
inductive Looks (p : Pool) : Pool → List JobNote → Prop
  /-- It has found an idle worker. -/
  | reuses {i : SlotId} {free : List SlotId} (listed : p.free = i :: free) :
      Looks p { p with free, claims := (p.nextJob, i) :: p.claims, nextJob := p.nextJob + 1 }
        [.placed p.nextJob]
  /-- It has found no idle worker, and started a new one. -/
  | starts (threads : Option Nat) (busy : p.free = []) (room : p.hasRoom = true) :
      Looks p
        { p with
          slots := p.slots ++ [.fresh]
          claims := (p.nextJob, p.size) :: p.claims
          threads, nextJob := p.nextJob + 1 }
        [.placed p.nextJob]
  /-- It has to wait. -/
  | sleeps (busy : p.free = []) (full : p.hasRoom = false) :
      Looks p { p with sleeping := p.sleeping + 1 } []
  /-- It has failed to start a worker. -/
  | fails (busy : p.free = []) (room : p.hasRoom = true) : Looks p p []

/-- What a move does to a pool, with what it notes. -/
inductive Effect (p : Pool) : Move → Pool → List JobNote → Prop
  | submits {q : Pool} {notes : List JobNote} (running : p.stopping = false)
      (looks : Looks p q notes) : Effect p .submit q notes
  | retries {q : Pool} {notes : List JobNote} (running : p.stopping = false)
      (awake : p.woken ≠ 0) (looks : Looks { p with woken := p.woken - 1 } q notes) :
      Effect p .retry q notes
  | handsOver {job : JobId} {i : SlotId} {slot : Slot} (claimed : p.claims.lookup job = some i)
      (slot_eq : p.slots[i]? = some slot) (empty : slot.pending = none) :
      Effect p (.handOver job)
        { p with
          claims := p.claims.filter (·.1 != job)
          slots := p.slots.set i { slot with pending := some job } }
        [.accepted job]
  | takes {job : JobId} {i : SlotId} (slot_eq : p.slots[i]? = some ⟨some job, .idle⟩) :
      Effect p (.take i) { p with slots := p.slots.set i ⟨none, .running job⟩ } [.taken job i]
  | finishes {job : JobId} {i : SlotId} {pending : Option JobId}
      (slot_eq : p.slots[i]? = some ⟨pending, .running job⟩) :
      Effect p (.finish i)
        { p with
          slots := p.slots.set i ⟨pending, .idle⟩
          free := i :: p.free
          sleeping := p.sleeping - 1
          woken := p.woken + min p.sleeping 1 }
        [.finished job]
  | loses {job : JobId} {i : SlotId} {pending : Option JobId}
      (slot_eq : p.slots[i]? = some ⟨pending, .running job⟩) :
      Effect p (.lose i) { p with slots := p.slots.set i ⟨pending, .lost⟩ } [.panicked job]
  | stops (unclaimed : p.claims = []) (slept : p.sleeping = 0) (tried : p.woken = 0) :
      Effect p .stop { p with stopping := true } []
  | leaves {i : SlotId} (stopping : p.stopping = true)
      (slot_eq : p.slots[i]? = some ⟨none, .idle⟩) :
      Effect p (.leave i) { p with slots := p.slots.set i ⟨none, .gone⟩ } []

lemma spawn_eq_ok {p q : Pool} {i : SlotId} (h : p.spawn = .ok (q, i)) :
    i = p.size ∧ ∃ threads, q = { p with slots := p.slots ++ [.fresh], threads } := by
  simp only [spawn] at h
  split at h
  · cases h
  · split at h
    · cases h
    · cases h
      exact ⟨rfl, _, rfl⟩

lemma handOver_eq_some {p q : Pool} {job : JobId} :
    p.handOver job = some q ↔
      ∃ i slot, p.claims.lookup job = some i ∧ p.slots[i]? = some slot ∧ slot.pending = none ∧
        q =
          { p with
            claims := p.claims.filter (·.1 != job)
            slots := p.slots.set i { slot with pending := some job } } := by
  simp only [handOver, Option.bind_eq_bind, Option.bind_eq_some_iff]
  constructor
  · rintro ⟨i, hclaimed, slot, hslot, hq⟩
    split at hq
    · cases hq
    · next hempty =>
        cases hq
        exact ⟨i, slot, hclaimed, hslot, by simpa using hempty, rfl⟩
  · rintro ⟨i, slot, hclaimed, hslot, hempty, rfl⟩
    exact ⟨i, hclaimed, slot, hslot, by simp [hempty, setSlot]⟩

lemma take_eq_some {p q : Pool} {i : SlotId} {job : JobId} :
    p.take i = some (q, job) ↔
      p.slots[i]? = some ⟨some job, .idle⟩ ∧
        q = { p with slots := p.slots.set i ⟨none, .running job⟩ } := by
  simp only [take, Option.bind_eq_bind, Option.bind_eq_some_iff]
  constructor
  · rintro ⟨⟨pending, worker⟩, hslot, job', rfl, hq⟩
    split at hq
    · next hidle =>
        cases hq
        exact ⟨by rw [hslot]; exact congrArg _ (congrArg _ hidle), rfl⟩
    · cases hq
  · rintro ⟨hslot, rfl⟩
    exact ⟨_, hslot, job, rfl, rfl⟩

lemma finish_eq_some {p q : Pool} {i : SlotId} :
    p.finish i = some q ↔
      ∃ job pending, p.slots[i]? = some ⟨pending, .running job⟩ ∧
        q =
          { p with
            slots := p.slots.set i ⟨pending, .idle⟩
            free := i :: p.free
            sleeping := p.sleeping - 1
            woken := p.woken + min p.sleeping 1 } := by
  simp only [finish, Option.bind_eq_bind, Option.bind_eq_some_iff]
  constructor
  · rintro ⟨⟨pending, worker⟩, hslot, hq⟩
    split at hq
    · next job hrunning =>
        cases hrunning
        cases hq
        exact ⟨job, pending, hslot, rfl⟩
    · cases hq
  · rintro ⟨job, pending, hslot, rfl⟩
    exact ⟨_, hslot, rfl⟩

lemma lose_eq_some {p q : Pool} {i : SlotId} :
    p.lose i = some q ↔
      ∃ job pending, p.slots[i]? = some ⟨pending, .running job⟩ ∧
        q = { p with slots := p.slots.set i ⟨pending, .lost⟩ } := by
  simp only [lose, Option.bind_eq_bind, Option.bind_eq_some_iff]
  constructor
  · rintro ⟨⟨pending, worker⟩, hslot, hq⟩
    split at hq
    · next job hrunning =>
        cases hrunning
        cases hq
        exact ⟨job, pending, hslot, rfl⟩
    · cases hq
  · rintro ⟨job, pending, hslot, rfl⟩
    exact ⟨_, hslot, rfl⟩

lemma leave_eq_some {p q : Pool} {i : SlotId} :
    p.leave i = some q ↔
      p.stopping = true ∧ p.slots[i]? = some ⟨none, .idle⟩ ∧
        q = { p with slots := p.slots.set i ⟨none, .gone⟩ } := by
  simp only [leave, Option.bind_eq_bind, Option.bind_eq_some_iff]
  constructor
  · rintro ⟨⟨pending, worker⟩, hslot, hq⟩
    split at hq
    · next hidle =>
        simp only [Bool.and_eq_true, Option.isNone_iff_eq_none, decide_eq_true_eq] at hidle
        obtain ⟨⟨hstopping, rfl⟩, rfl⟩ := hidle
        cases hq
        exact ⟨hstopping, hslot, rfl⟩
    · cases hq
  · rintro ⟨hstopping, hslot, rfl⟩
    exact ⟨_, hslot, by simp [hstopping, setSlot]⟩

lemma retry_eq_some {p : Pool} {looked : Pool × Submission × List Note} :
    p.retry = some looked ↔ p.woken ≠ 0 ∧ looked = { p with woken := p.woken - 1 }.submit := by
  rw [retry]
  split
  · next hnone => simp [hnone]
  · next hsome => simp [hsome, eq_comm]

/-- What a submission does that looks for a slot. -/
lemma looks_of_submit (p : Pool) : Looks p p.submit.1 p.submit.2.1.notes := by
  cases hfree : p.free with
  | cons i free =>
      simp only [submit, hfree, claim]
      exact .reuses hfree
  | nil =>
      cases hroom : p.hasRoom with
      | false =>
          simp only [submit, hfree, hroom, Bool.false_eq_true, if_false]
          have hsleeps := Looks.sleeps hfree hroom
          rwa [hfree] at hsleeps
      | true =>
          cases hspawn : p.spawn with
          | error failure =>
              simp only [submit, hfree, hroom, hspawn, if_true]
              exact .fails hfree hroom
          | ok started =>
              obtain ⟨q, i⟩ := started
              obtain ⟨rfl, threads, rfl⟩ := spawn_eq_ok hspawn
              simp only [submit, hfree, hroom, hspawn, claim, if_true]
              have hstarts := Looks.starts threads hfree hroom
              rwa [hfree] at hstarts

/-- **What a move does to a pool is one of the listed effects.** -/
theorem Stride.effect (s : Stride) : Effect s.before s.move s.after s.notes := by
  obtain ⟨p, m, notes, q, hmade⟩ := s
  simp only [stepNoted, Option.map_eq_some_iff, Prod.mk.injEq] at hmade
  obtain ⟨r, hstep, rfl, rfl⟩ := hmade
  cases m with
  | submit =>
      simp only [step] at hstep
      split at hstep
      · cases hstep
      · next hrunning =>
          cases hstep
          exact .submits (by simpa using hrunning) p.looks_of_submit
  | retry =>
      simp only [step] at hstep
      split at hstep
      · cases hstep
      · next hrunning =>
          obtain ⟨looked, hretry, rfl⟩ := Option.map_eq_some_iff.mp hstep
          obtain ⟨hawake, rfl⟩ := retry_eq_some.mp hretry
          simp only [jobNotes, hretry]
          exact .retries (by simpa using hrunning) hawake (looks_of_submit _)
  | handOver job =>
      obtain ⟨i, slot, hclaimed, hslot, hempty, rfl⟩ := handOver_eq_some.mp hstep
      exact .handsOver hclaimed hslot hempty
  | take i =>
      simp only [step, Option.map_eq_some_iff] at hstep
      obtain ⟨⟨q, job⟩, htake, rfl⟩ := hstep
      obtain ⟨hslot, rfl⟩ := take_eq_some.mp htake
      simp only [jobNotes, htake]
      exact .takes hslot
  | finish i =>
      obtain ⟨job, pending, hslot, rfl⟩ := finish_eq_some.mp hstep
      simp only [jobNotes, running?, hslot]
      exact .finishes hslot
  | lose i =>
      obtain ⟨job, pending, hslot, rfl⟩ := lose_eq_some.mp hstep
      simp only [jobNotes, running?, hslot]
      exact .loses hslot
  | stop =>
      simp only [step] at hstep
      split at hstep
      · next hnobody =>
          cases hstep
          exact .stops hnobody.1 hnobody.2.1 hnobody.2.2
      · cases hstep
  | leave i =>
      obtain ⟨hstopping, hslot, rfl⟩ := leave_eq_some.mp hstep
      exact .leaves hstopping hslot

/-! ### A pool that was made -/

/-- How many workers a pool has from the start that is made by a plan. -/
def initialSize (b : PoolBuilder) : Nat := if b.prestarted then b.limit.getD 0 else 0

/-- Starting workers one after the other adds them all, unless it fails. -/
lemma fill_eq {p q : Pool} {missing : Nat} {notes : List Note}
    (h : p.fill missing = (q, notes, none)) :
    ∃ threads, q =
      { p with
        slots := p.slots ++ List.replicate missing .fresh
        free := (List.range' p.size missing).reverse ++ p.free
        threads } := by
  induction missing generalizing p q notes with
  | zero =>
      cases h
      exact ⟨p.threads, by simp⟩
  | succ missing ih =>
      rw [fill] at h
      split at h
      · cases h
      · next started i hspawn =>
          obtain ⟨rfl, threads, rfl⟩ := spawn_eq_ok hspawn
          simp only [Prod.mk.injEq] at h
          obtain ⟨hq, -, hnone⟩ := h
          obtain ⟨threads', hfilled⟩ := ih (Prod.ext hq (Prod.ext rfl hnone))
          refine ⟨threads', hfilled.trans ?_⟩
          simp [size, List.range'_succ, List.replicate_succ]

/-- A pool that was made has idle workers only, and no jobs. -/
lemma build_eq_ok {b : PoolBuilder} {threads : Option Nat} {p : Pool}
    (h : (b.build threads).1 = .ok p) :
    ∃ threads', p =
      ⟨List.replicate (initialSize b) .fresh, (List.range (initialSize b)).reverse, [], 0, 0,
        b.limit, b.name, threads', false, 0⟩ := by
  rw [PoolBuilder.build] at h
  split at h
  · next hprestarted =>
      split at h
      · next q notes hprestart =>
          cases h
          cases hlimit : b.limit with
          | none =>
              simp only [prestart, start, hlimit, Prod.mk.injEq] at hprestart
              exact ⟨threads, by simp [initialSize, hlimit, ← hprestart.1]⟩
          | some limit =>
              simp only [prestart, start, hlimit, size, List.length_nil, Nat.sub_zero] at hprestart
              obtain ⟨threads', rfl⟩ := fill_eq hprestart
              refine ⟨threads', ?_⟩
              simp [initialSize, hprestarted, hlimit, size, List.range_eq_range']
      · cases h
  · next hlazy =>
      cases h
      exact ⟨threads, by simp [initialSize, hlazy, start]⟩

end EventLoop.Pool
