import EventLoop.Proofs.Pool.Slots
import Mathlib.Data.List.Perm.Basic

/-!
Where the jobs of a pool are: every job is claimed by its submission, held by its slot or run by a
worker, or it has returned or panicked.

* `claimedJobs`, `heldJobs` and `runningJobs` are the jobs at each place.
* `Moved` says how a move carries jobs from one place to the next, and what it notes about them;
  `Effect.moved` that every move does it so.
* `Accounted` says that these jobs and the history add up, and `accounted` that they do so after any
  run.
* `Effect.keeps_held` says that a job remains in its slot until the worker takes it.
-/

namespace EventLoop.Pool

/-! ### The places of a job -/

/-- The job that a slot holds for its worker. -/
def held? (p : Pool) (i : SlotId) : Option JobId := p.slots[i]?.bind (·.pending)

/-- The jobs that are still to be handed over. -/
def claimedJobs (p : Pool) : List JobId := p.claims.map Prod.fst

/-- The jobs that slots hold. -/
def heldJobs (p : Pool) : List JobId := p.slots.filterMap (·.pending)

/-- The jobs that workers are running. -/
def runningJobs (p : Pool) : List JobId := p.slots.filterMap (·.worker.job?)

lemma held?_eq_some {p : Pool} {i : SlotId} {job : JobId} :
    p.held? i = some job ↔ ∃ slot, p.slots[i]? = some slot ∧ slot.pending = some job :=
  Option.bind_eq_some_iff

lemma mem_heldJobs {p : Pool} {job : JobId} : job ∈ p.heldJobs ↔ ∃ i, p.held? i = some job := by
  simp only [heldJobs, List.mem_filterMap, held?_eq_some]
  constructor
  · rintro ⟨slot, hslot, hpending⟩
    obtain ⟨i, hi⟩ := List.mem_iff_getElem?.mp hslot
    exact ⟨i, slot, hi, hpending⟩
  · rintro ⟨i, slot, hslot, hpending⟩
    exact ⟨slot, List.mem_of_getElem? hslot, hpending⟩

/-- The worker of a slot that holds a job is waiting. -/
lemma Sound.slot_of_held {p : Pool} (hp : p.Sound) {i : SlotId} {job : JobId}
    (h : p.held? i = some job) : p.slots[i]? = some ⟨some job, .idle⟩ := by
  obtain ⟨slot, hslot, hpending⟩ := held?_eq_some.mp h
  have huse : .holding job ∈ p.uses i :=
    mem_uses.mpr (.inr (.inr ⟨slot, hslot, by simp [Slot.uses, hpending]⟩))
  exact hp.slot_eq huse (by simp)

/-- A job that a slot holds can be taken. -/
lemma Sound.exists_take {p : Pool} (hp : p.Sound) {i : SlotId} {job : JobId}
    (h : p.held? i = some job) : ∃ q, p.take i = some (q, job) :=
  ⟨_, take_eq_some.mpr ⟨hp.slot_of_held h, rfl⟩⟩

/-! ### What a move does with jobs -/

/-- Replacing a slot exchanges it for another one. -/
lemma set_perm {slots : List Slot} {i : SlotId} {s : Slot} (h : slots[i]? = some s) (s' : Slot) :
    (s :: slots.set i s').Perm (s' :: slots) := by
  have hperm := slots.getD_set_perm_cons i s'
  rwa [h] at hperm

/-- Replacing a slot exchanges what it tells for what the other one tells. -/
lemma filterMap_set_perm {α : Type} (f : Slot → Option α) {slots : List Slot} {i : SlotId}
    {s : Slot} (h : slots[i]? = some s) (s' : Slot) :
    ((f s).toList ++ (slots.set i s').filterMap f).Perm ((f s').toList ++ slots.filterMap f) := by
  have hperm := (set_perm h s').filterMap f
  rw [List.filterMap_cons, List.filterMap_cons] at hperm
  cases hs : f s <;> cases hs' : f s' <;> simpa [hs, hs'] using hperm

/-- Replacing a slot changes nothing if the other one tells the same. -/
lemma filterMap_set_perm_of_eq {α : Type} {f : Slot → Option α} {slots : List Slot} {i : SlotId}
    {s s' : Slot} (h : slots[i]? = some s) (heq : f s = f s') :
    ((slots.set i s').filterMap f).Perm (slots.filterMap f) := by
  have hperm := filterMap_set_perm f h s'
  rw [heq] at hperm
  exact (List.perm_append_left_iff _).mp hperm

/-- Jobs go from one place to the next, and each time this is noted. -/
structure Moved (p q : Pool) (notes : List JobNote) : Prop where
  placed : List.range q.nextJob = List.range p.nextJob ++ notes.filterMap placed?
  claimed : (notes.filterMap accepted? ++ q.claimedJobs).Perm
    (notes.filterMap placed? ++ p.claimedJobs)
  held : (notes.filterMap taken? ++ q.heldJobs).Perm (notes.filterMap accepted? ++ p.heldJobs)
  running : (notes.filterMap finished? ++ notes.filterMap panicked? ++ q.runningJobs).Perm
    (notes.filterMap taken? ++ p.runningJobs)

/-- A submission that looks for a slot carries its job on as it notes. -/
lemma Looks.moved {p q : Pool} {notes : List JobNote} (h : Looks p q notes) : Moved p q notes := by
  cases h with
  | reuses _ => exact ⟨List.range_succ, .refl _, .refl _, .refl _⟩
  | starts _ _ _ =>
      refine ⟨List.range_succ, .refl _, .of_eq ?_, .of_eq ?_⟩
      · exact List.filterMap_append.trans (List.append_nil _)
      · exact List.filterMap_append.trans (List.append_nil _)
  | sleeps _ _ => exact ⟨(List.append_nil _).symm, .refl _, .refl _, .refl _⟩
  | fails _ _ => exact ⟨(List.append_nil _).symm, .refl _, .refl _, .refl _⟩

/-- **A move carries jobs on as it notes.** -/
theorem Effect.moved {p q : Pool} {m : Move} {notes : List JobNote} (h : Effect p m q notes)
    (hp : p.Sound) : Moved p q notes := by
  cases h with
  | submits _ looks => exact looks.moved
  | retries _ _ looks =>
      obtain ⟨hplaced, hclaimed, hheld, hrunning⟩ := looks.moved
      exact ⟨hplaced, hclaimed, hheld, hrunning⟩
  | @handsOver job i slot claimed slot_eq empty =>
      obtain ⟨_, worker⟩ := slot
      obtain rfl := empty
      exact ⟨(List.append_nil _).symm, ((claims_perm hp.jobs claimed).map Prod.fst).symm,
        filterMap_set_perm (·.pending) slot_eq _, filterMap_set_perm_of_eq slot_eq rfl⟩
  | takes slot_eq =>
      exact ⟨(List.append_nil _).symm, .refl _, filterMap_set_perm (·.pending) slot_eq _,
        filterMap_set_perm (·.worker.job?) slot_eq _⟩
  | finishes slot_eq =>
      exact ⟨(List.append_nil _).symm, .refl _, filterMap_set_perm_of_eq slot_eq rfl,
        filterMap_set_perm (·.worker.job?) slot_eq _⟩
  | loses slot_eq =>
      exact ⟨(List.append_nil _).symm, .refl _, filterMap_set_perm_of_eq slot_eq rfl,
        filterMap_set_perm (·.worker.job?) slot_eq _⟩
  | stops _ _ _ => exact ⟨(List.append_nil _).symm, .refl _, .refl _, .refl _⟩
  | leaves _ slot_eq =>
      exact ⟨(List.append_nil _).symm, .refl _, filterMap_set_perm_of_eq slot_eq rfl,
        filterMap_set_perm_of_eq slot_eq rfl⟩

/-- A job remains in its slot until the worker takes it. -/
lemma Effect.keeps_held {p q : Pool} {m : Move} {notes : List JobNote} (h : Effect p m q notes)
    (hp : p.Sound) {i : SlotId} {job : JobId} (hheld : p.held? i = some job) :
    q.held? i = some job ∨ m = .take i ∧ notes = [.taken job i] := by
  have hslot := hp.slot_of_held hheld
  -- a slot that looks different is not this one
  have hother : ∀ {k : SlotId} {s : Slot} (s' : Slot), p.slots[k]? = some s →
      s ≠ ⟨some job, .idle⟩ → (p.slots.set k s')[i]?.bind (·.pending) = some job :=
    fun s' hs hne => by
      rw [getElem?_set_of_ne hs hslot hne]
      rfl
  cases h with
  | submits _ looks => exact .inl (held?_eq_some.mpr ⟨_, looks.slots hslot, rfl⟩)
  | retries _ _ looks => exact .inl (held?_eq_some.mpr ⟨_, looks.slots hslot, rfl⟩)
  | handsOver claimed _ _ =>
      exact .inl (hother _ (hp.slot_of_claimed claimed) (by simp [Slot.fresh]))
  | @takes job' k slot_eq =>
      by_cases hjob : job' = job
      · by_cases hk : k = i
        · exact .inr ⟨by rw [hk], by rw [hk, hjob]⟩
        · left
          rw [held?, List.getElem?_set_ne hk]
          exact hheld
      · exact .inl (hother _ slot_eq (by simpa using hjob))
  | finishes slot_eq => exact .inl (hother _ slot_eq (by simp))
  | loses slot_eq => exact .inl (hother _ slot_eq (by simp))
  | stops _ _ _ => exact .inl hheld
  | leaves _ slot_eq => exact .inl (hother _ slot_eq (by simp))

/-- A job is handed over to a slot that holds no other one. -/
lemma Effect.held?_of_handOver {p q : Pool} {job : JobId} {notes : List JobNote}
    (h : Effect p (.handOver job) q notes) : ∃ i, p.held? i = none ∧ q.held? i = some job := by
  cases h with
  | @handsOver _ i slot _ slot_eq empty =>
      refine ⟨i, by rw [held?, slot_eq]; exact empty, held?_eq_some.mpr
        ⟨{ slot with pending := some job }, ?_, rfl⟩⟩
      exact List.getElem?_set_self (List.getElem?_eq_some_iff.mp slot_eq).1

/-- A worker ends when its slot holds no job. -/
lemma Effect.held?_of_leave {p q : Pool} {i : SlotId} {notes : List JobNote}
    (h : Effect p (.leave i) q notes) : p.held? i = none := by
  cases h with
  | leaves _ slot_eq => rw [held?, slot_eq]; rfl

/-- The panic of a job is of no consequence for the others. -/
lemma Effect.of_lose {p q : Pool} {i : SlotId} {notes : List JobNote}
    (h : Effect p (.lose i) q notes) (hp : p.Sound) :
    p.held? i = none ∧ q.claims = p.claims ∧ ∀ k, k ≠ i → q.slots[k]? = p.slots[k]? := by
  cases h with
  | @loses job _ pending slot_eq =>
      refine ⟨?_, rfl, fun k hk => List.getElem?_set_ne (Ne.symm hk)⟩
      cases hheld : p.held? i with
      | none => rfl
      | some job' => cases slot_eq.symm.trans (hp.slot_of_held hheld)

/-! ### The books -/

/-- The books are right: jobs were numbered one after the other, and those that have come to a place
are there or have gone on to the next one. -/
structure Accounted (past : List Stride) (p : Pool) : Prop where
  sound : p.Sound
  numbered : placed past = List.range p.nextJob
  claimed : (accepted past ++ p.claimedJobs).Perm (placed past)
  held : (taken past ++ p.heldJobs).Perm (accepted past)
  running : (finished past ++ panicked past ++ p.runningJobs).Perm (taken past)

/-- What goes through a place adds up when it does so move by move. -/
lemma carry_perm {here here' into into' out out' : List JobId} (past : (out ++ here).Perm into)
    (move : (out' ++ here').Perm (into' ++ here)) :
    (out ++ out' ++ here').Perm (into ++ into') := by
  refine List.perm_iff_count.mpr fun job => ?_
  have hpast := past.count_eq job
  have hmove := move.count_eq job
  simp only [List.count_append] at hpast hmove ⊢
  omega

lemma Accounted.nodup_accepted {past : List Stride} {p : Pool} (h : Accounted past p) :
    (accepted past).Nodup := by
  have hplaced : (placed past).Nodup := h.numbered ▸ List.nodup_range
  exact (List.nodup_append.mp (h.claimed.nodup_iff.mpr hplaced)).1

lemma Accounted.stride {past : List Stride} {s : Stride} (h : Accounted past s.before) :
    Accounted (past ++ [s]) s.after := by
  have hmoved := (Stride.effect s).moved h.sound
  obtain ⟨hsound, hnumbered, hclaimed, hheld, hrunning⟩ := h
  simp only [placed, accepted, taken, finished, panicked] at hnumbered hclaimed hheld hrunning
  refine ⟨(Stride.effect s).sound hsound, ?_, ?_, ?_, ?_⟩ <;>
    simp only [placed, accepted, taken, finished, panicked, Machine.noted_concat]
  · rw [hnumbered, hmoved.placed]
  · exact carry_perm hclaimed hmoved.claimed
  · exact carry_perm hheld hmoved.held
  · refine List.Perm.trans (.append_right _ ?_) (carry_perm hrunning hmoved.running)
    simp only [List.append_assoc]
    exact (List.perm_append_comm_assoc _ _ _).append_left _

/-- A pool that was made has no jobs yet. -/
lemma accounted_of_build {b : PoolBuilder} {threads : Option Nat} {p : Pool}
    (h : (b.build threads).1 = .ok p) : Accounted [] p := by
  obtain ⟨threads', hp⟩ := build_eq_ok h
  refine ⟨sound_of_build h, ?_, ?_, ?_, ?_⟩ <;> rw [hp]
  · rfl
  · exact .refl _
  · exact .of_eq (by simp [heldJobs, taken, accepted, Machine.noted, Slot.fresh])
  · exact .of_eq (by simp [runningJobs, Slot.fresh, Worker.job?, finished, panicked, taken,
      Machine.noted])

/-- **All jobs of a run are accounted for.** -/
theorem accounted {b : PoolBuilder} {threads : Option Nat} {p : Pool}
    (h : (b.build threads).1 = .ok p) (ms : List Move) : Accounted (p.strides ms) (p.after ms) :=
  Machine.history_rec (accounted_of_build h) (fun _ _ hpast => hpast.stride) ms

end EventLoop.Pool
