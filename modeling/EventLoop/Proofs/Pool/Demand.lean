import EventLoop.Proofs.Pool.Jobs
import EventLoop.Proofs.Pool.Waiting
import Mathlib.Order.Bounds.Basic

/-!
How many workers a pool has, and how many of them are busy.

* `unfinished` are the accepted jobs of a history that have not come to an end.
* `Accounted.active_eq` counts the workers that are not free by the jobs they are there for.
* `Effect.size_eq_or` says that a worker is started for a submission that finds no free one, and
  `isGreatest_size` that a pool without workers at first has as many as were ever needed at once.
* `size_follows_demand` is the main statement here.
-/

namespace EventLoop.Pool

/-! ### Busy workers -/

/-- The accepted jobs that have neither returned nor panicked. -/
def unfinished (history : List Stride) : List JobId :=
  (accepted history).filter fun job => job ∉ finished history ∧ job ∉ panicked history

/-- A submission that is accepted takes a free slot or adds one. -/
lemma Looks.balance {p q : Pool} {notes : List JobNote} (h : Looks p q notes) :
    (notes.filterMap finished?).length + q.size + p.free.length =
      (notes.filterMap placed?).length + p.size + q.free.length := by
  cases h with
  | reuses listed => simp [listed, size, List.filterMap, finished?, placed?]; omega
  | starts _ _ _ => simp [size, List.filterMap, finished?, placed?]; omega
  | sleeps _ _ => rfl
  | fails _ _ => rfl

/-- What a submission takes, a job that returns gives back. -/
lemma Effect.balance {p q : Pool} {m : Move} {notes : List JobNote} (h : Effect p m q notes) :
    (notes.filterMap finished?).length + q.size + p.free.length =
      (notes.filterMap placed?).length + p.size + q.free.length := by
  cases h with
  | submits _ looks => exact looks.balance
  | retries _ _ looks => exact looks.balance
  | handsOver _ _ _ => simp [size, List.filterMap, finished?, placed?]
  | takes _ => simp [size, List.filterMap, finished?, placed?]
  | finishes _ => simp [size, List.filterMap, finished?, placed?]; omega
  | loses _ => simp [size, List.filterMap, finished?, placed?]
  | stops _ _ _ => rfl
  | leaves _ _ => simp [size]

/-- Every submission that has chosen a slot keeps it active until its job returns. -/
lemma length_placed {b : PoolBuilder} {threads : Option Nat} {p : Pool}
    (h : (b.build threads).1 = .ok p) (ms : List Move) :
    (placed (p.strides ms)).length = (finished (p.strides ms)).length + (p.after ms).active := by
  have hall : (finished (p.strides ms)).length + (p.after ms).size =
      (placed (p.strides ms)).length + (p.after ms).free.length := by
    refine Machine.history_rec (P := fun past (q : Pool) =>
      (finished past).length + q.size = (placed past).length + q.free.length) ?_ ?_ ms
    · obtain ⟨threads', hp⟩ := build_eq_ok h
      simp [hp, size, finished, placed, Machine.noted]
    · intro past s hpast
      have hmove := (Stride.effect s).balance
      simp only [finished, placed, Machine.noted_concat, List.length_append] at hpast ⊢
      omega
  have hactive := ((sound_of_build h).after ms).active_add_length_free
  omega

/-- A job that has not come to an end is in its slot or running. -/
lemma Accounted.unfinished_perm {past : List Stride} {p : Pool} (h : Accounted past p) :
    (unfinished past).Perm (p.heldJobs ++ p.runningJobs) := by
  have hperm : ((p.heldJobs ++ p.runningJobs) ++ (finished past ++ panicked past)).Perm
      (accepted past) := by
    refine .trans ?_ h.held
    refine .trans ?_ (h.running.append_right _)
    exact List.perm_iff_count.mpr fun job => by simp only [List.count_append]; omega
  have hnodup := List.nodup_append.mp (hperm.nodup_iff.mpr h.nodup_accepted)
  refine (hperm.filter _).symm.trans (.of_eq ?_)
  rw [List.filter_append, List.filter_eq_self.mpr, List.filter_eq_nil_iff.mpr, List.append_nil]
  · intro job hended
    rcases List.mem_append.mp hended with hfinished | hpanicked
    · simp [hfinished]
    · simp [hpanicked]
  · intro job hjob
    have hne := fun job' hjob' => hnodup.2.2 job hjob job' hjob'
    simp only [List.mem_append] at hne
    exact decide_eq_true ⟨fun hmem => hne job (.inl hmem) rfl, fun hmem => hne job (.inr hmem) rfl⟩

/-- The workers that are not free are there for submissions under way, for jobs that have not come
to an end, and for jobs that have panicked. -/
lemma Accounted.active_eq {past : List Stride} {p : Pool} (h : Accounted past p)
    (hplaced : (placed past).length = (finished past).length + p.active) :
    p.active = p.claims.length + (unfinished past).length + (panicked past).length := by
  have hclaimed := h.claimed.length_eq
  have hheld := h.held.length_eq
  have hrunning := h.running.length_eq
  have hunfinished := h.unfinished_perm.length_eq
  simp only [List.length_append, claimedJobs, List.length_map] at *
  omega

/-! ### How many workers there are -/

/-- A worker is started for a submission that finds no free one. -/
lemma Looks.size_eq_or {p q : Pool} {notes : List JobNote} (h : Looks p q notes) :
    q.size = p.size ∨
      p.free = [] ∧ q.free = [] ∧ p.hasRoom = true ∧ q.size = p.size + 1 := by
  cases h with
  | starts _ busy room => exact .inr ⟨busy, busy, room, List.length_append⟩
  | _ => exact .inl rfl

lemma Effect.size_eq_or {p q : Pool} {m : Move} {notes : List JobNote} (h : Effect p m q notes) :
    q.size = p.size ∨
      (m = .submit ∨ m = .retry ∧ p.woken ≠ 0) ∧ p.free = [] ∧ q.free = [] ∧
        p.hasRoom = true ∧ q.size = p.size + 1 := by
  cases h with
  | submits _ looks => exact looks.size_eq_or.imp_right fun hgrown => ⟨.inl rfl, hgrown⟩
  | retries _ awake looks =>
      exact looks.size_eq_or.imp_right fun hgrown => ⟨.inr ⟨rfl, awake⟩, hgrown⟩
  | stops _ _ _ => exact .inl rfl
  | _ => exact .inl List.length_set

/-- A submission that was woken starts no worker, since the limit is reached. -/
lemma Effect.size_eq_or_of_attended {p q : Pool} {m : Move} {notes : List JobNote}
    (h : Effect p m q notes) (ha : p.Attended) :
    q.size = p.size ∨ m = .submit ∧ p.free = [] ∧ q.size = p.size + 1 := by
  rcases h.size_eq_or with hsame | ⟨hm | ⟨-, hawake⟩, hfree, -, hroom, hgrown⟩
  · exact .inl hsame
  · exact .inr ⟨hm, hfree, hgrown⟩
  · rw [hasRoom_of_limit (ha.full (by omega))] at hroom
    cases hroom

/-- A pool that had no workers at first has as many as were active at once. -/
lemma isGreatest_size {p : Pool} (empty : p.size = 0) (ms : List Move) :
    IsGreatest {n | n = p.active ∨ ∃ s ∈ p.strides ms, n = s.after.active} (p.after ms).size := by
  have hle : ∀ q : Pool, q.active ≤ q.size := fun q => Nat.sub_le _ _
  refine Machine.history_rec (P := fun past (q : Pool) =>
    IsGreatest {n | n = p.active ∨ ∃ s ∈ past, n = s.after.active} q.size) ?_ ?_ ms
  · have hactive : p.active = p.size := by have := hle p; omega
    refine ⟨.inl hactive.symm, ?_⟩
    rintro n (rfl | ⟨s, hs, -⟩)
    · exact hle p
    · cases hs
  · rintro past s ⟨hmem, hub⟩
    have hbound : ∀ {n}, (n = p.active ∨ ∃ t ∈ past ++ [s], n = t.after.active) →
        s.before.size ≤ s.after.size → n ≤ s.after.size := by
      rintro n (rfl | ⟨t, ht, rfl⟩) hgrows
      · exact (hub (.inl rfl)).trans hgrows
      · rcases List.mem_append.mp ht with ht | ht
        · exact (hub (.inr ⟨t, ht, rfl⟩)).trans hgrows
        · rw [List.mem_singleton.mp ht]
          exact hle _
    rcases (Stride.effect s).size_eq_or with hsame | ⟨-, -, hfree, -, hgrown⟩
    · refine ⟨?_, fun n hn => hbound hn hsame.ge⟩
      rw [hsame]
      exact hmem.imp_right fun ⟨t, ht, hn⟩ => ⟨t, List.mem_append_left _ ht, hn⟩
    · -- nobody is free now
      refine ⟨.inr ⟨s, by simp, by simp [active, size, hfree]⟩, fun n hn => hbound hn ?_⟩
      omega

lemma size_le_after (p : Pool) (ms : List Move) : p.size ≤ (p.after ms).size := by
  refine Machine.history_rec (P := fun _ (q : Pool) => p.size ≤ q.size) (Nat.le_refl _) ?_ ms
  intro _ s hpast
  rcases (Stride.effect s).size_eq_or with hsame | ⟨-, -, -, -, hgrown⟩ <;> omega

/-- **A pool has as many workers as are needed.** For a pool that was made by any plan, and any run
of it:

* At every moment the workers that count as active are there for the submissions under way, for the
  accepted jobs that have not come to an end and for the jobs that have panicked.
* A worker is started for a submission, and only if no worker is free.
* If the pool has no workers at first, their number is the largest number of workers that were
  active at once. If a pool with a limit has started its workers in advance, their number is the
  limit.
* A submission has to wait exactly if no worker is free and the limit is reached, and then it
  sleeps. While submissions sleep, the limit remains reached, and for every worker that is free one
  of them was woken and is to look again.
* A submission that is alone in sleeping does so until a slot is released, and no worker is free for
  so long. The next release wakes it, and it is accepted with the slot that was released last, if no
  other submission is there before it. -/
theorem size_follows_demand (b : PoolBuilder) (threads : Option Nat) (p : Pool)
    (h : (b.build threads).1 = .ok p) (ms : List Move) :
    (p.after ms).active = (p.after ms).claims.length + (unfinished (p.strides ms)).length +
      (panicked (p.strides ms)).length ∧
    (∀ s ∈ p.strides ms, s.after.size ≠ s.before.size →
      s.move = .submit ∧ s.before.free = [] ∧ s.after.size = s.before.size + 1) ∧
    (b.prestarted = false ∨ b.limit = none →
      IsGreatest {n | n = p.active ∨ ∃ s ∈ p.strides ms, n = s.after.active} (p.after ms).size) ∧
    (∀ limit, b.prestarted = true → b.limit = some limit → (p.after ms).size = limit) ∧
    ((p.after ms).submit.2.1 = .full ↔
      (p.after ms).free = [] ∧ b.limit = some (p.after ms).size) ∧
    ((p.after ms).submit.2.1 = .full →
      (p.after ms).submit.1 = { p.after ms with sleeping := (p.after ms).sleeping + 1 }) ∧
    (0 < (p.after ms).sleeping →
      b.limit = some (p.after ms).size ∧ (p.after ms).free.length ≤ (p.after ms).woken) ∧
    ((p.after ms).sleeping = 1 → (p.after ms).woken = 0 →
      ∀ ms', .submit ∉ ms' → .retry ∉ ms' →
        (released ((p.after ms).strides ms') = [] →
          ((p.after ms).after ms').sleeping = 1 ∧ ((p.after ms).after ms').woken = 0 ∧
          ((p.after ms).after ms').free = [] ∧
          ((p.after ms).after ms').limit = some ((p.after ms).after ms').size) ∧
        ∀ earlier i, released ((p.after ms).strides ms') = earlier ++ [i] →
          ((p.after ms).after ms').sleeping = 0 ∧ ((p.after ms).after ms').woken = 1 ∧
          ∃ q, ((p.after ms).after ms').retry =
              some (q, .accepted ((p.after ms).after ms').nextJob i, [.handedToIdle i]) ∧
            ((p.after ms).after ms').step .retry = some q ∧
            ∃ q', q.handOver ((p.after ms).after ms').nextJob = some q') := by
  have haccounted := accounted h ms
  have hsound := haccounted.sound
  have hattended := fun ms' => (attended_of_build h).after (sound_of_build h) ms'
  obtain ⟨threads', hp⟩ := build_eq_ok h
  have hinitial : p.size = initialSize b := by simp [hp, size]
  have hlimit : (p.after ms).limit = b.limit := by rw [limit_after, hp]
  refine ⟨haccounted.active_eq (length_placed h ms), fun s hs hsize => ?_, fun hlazy => ?_,
    fun limit hprestarted hb => ?_, ?_, submit_of_full, fun hsleeps => ?_,
    fun halone hnobody ms' hsubmit hretry =>
      hsound.waiting_after (hattended ms) halone hnobody hsubmit hretry⟩
  · obtain ⟨ms', hbefore : p.after ms' = s.before⟩ := Machine.exists_after_eq_before hs
    rcases (Stride.effect s).size_eq_or_of_attended (hbefore ▸ hattended ms') with hsame | hgrown
    · exact absurd hsame hsize
    · exact hgrown
  · refine isGreatest_size (hinitial.trans ?_) ms
    rcases hlazy with hlazy | hlazy <;> simp [initialSize, hlazy]
  · have hall : p.size = limit := by rw [hinitial, initialSize, hprestarted, hb]; rfl
    exact Nat.le_antisymm (hsound.within limit (hlimit.trans hb)) (hall ▸ size_le_after p ms)
  · rw [hsound.submit_eq_full_iff, hlimit]
  · exact ⟨hlimit ▸ (hattended ms).full (by omega), (hattended ms).awake hsleeps⟩

/-!
A pool of two workers. The job of the first one has panicked, and that of the second one is running,
when a third job is submitted.
-/

namespace BusyPool

/-- The pool at first. -/
def made : Pool := start (some 2) defaultName none

/-- All that happens until the third submission sleeps. -/
def moves : List Move :=
  [.submit, .handOver 0, .take 0, .submit, .lose 0, .handOver 1, .take 1, .submit]

end BusyPool

/-- The pool has started both workers, and both are active. The third submission sleeps; it is woken
when the second worker is done, and is accepted with its slot. -/
theorem size_follows_demand_waiting :
    ((PoolBuilder.bounded 2).build none).1 = .ok BusyPool.made ∧
      (BusyPool.made.after BusyPool.moves).active = 2 ∧
      (unfinished (BusyPool.made.strides BusyPool.moves)).length = 1 ∧
      (∃ s ∈ BusyPool.made.strides BusyPool.moves,
        (BusyPool.made.after BusyPool.moves).size = s.after.active) ∧
      (BusyPool.made.after BusyPool.moves).submit.2.1 = .full ∧
      (BusyPool.made.after BusyPool.moves).sleeping = 1 ∧
      ((BusyPool.made.after BusyPool.moves).after [.finish 1]).woken = 1 ∧
      ∃ q, ((BusyPool.made.after BusyPool.moves).after [.finish 1]).retry =
        some (q, .accepted 2 1, [.handedToIdle 1]) := by
  obtain ⟨hactive, -, hlazy, -, hfull, -, -, hwaiting⟩ :=
    size_follows_demand (.bounded 2) none BusyPool.made rfl BusyPool.moves
  have hfull := hfull.mpr ⟨by decide, by decide⟩
  obtain ⟨-, hreleased⟩ := hwaiting rfl rfl [.finish 1] (by decide) (by decide)
  obtain ⟨-, hwoken, q, hretry, -, -⟩ := hreleased [] 1 (by decide)
  refine ⟨rfl, hactive, by decide, ?_, hfull, rfl, hwoken, q, hretry⟩
  exact ((hlazy (.inl rfl)).1).resolve_left (by decide)

end EventLoop.Pool
