import EventLoop.Proofs.Pool.Moves
import Mathlib.Data.List.Nodup
import Mathlib.Data.List.Perm.Subperm

/-!
What the slots of a pool are used for: each of them for one thing at a time.

* `Use` is what a slot may be used for, and `uses` lists all that a slot is used for at the moment.
* `Sound` says that each slot has one use, and no other number has any; `Effect.sound` that a move
  keeps this, and `Sound.after` that it holds at any time; `Sound.history_rec` lets an induction
  over a run rely on it.
* `Sound.slot_eq` and `Sound.slot_of_free` say what a slot looks like, given its use.
* `Sound.exists_handOver` says that a slot that was chosen can take its job.
* `Sound.dead_after` says that a slot whose worker was lost is never used again.
* `slots_have_one_use` is the main statement here.
-/

namespace EventLoop.Pool

/-! ### Uses -/

/-- What a slot is used for. -/
inductive Use where
  /-- It stands on the free list. -/
  | free
  /-- A submission has chosen it, and has not handed its job over yet. -/
  | reserved (job : JobId)
  /-- It holds a job that its worker has not taken yet. -/
  | holding (job : JobId)
  | running (job : JobId)
  /-- Its worker was lost in the panic of a job. -/
  | dead
deriving DecidableEq

/-- What a slot looks like that is used so. -/
def Use.slot : Use → Slot
  | free => .fresh
  | reserved _ => .fresh
  | holding job => ⟨some job, .idle⟩
  | running job => ⟨none, .running job⟩
  | dead => ⟨none, .lost⟩

/-- What a worker uses its slot for. -/
def Worker.uses : Worker → List Use
  | idle => []
  | running job => [.running job]
  | lost => [.dead]
  | gone => []

/-- What a slot is used for, as far as can be seen from the slot. -/
def Slot.uses (s : Slot) : List Use := (s.pending.map Use.holding).toList ++ s.worker.uses

/-- Nothing can be seen from a slot of its being free. -/
lemma Slot.free_notMem_uses (s : Slot) : .free ∉ s.uses := by
  obtain ⟨pending, worker⟩ := s
  cases pending <;> cases worker <;> simp [Slot.uses, Worker.uses]

/-- All that a slot is used for, each as often as it is. -/
def uses (p : Pool) (i : SlotId) : List Use :=
  List.replicate (p.free.count i) .free ++
    ((p.claims.filter (·.2 == i)).map fun c => .reserved c.1) ++ p.slots[i]?.elim [] Slot.uses

lemma length_uses (p : Pool) (i : SlotId) :
    (p.uses i).length =
      p.free.count i + p.claims.countP (·.2 == i) + p.slots[i]?.elim 0 (·.uses.length) := by
  rw [uses, List.length_append, List.length_append, List.length_replicate, List.length_map,
    List.countP_eq_length_filter]
  cases p.slots[i]? <;> rfl

lemma mem_uses {p : Pool} {i : SlotId} {u : Use} :
    u ∈ p.uses i ↔
      u = .free ∧ i ∈ p.free ∨ (∃ job, u = .reserved job ∧ (job, i) ∈ p.claims) ∨
        ∃ slot, p.slots[i]? = some slot ∧ u ∈ slot.uses := by
  rw [uses, List.mem_append, List.mem_append, or_assoc]
  refine or_congr ?_ (or_congr ?_ ?_)
  · rw [List.mem_replicate, ne_eq, List.count_eq_zero, not_not, and_comm]
  · simp only [List.mem_map, List.mem_filter, beq_iff_eq]
    constructor
    · rintro ⟨⟨job, _⟩, ⟨hmem, rfl⟩, rfl⟩
      exact ⟨job, rfl, hmem⟩
    · rintro ⟨job, rfl, hmem⟩
      exact ⟨_, ⟨hmem, rfl⟩, rfl⟩
  · cases p.slots[i]? <;> simp

/-- Every slot has one use, and what does not exist has none. Only the shutdown ends workers, and
their slots are free then. The jobs that are still to be handed over have numbers of their own, and
there are none during the shutdown. -/
structure Sound (p : Pool) : Prop where
  single : ∀ i < p.size, (p.uses i).length = 1
  inside : ∀ i, p.size ≤ i → (p.uses i).length = 0
  gone : ∀ i slot, p.slots[i]? = some slot → slot.worker = .gone → i ∈ p.free ∧ p.stopping = true
  jobs : (p.claims.map Prod.fst).Nodup
  issued : ∀ c ∈ p.claims, c.1 < p.nextJob
  unclaimed : p.stopping = true → p.claims = []
  within : ∀ limit, p.limit = some limit → p.size ≤ limit

/-! ### What follows of a use -/

lemma Sound.nodup_free {p : Pool} (h : p.Sound) : p.free.Nodup := by
  rw [List.nodup_iff_count_le_one]
  intro i
  have hlength := length_uses p i
  rcases Nat.lt_or_ge i p.size with hlt | hge
  · rw [h.single i hlt] at hlength
    omega
  · rw [h.inside i hge] at hlength
    omega

/-- Only what exists is used. -/
lemma Sound.lt_size {p : Pool} (h : p.Sound) {i : SlotId} {u : Use} (hu : u ∈ p.uses i) :
    i < p.size := by
  by_contra hge
  have hlength := h.inside i (Nat.le_of_not_lt hge)
  rw [List.length_eq_zero_iff.mp hlength] at hu
  cases hu

/-- A slot that is used for something is used for nothing else. -/
lemma Sound.uses_eq {p : Pool} (h : p.Sound) {i : SlotId} {u : Use} (hu : u ∈ p.uses i) :
    p.uses i = [u] := by
  obtain ⟨v, hv⟩ := List.length_eq_one_iff.mp (h.single i (h.lt_size hu))
  rw [hv] at hu ⊢
  rw [List.mem_singleton.mp hu]

/-- A slot that is used for nothing by itself has an idle worker, or none any more. -/
lemma Slot.eq_of_uses_eq_nil {s : Slot} (h : s.uses = []) : s = .fresh ∨ s = ⟨none, .gone⟩ := by
  obtain ⟨pending, worker⟩ := s
  cases pending <;> cases worker <;> simp_all [Slot.uses, Worker.uses, Slot.fresh]

/-- A slot that is used for one thing by itself shows what it is. -/
lemma Slot.eq_of_uses_eq_singleton {s : Slot} {u : Use} (h : s.uses = [u]) :
    s = u.slot ∨ s.worker = .gone := by
  obtain ⟨pending, worker⟩ := s
  cases pending <;> cases worker <;> simp_all [Slot.uses, Worker.uses, Use.slot] <;>
    subst h <;> simp

/-- The one use of a slot is told by the free list, by the claims or by the slot. -/
lemma Sound.exists_slot {p : Pool} (h : p.Sound) {i : SlotId} {u : Use} (hu : u ∈ p.uses i) :
    ∃ slot, p.slots[i]? = some slot ∧
      p.free.count i + p.claims.countP (·.2 == i) + slot.uses.length = 1 := by
  have hlt := h.lt_size hu
  have hlength := length_uses p i
  rw [h.single i hlt, List.getElem?_eq_getElem hlt] at hlength
  exact ⟨_, List.getElem?_eq_getElem hlt, hlength.symm⟩

/-- What a slot that is not free looks like. -/
lemma Sound.slot_eq {p : Pool} (h : p.Sound) {i : SlotId} {u : Use} (hu : u ∈ p.uses i)
    (hfree : u ≠ .free) : p.slots[i]? = some u.slot := by
  obtain ⟨slot, hslot, hone⟩ := h.exists_slot hu
  -- the worker has not ended, since the slot would be free then
  have hgone : slot.worker = .gone → 0 < p.free.count i := fun hgone =>
    List.count_pos_iff.mpr (h.gone i slot hslot hgone).1
  rcases mem_uses.mp hu with ⟨rfl, -⟩ | ⟨job, rfl, hclaim⟩ | ⟨slot', hslot', hmem⟩
  · exact absurd rfl hfree
  · have hclaimed : 0 < p.claims.countP (·.2 == i) :=
      List.countP_pos_iff.mpr ⟨_, hclaim, by simp⟩
    have hnil : slot.uses = [] := List.length_eq_zero_iff.mp (by omega)
    rcases Slot.eq_of_uses_eq_nil hnil with rfl | rfl
    · exact hslot
    · have := hgone rfl
      omega
  · obtain rfl := Option.some.inj (hslot.symm.trans hslot')
    have hpos := List.length_pos_of_mem hmem
    obtain ⟨v, hv⟩ := List.length_eq_one_iff.mp (show slot.uses.length = 1 by omega)
    obtain rfl : u = v := by rwa [hv, List.mem_singleton] at hmem
    rcases Slot.eq_of_uses_eq_singleton hv with rfl | hworker
    · exact hslot
    · have := hgone hworker
      omega

/-- What a free slot looks like. -/
lemma Sound.slot_of_free {p : Pool} (h : p.Sound) {i : SlotId} (hi : i ∈ p.free) :
    p.slots[i]? = some .fresh ∨ p.stopping = true ∧ p.slots[i]? = some ⟨none, .gone⟩ := by
  obtain ⟨slot, hslot, hone⟩ := h.exists_slot (mem_uses.mpr (.inl ⟨rfl, hi⟩))
  have hfree := List.count_pos_iff.mpr hi
  have hnil : slot.uses = [] := List.length_eq_zero_iff.mp (by omega)
  rcases Slot.eq_of_uses_eq_nil hnil with rfl | rfl
  · exact .inl hslot
  · exact .inr ⟨(h.gone i _ hslot rfl).2, hslot⟩

/-- A job that is still to be handed over leads to its slot. -/
lemma Sound.lookup_eq {p : Pool} (h : p.Sound) {job : JobId} {i : SlotId}
    (hclaim : (job, i) ∈ p.claims) : p.claims.lookup job = some i := by
  obtain ⟨earlier, later, hclaims⟩ := List.append_of_mem hclaim
  refine List.lookup_eq_some_iff.mpr ⟨earlier, later, hclaims, fun c hc => ?_⟩
  have hjobs := h.jobs
  rw [hclaims, List.map_append, List.nodup_append] at hjobs
  have hne := hjobs.2.2 c.1 (List.mem_map_of_mem hc) job (by simp)
  simpa using Ne.symm hne

/-- What a slot that was chosen looks like. -/
lemma Sound.slot_of_claimed {p : Pool} (h : p.Sound) {job : JobId} {i : SlotId}
    (claimed : p.claims.lookup job = some i) : p.slots[i]? = some .fresh := by
  obtain ⟨earlier, later, hclaims, -⟩ := List.lookup_eq_some_iff.mp claimed
  exact h.slot_eq (mem_uses.mpr (.inr (.inl ⟨job, rfl, by simp [hclaims]⟩))) nofun

/-- A slot that was chosen can take its job. -/
lemma Sound.exists_handOver {p : Pool} (h : p.Sound) {job : JobId} {i : SlotId}
    (hclaim : (job, i) ∈ p.claims) :
    ∃ q, p.handOver job = some q ∧ q.slots[i]? = some ⟨some job, .idle⟩ := by
  have hslot := h.slot_of_claimed (h.lookup_eq hclaim)
  refine ⟨_, handOver_eq_some.mpr ⟨i, .fresh, h.lookup_eq hclaim, hslot, rfl, rfl⟩, ?_⟩
  have hlt := (List.getElem?_eq_some_iff.mp hslot).1
  simp [hlt, Slot.fresh]

/-! ### What a move keeps -/

/-- A job with a number of its own is taken out of the claims without the others. -/
lemma claims_perm {claims : List (JobId × SlotId)} (hjobs : (claims.map Prod.fst).Nodup)
    {job : JobId} {i : SlotId} (hclaimed : claims.lookup job = some i) :
    claims.Perm ((job, i) :: claims.filter (·.1 != job)) := by
  obtain ⟨earlier, later, rfl, hearlier⟩ := List.lookup_eq_some_iff.mp hclaimed
  rw [List.map_append, List.map_cons, List.nodup_append, List.nodup_cons] at hjobs
  have hlater : later.filter (·.1 != job) = later := by
    refine List.filter_eq_self.mpr fun c hc => bne_iff_ne.mpr fun heq => ?_
    exact hjobs.2.1.1 (List.mem_map.mpr ⟨c, hc, heq⟩)
  have hfirst : earlier.filter (·.1 != job) = earlier := by
    refine List.filter_eq_self.mpr fun c hc => ?_
    rw [bne_comm]
    exact hearlier c hc
  simp only [List.filter_append, List.filter_cons, bne_self_eq_false, hfirst, hlater]
  exact List.perm_middle

/-- Replacing a slot changes nothing for the others. -/
lemma length_uses_set {slots : List Slot} {k : SlotId} {s : Slot} (h : slots[k]? = some s)
    (s' : Slot) (i : SlotId) :
    (slots.set k s')[i]?.elim 0 (·.uses.length) + (if k = i then s.uses.length else 0) =
      slots[i]?.elim 0 (·.uses.length) + if k = i then s'.uses.length else 0 := by
  have hlt := (List.getElem?_eq_some_iff.mp h).1
  by_cases heq : k = i
  · subst heq
    rw [List.getElem?_set_self hlt, h, if_pos rfl, if_pos rfl]
    exact Nat.add_comm _ _
  · rw [List.getElem?_set_ne heq, if_neg heq, if_neg heq]

/-- A sound pool remains sound when a slot is replaced, if the free list and the claims make up for
what changes in its uses. -/
lemma Sound.of_set {p q : Pool} (hp : p.Sound) {k : SlotId} {s s' : Slot}
    (slot_eq : p.slots[k]? = some s) (slots : q.slots = p.slots.set k s')
    (balance : ∀ i,
      q.free.count i + q.claims.countP (·.2 == i) + (if k = i then s'.uses.length else 0) =
        p.free.count i + p.claims.countP (·.2 == i) + if k = i then s.uses.length else 0)
    (free : p.free ⊆ q.free) (gone : s'.worker = .gone → k ∈ q.free ∧ q.stopping = true)
    (claims : q.claims.Sublist p.claims) (stopping : q.stopping = p.stopping)
    (nextJob : q.nextJob = p.nextJob) (limit : q.limit = p.limit) : q.Sound := by
  have hsize : q.size = p.size := by rw [size, slots, List.length_set, size]
  have hlength : ∀ i, (q.uses i).length = (p.uses i).length := by
    intro i
    have hset := length_uses_set slot_eq s' i
    have hbalance := balance i
    rw [length_uses, length_uses, slots]
    omega
  refine ⟨fun i hi => ?_, fun i hi => ?_, fun i slot hslot hworker => ?_,
    hp.jobs.sublist (claims.map _), fun c hc => ?_, fun hstopping => ?_, fun n hn => ?_⟩
  · exact (hlength i).trans (hp.single i (hsize ▸ hi))
  · exact (hlength i).trans (hp.inside i (hsize ▸ hi))
  · rw [slots, List.getElem?_set] at hslot
    split at hslot
    · next heq =>
        split at hslot
        · cases hslot
          exact heq ▸ gone hworker
        · cases hslot
    · obtain ⟨hfree, hstopping⟩ := hp.gone i slot hslot hworker
      exact ⟨free hfree, stopping ▸ hstopping⟩
  · exact nextJob ▸ hp.issued c (claims.subset hc)
  · exact List.sublist_nil.mp (hp.unclaimed (stopping ▸ hstopping) ▸ claims)
  · exact hsize ▸ hp.within n (limit ▸ hn)

/-- A submission that has chosen a slot puts up a claim with a number of its own. -/
lemma Sound.nodup_claim {p : Pool} (hp : p.Sound) (i : SlotId) :
    (((p.nextJob, i) :: p.claims).map Prod.fst).Nodup ∧
      ∀ c ∈ (p.nextJob, i) :: p.claims, c.1 < p.nextJob + 1 := by
  refine ⟨List.nodup_cons.mpr ⟨fun hmem => ?_, hp.jobs⟩, fun c hc => ?_⟩
  · obtain ⟨c, hc, heq⟩ := List.mem_map.mp hmem
    exact Nat.lt_irrefl _ (heq ▸ hp.issued c hc)
  · rcases List.mem_cons.mp hc with rfl | hc
    · exact Nat.lt_succ_self _
    · exact Nat.lt_succ_of_lt (hp.issued c hc)

/-- As long as the shutdown has not begun, no worker has ended. -/
lemma Sound.worker_ne_gone {p : Pool} (hp : p.Sound) (running : p.stopping = false) {slot : Slot}
    (hslot : slot ∈ p.slots) : slot.worker ≠ .gone := by
  intro hworker
  obtain ⟨i, hi⟩ := List.mem_iff_getElem?.mp hslot
  have hstopping := (hp.gone i slot hi hworker).2
  simp [running] at hstopping

/-- A slot that was just added is used for nothing by itself. -/
lemma length_uses_append (slots : List Slot) (i : SlotId) :
    (slots ++ [.fresh])[i]?.elim 0 (·.uses.length) = slots[i]?.elim 0 (·.uses.length) := by
  rw [List.getElem?_append]
  split
  · rfl
  · next hge =>
      rw [List.getElem?_eq_none (Nat.le_of_not_lt hge), List.getElem?_singleton]
      split <;> rfl

/-- Who waits for a slot is of no consequence for the slots. -/
lemma Sound.of_waiting {p : Pool} (hp : p.Sound) (sleeping woken : Nat) :
    Sound { p with sleeping, woken } :=
  ⟨hp.single, hp.inside, hp.gone, hp.jobs, hp.issued, hp.unclaimed, hp.within⟩

/-- A submission that looks for a slot keeps a pool sound. -/
lemma Looks.sound {p q : Pool} {notes : List JobNote} (h : Looks p q notes) (hp : p.Sound)
    (running : p.stopping = false) : q.Sound := by
  cases h with
  | @reuses k free listed =>
      have hclaims := hp.nodup_claim k
      have hlength : ∀ i, (uses
          { p with
            free
            claims := (p.nextJob, k) :: p.claims
            nextJob := p.nextJob + 1 } i).length = (p.uses i).length := by
        intro i
        simp only [length_uses, listed, List.count_cons, List.countP_cons]
        omega
      refine ⟨fun i hi => (hlength i).trans (hp.single i hi),
        fun i hi => (hlength i).trans (hp.inside i hi), fun i slot hslot hworker => ?_, hclaims.1,
        hclaims.2, fun hstopping => ?_, hp.within⟩
      · exact absurd hworker (hp.worker_ne_gone running (List.mem_of_getElem? hslot))
      · simp [running] at hstopping
  | starts threads busy room =>
      have hclaims := hp.nodup_claim p.size
      have hlength : ∀ i, (uses
          { p with
            slots := p.slots ++ [.fresh]
            claims := (p.nextJob, p.size) :: p.claims
            threads, nextJob := p.nextJob + 1 } i).length =
          (p.uses i).length + if p.size = i then 1 else 0 := by
        intro i
        simp only [length_uses, List.countP_cons, length_uses_append, beq_iff_eq]
        omega
      refine ⟨fun i hi => ?_, fun i hi => ?_, fun i slot hslot hworker => ?_, hclaims.1,
        hclaims.2, fun hstopping => ?_, fun n hn => ?_⟩
      · rw [size, List.length_append, List.length_singleton, ← size] at hi
        rw [hlength]
        rcases Nat.lt_succ_iff_lt_or_eq.mp hi with hlt | rfl
        · rw [hp.single i hlt, if_neg (Nat.ne_of_gt hlt)]
        · rw [hp.inside p.size (Nat.le_refl _), if_pos rfl]
      · rw [size, List.length_append, List.length_singleton, ← size] at hi
        rw [hlength, hp.inside i (Nat.le_of_succ_le hi), if_neg (Nat.ne_of_lt hi)]
      · rcases List.mem_append.mp (List.mem_of_getElem? hslot) with hmem | hmem
        · exact absurd hworker (hp.worker_ne_gone running hmem)
        · rw [List.mem_singleton.mp hmem] at hworker
          cases hworker
      · simp [running] at hstopping
      · have hlt : p.size < n := by simpa [hasRoom, show p.limit = some n from hn] using room
        rw [size, List.length_append]
        exact hlt
  | sleeps _ _ => exact hp.of_waiting _ _
  | fails _ _ => exact hp

/-- **A move keeps a pool sound.** -/
theorem Effect.sound {p q : Pool} {m : Move} {notes : List JobNote} (h : Effect p m q notes)
    (hp : p.Sound) : q.Sound := by
  cases h with
  | submits running looks => exact looks.sound hp running
  | retries running _ looks => exact looks.sound (hp.of_waiting _ _) running
  | @handsOver job k slot claimed slot_eq empty =>
      have hperm := claims_perm hp.jobs claimed
      refine hp.of_set slot_eq rfl (fun i => ?_) (List.Subset.refl _) ?_ List.filter_sublist rfl rfl
        rfl
      · have hcount := hperm.countP_eq (·.2 == i)
        simp only [List.countP_cons, beq_iff_eq] at hcount
        simp only [Slot.uses, empty, hcount, Option.map_some, Option.map_none, Option.toList_some,
          Option.toList_none, List.length_append, List.length_singleton, List.length_nil]
        split <;> omega
      · exact hp.gone k slot slot_eq
  | @takes job k slot_eq =>
      refine hp.of_set slot_eq rfl (fun i => ?_) (List.Subset.refl _) (by simp) (.refl _) rfl rfl
        rfl
      simp [Slot.uses, Worker.uses]
  | @finishes job k pending slot_eq =>
      refine hp.of_set slot_eq rfl (fun i => ?_) (List.subset_cons_self _ _) (by simp) (.refl _) rfl
        rfl rfl
      simp [Slot.uses, Worker.uses, List.count_cons]
      split <;> omega
  | @loses job k pending slot_eq =>
      refine hp.of_set slot_eq rfl (fun i => ?_) (List.Subset.refl _) (by simp) (.refl _) rfl rfl
        rfl
      simp [Slot.uses, Worker.uses]
  | stops unclaimed _ _ =>
      refine ⟨hp.single, hp.inside, fun i slot hslot hworker => ?_, hp.jobs, hp.issued,
        fun _ => unclaimed, hp.within⟩
      exact ⟨(hp.gone i slot hslot hworker).1, rfl⟩
  | @leaves k stopping slot_eq =>
      refine hp.of_set slot_eq rfl (fun i => ?_) (List.Subset.refl _) (fun _ => ⟨?_, stopping⟩)
        (.refl _) rfl rfl rfl
      · simp [Slot.uses, Worker.uses]
      · -- nothing is claimed during the shutdown, so the idle worker's slot is free
        have hone := hp.single k (List.getElem?_eq_some_iff.mp slot_eq).1
        rw [length_uses, hp.unclaimed stopping, slot_eq] at hone
        have hcount : p.free.count k = 1 := by simpa [Slot.uses, Worker.uses] using hone
        exact List.count_pos_iff.mp (hcount ▸ Nat.one_pos)

/-- A pool that was made is sound. -/
lemma sound_of_build {b : PoolBuilder} {threads : Option Nat} {p : Pool}
    (h : (b.build threads).1 = .ok p) : p.Sound := by
  obtain ⟨threads', rfl⟩ := build_eq_ok h
  have hlength : ∀ i, (uses
      ⟨List.replicate (initialSize b) .fresh, (List.range (initialSize b)).reverse, [], 0, 0,
        b.limit, b.name, threads', false, 0⟩ i).length = if i < initialSize b then 1 else 0 := by
    intro i
    rw [length_uses, List.count_reverse, List.nodup_range.count, List.getElem?_replicate]
    simp only [List.mem_range, List.countP_nil]
    split <;> rfl
  refine ⟨fun i hi => ?_, fun i hi => ?_, fun i slot hslot hworker => ?_, .nil, nofun,
    fun _ => rfl, fun n hn => ?_⟩
  · rw [size, List.length_replicate] at hi
    rw [hlength, if_pos hi]
  · rw [size, List.length_replicate] at hi
    rw [hlength, if_neg (Nat.not_lt.mpr hi)]
  · rw [(List.mem_replicate.mp (List.mem_of_getElem? hslot)).2] at hworker
    cases hworker
  · rw [size, List.length_replicate, initialSize, show b.limit = some n from hn]
    split
    · exact Nat.le_refl _
    · exact Nat.zero_le _

/-- A pool that was made is sound at any time. -/
lemma Sound.after {p : Pool} (hp : p.Sound) (ms : List Move) : (p.after ms).Sound :=
  Machine.history_rec (P := fun _ (q : Pool) => q.Sound) hp
    (fun _ s h => (Stride.effect s).sound h) ms

/-- What relates a sound pool to its history holds at the end of every run, if it holds at the
beginning and every stride keeps it; the strides start from sound pools. -/
theorem Sound.history_rec {P : List Stride → Pool → Prop} {p : Pool} (hp : p.Sound) (base : P [] p)
    (next : ∀ past (s : Stride), s.before.Sound → P past s.before → P (past ++ [s]) s.after)
    (ms : List Move) : P (p.strides ms) (p.after ms) :=
  (Machine.history_rec (P := fun past (q : Pool) => q.Sound ∧ P past q) ⟨hp, base⟩
    (fun past s h => ⟨(Stride.effect s).sound h.1, next past s h.1 h.2⟩) ms).2

/-- Replacing one slot leaves another one as it is. -/
lemma getElem?_set_of_ne {slots : List Slot} {k i : SlotId} {s t : Slot} (hk : slots[k]? = some s)
    (hi : slots[i]? = some t) (hne : s ≠ t) (s' : Slot) : (slots.set k s')[i]? = some t := by
  rw [List.getElem?_set_ne, hi]
  rintro rfl
  exact hne (Option.some.inj (hk.symm.trans hi))

/-- A submission that looks for a slot leaves the slots there are as they are. -/
lemma Looks.slots {p q : Pool} {notes : List JobNote} (h : Looks p q notes) {i : SlotId}
    {slot : Slot} (hslot : p.slots[i]? = some slot) : q.slots[i]? = some slot := by
  cases h with
  | starts _ _ _ =>
      rw [List.getElem?_append_left (List.getElem?_eq_some_iff.mp hslot).1]
      exact hslot
  | _ => exact hslot

/-- A slot whose worker was lost remains as it is. -/
lemma Effect.dead {p q : Pool} {m : Move} {notes : List JobNote} (h : Effect p m q notes)
    (hp : p.Sound) {i : SlotId} (hdead : p.slots[i]? = some Use.dead.slot) :
    q.slots[i]? = some Use.dead.slot := by
  cases h with
  | submits _ looks => exact looks.slots hdead
  | retries _ _ looks => exact looks.slots hdead
  | @handsOver job k slot claimed slot_eq empty =>
      exact getElem?_set_of_ne (hp.slot_of_claimed claimed) hdead (by simp [Use.slot, Slot.fresh]) _
  | takes slot_eq => exact getElem?_set_of_ne slot_eq hdead (by simp [Use.slot]) _
  | finishes slot_eq => exact getElem?_set_of_ne slot_eq hdead (by simp [Use.slot]) _
  | loses slot_eq => exact getElem?_set_of_ne slot_eq hdead (by simp [Use.slot]) _
  | stops _ _ _ => exact hdead
  | leaves _ slot_eq => exact getElem?_set_of_ne slot_eq hdead (by simp [Use.slot]) _

lemma mem_uses_dead {p : Pool} {i : SlotId} (hdead : p.slots[i]? = some Use.dead.slot) :
    .dead ∈ p.uses i :=
  mem_uses.mpr (.inr (.inr ⟨_, hdead, by simp [Slot.uses, Worker.uses, Use.slot]⟩))

/-- A dead slot is never used again. -/
lemma Sound.dead_after {p : Pool} (hp : p.Sound) {i : SlotId} (hdead : .dead ∈ p.uses i)
    (ms : List Move) : (p.after ms).uses i = [.dead] ∧ i ∉ (p.after ms).free := by
  have hslot : (p.after ms).slots[i]? = some Use.dead.slot :=
    hp.history_rec (P := fun _ q => q.slots[i]? = some Use.dead.slot) (hp.slot_eq hdead nofun)
      (fun _ s hs hslot => (Stride.effect s).dead hs hslot) ms
  have huses := (hp.after ms).uses_eq (mem_uses_dead hslot)
  refine ⟨huses, fun hfree => ?_⟩
  have hmem : .free ∈ (p.after ms).uses i := mem_uses.mpr (.inl ⟨rfl, hfree⟩)
  rw [huses] at hmem
  cases List.mem_singleton.mp hmem

/-- A submission neither begins the shutdown nor moves the limit. -/
lemma Looks.kept {p q : Pool} {notes : List JobNote} (h : Looks p q notes) :
    q.stopping = p.stopping ∧ q.limit = p.limit := by
  cases h <;> exact ⟨rfl, rfl⟩

/-- The shutdown begins with a move of its own. -/
lemma Effect.stopping_eq {p q : Pool} {m : Move} {notes : List JobNote} (h : Effect p m q notes)
    (hm : m ≠ .stop) : q.stopping = p.stopping := by
  cases h with
  | submits _ looks => exact looks.kept.1
  | retries _ _ looks => exact looks.kept.1
  | stops _ _ _ => exact absurd rfl hm
  | _ => rfl

lemma stopping_after {p : Pool} (running : p.stopping = false) {ms : List Move}
    (hms : .stop ∉ ms) : (p.after ms).stopping = false :=
  Machine.history_rec_of_mem (P := fun _ (q : Pool) => q.stopping = false) running
    fun _ s hm hrunning =>
      ((Stride.effect s).stopping_eq fun heq => hms (heq ▸ hm)).trans hrunning

lemma Effect.limit_eq {p q : Pool} {m : Move} {notes : List JobNote} (h : Effect p m q notes) :
    q.limit = p.limit := by
  cases h with
  | submits _ looks => exact looks.kept.2
  | retries _ _ looks => exact looks.kept.2
  | _ => rfl

lemma limit_after (p : Pool) (ms : List Move) : (p.after ms).limit = p.limit :=
  Machine.history_rec (P := fun _ (q : Pool) => q.limit = p.limit) rfl
    (fun _ s hs => (Stride.effect s).limit_eq.trans hs) ms

/-- There are never more free slots than slots. -/
lemma Sound.length_free_le {p : Pool} (hp : p.Sound) : p.free.length ≤ p.size := by
  have hsubset : p.free ⊆ List.range p.size := fun i hi =>
    List.mem_range.mpr (hp.lt_size (mem_uses.mpr (.inl ⟨rfl, hi⟩)))
  have hle := (List.subperm_of_subset hp.nodup_free hsubset).length_le
  rwa [List.length_range] at hle

/-- A slot is free or counts as active. -/
lemma Sound.active_add_length_free {p : Pool} (hp : p.Sound) :
    p.active + p.free.length = p.size :=
  Nat.sub_add_cancel hp.length_free_le

/-- **Every slot has exactly one use.** For a pool that was made by any plan, at every moment of any
run of submissions, hand-overs and steps of its workers: no slot stands on the free list twice, and
only slots of the pool do; a free slot is empty, and its worker is idle, or has ended if the pool
was shut down. Every other slot is used for one thing, and looks like it: one submission has
reserved it, it holds one job, its worker is running one job, or its worker was lost in a panic, and
then it remains so and never becomes free. There are never more slots than the plan allows.

So a submission that has chosen a slot always finds it empty and can hand its job over, and there
are never more free slots than slots. -/
theorem slots_have_one_use (b : PoolBuilder) (threads : Option Nat) (p : Pool)
    (h : (b.build threads).1 = .ok p) (ms : List Move) :
    (p.after ms).free.Nodup ∧
    (∀ i ∈ (p.after ms).free, i < (p.after ms).size ∧ (p.after ms).uses i = [.free] ∧
      ((p.after ms).slots[i]? = some ⟨none, .idle⟩ ∨
        .stop ∈ ms ∧ (p.after ms).slots[i]? = some ⟨none, .gone⟩)) ∧
    (∀ i < (p.after ms).size, i ∉ (p.after ms).free →
      ∃ u, u ≠ .free ∧ (p.after ms).uses i = [u] ∧ (p.after ms).slots[i]? = some u.slot) ∧
    (∀ i, .dead ∈ (p.after ms).uses i → ∀ ms',
      ((p.after ms).after ms').uses i = [.dead] ∧ i ∉ ((p.after ms).after ms').free) ∧
    (∀ limit, b.limit = some limit → (p.after ms).size ≤ limit) ∧
    (∀ job i, (job, i) ∈ (p.after ms).claims →
      (p.after ms).slots[i]? = some ⟨none, .idle⟩ ∧
        ∃ q, (p.after ms).step (.handOver job) = some q) ∧
    (p.after ms).active + (p.after ms).free.length = (p.after ms).size := by
  have hsound := (sound_of_build h).after ms
  obtain ⟨threads', hp⟩ := build_eq_ok h
  have hlimit : (p.after ms).limit = b.limit := by rw [limit_after, hp]
  refine ⟨hsound.nodup_free, fun i hi => ?_, fun i hi hfree => ?_,
    fun i hdead ms' => hsound.dead_after hdead ms', fun limit hb => ?_, fun job i hclaim => ?_,
    hsound.active_add_length_free⟩
  · have hmem : .free ∈ (p.after ms).uses i := mem_uses.mpr (.inl ⟨rfl, hi⟩)
    refine ⟨hsound.lt_size hmem, hsound.uses_eq hmem, ?_⟩
    refine (hsound.slot_of_free hi).imp_right fun hgone => ⟨?_, hgone.2⟩
    by_contra hms
    have hrunning := stopping_after (p := p) (by rw [hp]) hms
    simp [hrunning] at hgone
  · obtain ⟨u, hu⟩ := List.length_eq_one_iff.mp (hsound.single i hi)
    have hmem : u ∈ (p.after ms).uses i := hu ▸ List.mem_singleton_self u
    have hne : u ≠ .free := by
      rintro rfl
      rcases mem_uses.mp hmem with ⟨-, hlisted⟩ | ⟨job, heq, -⟩ | ⟨slot, hslot, hslot_uses⟩
      · exact hfree hlisted
      · cases heq
      · exact slot.free_notMem_uses hslot_uses
    exact ⟨u, hne, hu, hsound.slot_eq hmem hne⟩
  · exact hsound.within limit (hlimit.trans hb)
  · obtain ⟨q, hq, -⟩ := hsound.exists_handOver hclaim
    exact ⟨hsound.slot_of_claimed (hsound.lookup_eq hclaim), q, hq⟩

/-!
A run where every use occurs: the job of the first of three workers has panicked, the second worker
is idle again, and the third one is reserved for a fourth job.
-/

namespace UsedSlots

/-- A pool that has not started any of its three workers yet. -/
def made : Pool := start (some 3) defaultName none

/-- All that happens up to the fourth submission. -/
def moves : List Move :=
  [.submit, .handOver 0, .take 0, .submit, .submit, .handOver 1, .take 1, .handOver 2, .take 2,
    .lose 0, .finish 1, .finish 2, .submit]

/-- What happens afterwards. -/
def later : List Move := [.handOver 3, .take 2, .finish 0, .submit, .finish 2, .stop, .leave 2]

end UsedSlots

/-- Slot 0 is dead for good, slot 1 is free, and the job of the fourth submission can be handed over
to slot 2. -/
theorem slots_have_one_use_panicked :
    ((PoolBuilder.bounded 3).build none).1 = .ok UsedSlots.made ∧
      (1 ∈ (UsedSlots.made.after UsedSlots.moves).free ∧
        (UsedSlots.made.after UsedSlots.moves).uses 1 = [.free]) ∧
      (.dead ∈ (UsedSlots.made.after UsedSlots.moves).uses 0 ∧
        0 ∉ ((UsedSlots.made.after UsedSlots.moves).after UsedSlots.later).free) ∧
      (3, 2) ∈ (UsedSlots.made.after UsedSlots.moves).claims ∧
      ∃ q, (UsedSlots.made.after UsedSlots.moves).step (.handOver 3) = some q := by
  obtain ⟨-, hfree, -, hdead, -, hclaim, -⟩ :=
    slots_have_one_use (.bounded 3) none UsedSlots.made rfl UsedSlots.moves
  refine ⟨rfl, ⟨by decide, (hfree 1 (by decide)).2.1⟩, ⟨by decide, ?_⟩, by decide, ?_⟩
  · exact (hdead 0 (by decide) UsedSlots.later).2
  · exact (hclaim 3 2 (by decide)).2

end EventLoop.Pool
