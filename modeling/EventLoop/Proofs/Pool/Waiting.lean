import EventLoop.Proofs.Pool.Slots

/-!
Submissions that wait for a slot. They sleep until a slot is released, which wakes one of them; that
one looks for a slot again, and may find that another submission has taken it.

* `Attended` says that nobody sleeps in vain: the limit is reached then, and for every free slot
  somebody is awake. `Effect.attended` says that a move keeps this.
* `Sound.submit_eq_full_iff` says when a submission has to wait.
* `released` are the slots that were given back; `Sound.waiting_after` says what they are to those
  that wait.
* `Sound.retry_of_free` says that a submission that is awake is accepted if it finds a slot.
-/

namespace EventLoop.Pool

/-! ### Nobody sleeps in vain -/

/-- While submissions wait, the limit is reached; while some of them sleep, for every free slot one
that was woken is on its way; and none is left when the shutdown begins. -/
structure Attended (p : Pool) : Prop where
  full : 0 < p.sleeping + p.woken → p.limit = some p.size
  awake : 0 < p.sleeping → p.free.length ≤ p.woken
  ended : p.stopping = true → p.sleeping + p.woken = 0

/-- A pool at its limit has no room. -/
lemma hasRoom_of_limit {p : Pool} (h : p.limit = some p.size) : p.hasRoom = false := by
  simp [hasRoom, h]

/-- A pool without room is at its limit. -/
lemma Sound.limit_of_hasRoom {p : Pool} (hp : p.Sound) (h : p.hasRoom = false) :
    p.limit = some p.size := by
  cases hlimit : p.limit with
  | none => simp [hasRoom, hlimit] at h
  | some limit =>
      have hwithin := hp.within limit hlimit
      have hsize : limit ≤ p.size := by simpa [hasRoom, hlimit] using h
      rw [Nat.le_antisymm hsize hwithin]

/-- A submission that looks for a slot, a new one or one of those that were awake, keeps a pool
attended. -/
lemma Looks.attended {p q : Pool} {notes : List JobNote} {w : Nat}
    (h : Looks { p with woken := w } q notes) (hp : p.Sound) (ha : p.Attended)
    (running : p.stopping = false) (hle : w ≤ p.woken) (hge : p.woken ≤ w + 1) : q.Attended := by
  have hfull : 0 < p.sleeping + w → p.limit = some p.size := fun hpos => ha.full (by omega)
  have hbusy : p.free = [] → p.free.length ≤ w := fun busy => by
    rw [busy]
    exact Nat.zero_le w
  have hended : ∀ {n : Nat}, p.stopping = true → n = 0 := fun {n} hstopping => by
    rw [running] at hstopping
    cases hstopping
  cases h with
  | @reuses i free listed =>
      refine ⟨hfull, fun hpos => ?_, hended⟩
      have hlength : p.free.length = free.length + 1 := congrArg List.length listed
      have hawake := ha.awake hpos
      have hle : free.length ≤ w := by omega
      exact hle
  | starts threads busy room =>
      refine ⟨fun hpos => ?_, fun _ => hbusy busy, hended⟩
      -- at the limit there would be no room
      have hnone : hasRoom { p with woken := w } = false := hasRoom_of_limit (hfull hpos)
      rw [hnone] at room
      cases room
  | sleeps busy full =>
      exact ⟨fun _ => (hp.of_waiting p.sleeping w).limit_of_hasRoom full, fun _ => hbusy busy,
        hended⟩
  | fails busy _ => exact ⟨hfull, fun _ => hbusy busy, hended⟩

/-- **A move keeps a pool attended.** -/
theorem Effect.attended {p q : Pool} {m : Move} {notes : List JobNote} (h : Effect p m q notes)
    (hp : p.Sound) (ha : p.Attended) : q.Attended := by
  cases h with
  | submits running looks =>
      exact Looks.attended (p := p) (w := p.woken) looks hp ha running (Nat.le_refl _)
        (Nat.le_succ _)
  | retries running _ looks =>
      exact Looks.attended (p := p) (w := p.woken - 1) looks hp ha running (Nat.sub_le _ _)
        (by omega)
  | finishes _ =>
      obtain ⟨hfull, hawake, hended⟩ := ha
      refine ⟨fun hpos => ?_, fun hpos => ?_, fun hstopping => ?_⟩ <;> dsimp only at *
      · rw [size, List.length_set]
        exact hfull (by omega)
      · rw [List.length_cons]
        have := hawake (by omega)
        omega
      · have := hended hstopping
        omega
  | stops _ slept tried => exact ⟨ha.full, ha.awake, fun _ => by simp [slept, tried]⟩
  | _ =>
      refine ⟨fun hpos => ?_, ha.awake, ha.ended⟩
      rw [size, List.length_set]
      exact ha.full hpos

/-- A pool that was made is attended: nobody waits. -/
lemma attended_of_build {b : PoolBuilder} {threads : Option Nat} {p : Pool}
    (h : (b.build threads).1 = .ok p) : p.Attended := by
  obtain ⟨threads', rfl⟩ := build_eq_ok h
  exact ⟨nofun, nofun, fun _ => rfl⟩

lemma Attended.after {p : Pool} (ha : p.Attended) (hp : p.Sound) (ms : List Move) :
    (p.after ms).Attended :=
  hp.history_rec (P := fun _ q => q.Attended) ha
    (fun _ s hs hattended => (Stride.effect s).attended hs hattended) ms

/-- As long as submissions wait, the shutdown does not begin. -/
lemma Attended.running {p : Pool} (ha : p.Attended) (h : 0 < p.sleeping + p.woken) :
    p.stopping = false := by
  by_contra hstopping
  have := ha.ended (by simpa using hstopping)
  omega

/-! ### When a submission has to wait -/

/-- A submission has to wait if no worker is free and no more may be started. -/
lemma Sound.submit_eq_full_iff {p : Pool} (hp : p.Sound) :
    p.submit.2.1 = .full ↔ p.free = [] ∧ p.limit = some p.size := by
  cases hfree : p.free with
  | cons i free => simp [submit, hfree, claim]
  | nil =>
      cases hroom : p.hasRoom with
      | false => simp [submit, hfree, hroom, hp.limit_of_hasRoom hroom]
      | true =>
          have hlimit : p.limit ≠ some p.size := fun hlimit => by
            rw [hasRoom_of_limit hlimit] at hroom
            cases hroom
          cases hspawn : p.spawn <;> simp [submit, hfree, hroom, hspawn, claim, hlimit]

/-- Having to wait, it sleeps. -/
lemma submit_of_full {p : Pool} (h : p.submit.2.1 = .full) :
    p.submit.1 = { p with sleeping := p.sleeping + 1 } := by
  cases hfree : p.free with
  | cons i free => simp [submit, hfree, claim] at h
  | nil =>
      cases hroom : p.hasRoom with
      | false => simp [submit, hfree, hroom]
      | true => cases hspawn : p.spawn <;> simp [submit, hfree, hroom, hspawn, claim] at h

/-- A submission that was woken and finds a free worker is accepted, and can hand its job over. -/
lemma Sound.retry_of_free {p : Pool} (hp : p.Sound) (running : p.stopping = false)
    (awake : p.woken ≠ 0) {i : SlotId} {free : List SlotId} (listed : p.free = i :: free) :
    ∃ q, p.retry = some (q, .accepted p.nextJob i, [.handedToIdle i]) ∧ p.step .retry = some q ∧
      ∃ q', q.handOver p.nextJob = some q' := by
  have hretry : p.retry = some ({ p with
      free
      claims := (p.nextJob, i) :: p.claims
      woken := p.woken - 1
      nextJob := p.nextJob + 1 }, .accepted p.nextJob i, [.handedToIdle i]) :=
    retry_eq_some.mpr ⟨awake, by simp [submit, listed, claim]⟩
  have hsound := (Effect.retries running awake (.reuses listed)).sound hp
  obtain ⟨q', hq', -⟩ := hsound.exists_handOver (List.mem_cons_self ..)
  exact ⟨_, hretry, by simp [step, running, hretry], q', hq'⟩

/-! ### What wakes a submission -/

/-- The slot that a move releases. -/
def Move.released? : Move → Option SlotId
  | finish i => some i
  | _ => none

/-- The slots that were released, in their order. -/
def released (history : List Stride) : List SlotId := history.filterMap (·.move.released?)

/-- What was released piles up on the free list, and each time one of those that sleep is woken. -/
structure Piled (p q : Pool) (slots : List SlotId) : Prop where
  free : q.free = slots.reverse ++ p.free
  size : q.size = p.size
  sleeping : q.sleeping = p.sleeping - slots.length
  woken : q.woken = p.woken + min p.sleeping slots.length

lemma Piled.trans {p q r : Pool} {slots slots' : List SlotId} (h : Piled p q slots)
    (h' : Piled q r slots') : Piled p r (slots ++ slots') where
  free := by rw [h'.free, h.free, List.reverse_append, List.append_assoc]
  size := h'.size.trans h.size
  sleeping := by
    have := h'.sleeping
    have := h.sleeping
    rw [List.length_append]
    omega
  woken := by
    have := h'.woken
    have := h.sleeping
    have := h.woken
    rw [List.length_append]
    omega

/-- Where no submission looks for a slot, a move does nothing else for those that wait. -/
lemma Effect.piled {p q : Pool} {m : Move} {notes : List JobNote} (h : Effect p m q notes)
    (hsubmit : m ≠ .submit) (hretry : m ≠ .retry) : Piled p q m.released?.toList := by
  cases h with
  | submits _ _ => exact absurd rfl hsubmit
  | retries _ _ _ => exact absurd rfl hretry
  | stops _ _ _ => exact ⟨rfl, rfl, rfl, by simp [Move.released?]⟩
  | finishes _ => exact ⟨rfl, List.length_set, rfl, rfl⟩
  | _ => exact ⟨rfl, List.length_set, rfl, by simp [Move.released?]⟩

lemma piled_after (p : Pool) {ms : List Move} (hsubmit : .submit ∉ ms) (hretry : .retry ∉ ms) :
    Piled p (p.after ms) (released (p.strides ms)) := by
  refine Machine.history_rec_of_mem (P := fun past (q : Pool) => Piled p q (released past))
    ⟨rfl, rfl, rfl, by simp [released]⟩ ?_
  intro past s hmem hpast
  rw [released, List.filterMap_append]
  have hmove := (Stride.effect s).piled (fun heq => hsubmit (heq ▸ hmem))
    fun heq => hretry (heq ▸ hmem)
  have hreleased : [s].filterMap (·.move.released?) = s.move.released?.toList := by
    cases hmove : s.move.released? <;> simp [hmove]
  rw [hreleased]
  exact hpast.trans hmove

/-- **A submission that sleeps alone** does so until a slot is released. Then it is awake, and it is
accepted with the slot that was released last. -/
theorem Sound.waiting_after {p : Pool} (hp : p.Sound) (ha : p.Attended) (alone : p.sleeping = 1)
    (nobody : p.woken = 0) {ms : List Move} (hsubmit : .submit ∉ ms) (hretry : .retry ∉ ms) :
    (released (p.strides ms) = [] →
      (p.after ms).sleeping = 1 ∧ (p.after ms).woken = 0 ∧ (p.after ms).free = [] ∧
        (p.after ms).limit = some (p.after ms).size) ∧
    ∀ earlier i, released (p.strides ms) = earlier ++ [i] →
      (p.after ms).sleeping = 0 ∧ (p.after ms).woken = 1 ∧
      ∃ q, (p.after ms).retry = some (q, .accepted (p.after ms).nextJob i, [.handedToIdle i]) ∧
        (p.after ms).step .retry = some q ∧ ∃ q', q.handOver (p.after ms).nextJob = some q' := by
  have hsound := hp.after ms
  have hattended := ha.after hp ms
  obtain ⟨hfree, -, hsleeping, hwoken⟩ := piled_after p hsubmit hretry
  rw [alone] at hsleeping hwoken
  rw [nobody] at hwoken
  refine ⟨fun hnone => ?_, fun earlier i hreleased => ?_⟩
  · rw [hnone] at hsleeping hwoken
    have hawake := hattended.awake (by rw [hsleeping]; exact Nat.one_pos)
    rw [hwoken] at hawake
    exact ⟨hsleeping, hwoken, List.length_eq_zero_iff.mp (Nat.le_zero.mp hawake),
      hattended.full (by rw [hsleeping]; exact Nat.add_pos_left Nat.one_pos _)⟩
  · rw [hreleased, List.length_append, List.length_singleton] at hsleeping hwoken
    have hone : (p.after ms).woken = 1 := by omega
    rw [hreleased, List.reverse_concat] at hfree
    exact ⟨by omega, hone, hsound.retry_of_free (hattended.running (by omega)) (by omega) hfree⟩

end EventLoop.Pool
