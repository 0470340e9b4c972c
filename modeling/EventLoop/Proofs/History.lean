import EventLoop.Proofs.Map
import EventLoop.Proofs.Tokens

/-!
The table of registrations, told by what happened. A callback is registered when it was the last one
added for its descriptor in a direction and was not removed since.

* `Stride.Removes` says that a move took from a descriptor what it had in a direction, and
  `Registered` what is left of all additions and removals.
* `handlerOf_iff_registered` says that the table holds exactly the registered callbacks.
* `Stride.Adds.eq` says that no callback is added twice.
-/

namespace EventLoop.Loop

open Reactor (Direction)

variable {ι : Type}

/-- The move takes from a descriptor what it has in a direction. -/
def Stride.Removes (s : Stride ι) (fd : Fd) (d : Direction) : Prop :=
  ∃ i : Interest, s.move = .remove fd i ∧ i.covers d = true ∧ s.reply = .flag true

/-- The callback was the last one that was added for the descriptor in a direction, and it was not
removed since. -/
def Registered (past : List (Stride ι)) (fd : Fd) (d : Direction) (callback : CallbackId) : Prop :=
  ∃ earlier s later, past = earlier ++ s :: later ∧ s.Adds fd d callback ∧
    ∀ t ∈ later, ¬t.Removes fd d ∧ ∀ other, ¬t.Adds fd d other

/-- What is registered after one more move. -/
lemma registered_concat {past : List (Stride ι)} {s : Stride ι} {fd : Fd} {d : Direction}
    {callback : CallbackId} :
    Registered (past ++ [s]) fd d callback ↔ s.Adds fd d callback ∨
      Registered past fd d callback ∧ ¬s.Removes fd d ∧ ∀ other, ¬s.Adds fd d other := by
  constructor
  · rintro ⟨earlier, a, later, hcut, hadds, hlater⟩
    rcases List.eq_nil_or_concat later with rfl | ⟨init, last, rfl⟩
    · obtain ⟨-, hlast⟩ := List.append_inj' hcut rfl
      obtain rfl := List.singleton_inj.mp hlast
      exact .inl hadds
    · rw [List.concat_eq_append, ← List.cons_append, ← List.append_assoc] at hcut
      obtain ⟨rfl, hlast⟩ := List.append_inj' hcut rfl
      obtain rfl := List.singleton_inj.mp hlast
      refine .inr ⟨⟨earlier, a, init, rfl, hadds, fun t ht => hlater t (by simp [ht])⟩, ?_⟩
      exact hlater s (by simp)
  · rintro (hadds | ⟨⟨earlier, a, later, rfl, hadds, hlater⟩, hs⟩)
    · exact ⟨past, s, [], rfl, hadds, by simp⟩
    · refine ⟨earlier, a, later ++ [s], by simp, hadds, fun t ht => ?_⟩
      rcases List.mem_append.mp ht with ht | ht
      · exact hlater t ht
      · obtain rfl := List.mem_singleton.mp ht
        exact hs

/-! ### What a move does to the callbacks of a descriptor -/

lemma Change.handlerOf_other {l : Loop ι} {m : Move ι} {reply : Reply ι} {r : Reactor ι}
    (h : Change l m reply r) (hl : l.reactor.registry.Sound) (hadd : ∀ fd i, m ≠ .add fd i)
    (hremove : ∀ fd i, m ≠ .remove fd i) (x : Fd) (d : Direction) :
    r.handlerOf x d = l.reactor.handlerOf x d := by
  cases h with
  | add fd i => exact absurd rfl (hadd fd i)
  | remove fd i => exact absurd rfl (hremove fd i)
  | requestWrite fd => exact (l.reactor.requested fd).handlerOf x d
  | takeWrite found armed handler =>
      have entry := (hl.resolve_eq_found.mp found).1
      exact (l.reactor.taken _ armed handler).handlerOf entry x d
  | file _ => rfl
  | breakWatching => rfl
  | same _ registrations => rw [Reactor.handlerOf, Reactor.handlerOf, registrations.registry]

lemma Stride.not_adds {s : Stride ι} (hm : ∀ fd i, s.move ≠ .add fd i) (fd : Fd) (d : Direction)
    (callback : CallbackId) : ¬s.Adds fd d callback := by
  rintro ⟨i, hi, -⟩
  exact hm fd i hi

lemma Stride.not_removes {s : Stride ι} (hm : ∀ fd i, s.move ≠ .remove fd i) (fd : Fd)
    (d : Direction) : ¬s.Removes fd d := by
  rintro ⟨i, hi, -⟩
  exact hm fd i hi

lemma Stride.adds_iff {s : Stride ι} {x : Fd} {i : Interest} {b : Bool}
    (hm : s.move = .add x i) (hb : s.reply = .flag b) (fd : Fd) (d : Direction)
    (callback : CallbackId) :
    s.Adds fd d callback ↔
      (b = true ∧ x = fd ∧ i.covers d = true) ∧ s.before.nextCallback = callback := by
  constructor
  · rintro ⟨j, hj, hcovers, hreply, hcallback⟩
    rw [hm] at hj
    rw [hb] at hreply
    cases hj
    cases hreply
    exact ⟨⟨rfl, rfl, hcovers⟩, hcallback⟩
  · rintro ⟨⟨rfl, rfl, hcovers⟩, hcallback⟩
    exact ⟨i, hm, hcovers, hb, hcallback⟩

lemma Stride.removes_iff {s : Stride ι} {x : Fd} {i : Interest} {b : Bool}
    (hm : s.move = .remove x i) (hb : s.reply = .flag b) (fd : Fd) (d : Direction) :
    s.Removes fd d ↔ b = true ∧ x = fd ∧ i.covers d = true := by
  constructor
  · rintro ⟨j, hj, hcovers, hreply⟩
    rw [hm] at hj
    rw [hb] at hreply
    cases hj
    cases hreply
    exact ⟨rfl, rfl, hcovers⟩
  · rintro ⟨rfl, rfl, hcovers⟩
    exact ⟨i, hm, hcovers, hb⟩

/-- A move that adds a callback puts it into the table, one that removes callbacks takes them out,
and no other move changes them. -/
lemma Stride.handlerOf_eq_some {s : Stride ι} (hs : s.before.reactor.registry.Sound) (fd : Fd)
    (d : Direction) (callback : CallbackId) :
    s.after.reactor.handlerOf fd d = some callback ↔ s.Adds fd d callback ∨
      s.before.reactor.handlerOf fd d = some callback ∧ ¬s.Removes fd d ∧
        ∀ other, ¬s.Adds fd d other := by
  by_cases hadd : ∃ x i, s.move = .add x i
  · obtain ⟨x, i, hm⟩ := hadd
    obtain ⟨b, hb, hadded⟩ := Stride.added hm
    have hremoves := s.not_removes (by simp [hm]) fd d
    have hadds := Stride.adds_iff hm hb fd d
    rw [hadded.handlerOf fd d]
    split
    · next h => simp [hadds, h]
    · next h => simp [hadds, h, hremoves]
  · have hadds := s.not_adds (fun x i hm => hadd ⟨x, i, hm⟩) fd d
    by_cases hremove : ∃ x i, s.move = .remove x i
    · obtain ⟨x, i, hm⟩ := hremove
      obtain ⟨b, hb, hremoved⟩ := Stride.removed hm
      rw [hremoved.handlerOf fd d, Stride.removes_iff hm hb]
      split
      · next h => simp [hadds, h]
      · next h => simp [hadds, h]
    · have hremoves := s.not_removes (fun x i hm => hremove ⟨x, i, hm⟩) fd d
      rw [s.change.handlerOf_other hs (fun x i hm => hadd ⟨x, i, hm⟩)
        (fun x i hm => hremove ⟨x, i, hm⟩)]
      simp [hadds, hremoves]

/-- **The table holds the registered callbacks**, each for its descriptor in its direction. -/
theorem handlerOf_iff_registered (kernel : Kernel) (capacity : Nat) (ms : List (Move ι)) (fd : Fd)
    (d : Direction) (callback : CallbackId) :
    ((start kernel capacity).after ms).reactor.handlerOf fd d = some callback ↔
      Registered ((start kernel capacity).strides ms) fd d callback := by
  refine history_rec_of_sound
    (P := fun past l => l.reactor.handlerOf fd d = some callback ↔ Registered past fd d callback)
    Registry.sound_empty ?_ ?_ ms
  · simp [start, Reactor.start, Reactor.handlerOf, Registered]
  · intro past s hs ih
    rw [s.handlerOf_eq_some hs, registered_concat, ih]

/-! ### The numbers of callbacks -/

lemma nextCallback_le_after (l : Loop ι) (ms : List (Move ι)) :
    l.nextCallback ≤ (l.after ms).nextCallback :=
  history_rec (P := fun _ l' => l.nextCallback ≤ l'.nextCallback) (Nat.le_refl _)
    (fun _ s h => Nat.le_trans h (s.nextCallback ▸ Nat.le_add_right _ _)) ms

/-- A callback added later is another one. -/
lemma Stride.Adds.ne {l : Loop ι} {ms : List (Move ι)} {past later : List (Stride ι)}
    {s t : Stride ι} (hcut : l.strides ms = past ++ s :: later) (ht : t ∈ later) {fd fd' : Fd}
    {d d' : Direction} {callback callback' : CallbackId} (h : s.Adds fd d callback)
    (h' : t.Adds fd' d' callback') : callback ≠ callback' := by
  obtain ⟨i, hm, -, -, rfl⟩ := h
  obtain ⟨-, -, -, -, rfl⟩ := h'
  obtain ⟨-, ms₂, -, -, rfl, -⟩ := exists_moves_of_strides_eq hcut
  obtain ⟨ms₃, hms₃⟩ := exists_after_eq_before ht
  have hle := nextCallback_le_after s.after ms₃
  have hnext := s.nextCallback
  rw [hm] at hnext
  rw [hms₃, hnext] at hle
  exact Nat.ne_of_lt hle

/-- No callback is added twice. -/
lemma Stride.Adds.eq {l : Loop ι} {ms : List (Move ι)} {s t : Stride ι} (hs : s ∈ l.strides ms)
    (ht : t ∈ l.strides ms) {fd fd' : Fd} {d d' : Direction} {callback : CallbackId}
    (h : s.Adds fd d callback) (h' : t.Adds fd' d' callback) : s = t := by
  obtain ⟨past, later, hcut⟩ := List.append_of_mem hs
  rw [hcut, List.mem_append, List.mem_cons] at ht
  rcases ht with ht | rfl | ht
  · obtain ⟨past', middle, rfl⟩ := List.append_of_mem ht
    rw [List.append_assoc, List.cons_append] at hcut
    exact absurd rfl (h'.ne hcut (by simp) h)
  · rfl
  · exact absurd rfl (h.ne hcut ht h')

lemma Registered.exists_adds {past : List (Stride ι)} {fd : Fd} {d : Direction}
    {callback : CallbackId} (h : Registered past fd d callback) :
    ∃ s ∈ past, s.Adds fd d callback := by
  obtain ⟨earlier, s, later, rfl, hs, -⟩ := h
  exact ⟨s, by simp, hs⟩

/-- A registered callback was added for its descriptor and for no other. -/
lemma Registered.fd_eq {l : Loop ι} {ms : List (Move ι)} {past : List (Stride ι)}
    (hpast : past ⊆ l.strides ms) {fd fd' : Fd} {d d' : Direction} {callback : CallbackId}
    (h : Registered past fd d callback) {s : Stride ι} (hs : s ∈ l.strides ms)
    (hadds : s.Adds fd' d' callback) : fd = fd' := by
  obtain ⟨t, ht, hadds'⟩ := h.exists_adds
  obtain rfl := hadds'.eq (hpast ht) hs hadds
  exact hadds'.fd_eq hadds

/-- No two descriptors have the same callback. -/
lemma fd_eq_of_handlerOf (kernel : Kernel) (capacity : Nat) (ms : List (Move ι)) {fd fd' : Fd}
    {d d' : Direction} {callback : CallbackId}
    (h : ((start kernel capacity).after ms).reactor.handlerOf fd d = some callback)
    (h' : ((start kernel capacity).after ms).reactor.handlerOf fd' d' = some callback) :
    fd = fd' := by
  rw [handlerOf_iff_registered] at h h'
  obtain ⟨s, hs, hadds⟩ := h'.exists_adds
  exact h.fd_eq (List.Subset.refl _) hs hadds

/-- The number of a registered callback was given before. -/
lemma Registered.lt_nextCallback {l : Loop ι} {ms : List (Move ι)} {fd : Fd} {d : Direction}
    {callback : CallbackId} (h : Registered (l.strides ms) fd d callback) :
    callback < (l.after ms).nextCallback := by
  obtain ⟨_, s, _, hcut, ⟨i, hm, -, -, rfl⟩, -⟩ := h
  obtain ⟨-, ms₂, -, -, -, hafter⟩ := exists_moves_of_strides_eq hcut
  have hnext := s.nextCallback
  rw [hm] at hnext
  rw [← hafter]
  exact Nat.lt_of_lt_of_le (hnext ▸ Nat.lt_succ_self _) (nextCallback_le_after s.after ms₂)

end EventLoop.Loop
