import EventLoop.Proofs.Timer.Table

/-!
The table of pending timers and its index are one finite map. The map knows of every number the
deadline and what the timer carries; it has no order, and looks for the first timer when it needs
it.

* `PlainTimers` is the map with its counter; `PlainTimers.insert`, `PlainTimers.remove`,
  `PlainTimers.popDue`, `PlainTimers.nextDeadline?` and `PlainTimers.size` are its operations.
* `Timers.Op` lists the operations of a table, `Timers.Answer` what they answer; `answers` and
  `after` are the runs of either table.
* `Timers.Mirrors` says that a table has the timers of a map, and `Mirrors.perform` that the two
  answer alike and stay alike.
* `table_answers_as_finite_map` is the main statement here.
-/

namespace EventLoop

/-- Pending timers without an order, with the number that the next timer gets. -/
structure PlainTimers (α : Type) where
  pending : Std.ExtTreeMap TimerId (Instant × α)
  nextId : TimerId

namespace PlainTimers

variable {α : Type}

/-- A map without timers. -/
def empty : PlainTimers α := ⟨∅, 0⟩

/-- The places of the pending timers in the order of firing, in any order. -/
def keys (p : PlainTimers α) : List TimerKey := p.pending.toList.map fun e => ⟨e.2.1, e.1⟩

/-- The place before which there is no other. -/
def first? (p : PlainTimers α) : Option TimerKey :=
  p.keys.find? fun key => p.keys.all fun other => other = key || key.before other

/-- Adds a timer under the next number. -/
def insert (p : PlainTimers α) (deadline : Instant) (payload : α) : PlainTimers α × TimerId :=
  (⟨p.pending.insert p.nextId (deadline, payload), p.nextId + 1⟩, p.nextId)

/-- Deletes the entry of a number and hands back what it carried, if there is one. -/
def remove (p : PlainTimers α) (id : TimerId) : PlainTimers α × Option α :=
  ({ p with pending := p.pending.erase id }, p.pending[id]?.map (·.2))

/-- Deletes the entry of the first timer and hands it back, if its deadline has been reached. -/
def popDue (p : PlainTimers α) (now : Instant) : PlainTimers α × Option (TimerId × α) :=
  match p.first? with
  | none => (p, none)
  | some key =>
    if key.deadline ≤ now then
      ((p.remove key.id).1, (p.remove key.id).2.map fun payload => (key.id, payload))
    else (p, none)

/-- The earliest deadline. -/
def nextDeadline? (p : PlainTimers α) : Option Instant := (p.keys.map (·.deadline)).min?

/-- How many entries there are. -/
def size (p : PlainTimers α) : Nat := p.pending.size

lemma mem_keys {p : PlainTimers α} {key : TimerKey} :
    key ∈ p.keys ↔ ∃ payload, p.pending[key.id]? = some (key.deadline, payload) := by
  simp only [keys, List.mem_map, Prod.exists]
  constructor
  · rintro ⟨id, d, payload, hmem, rfl⟩
    exact ⟨payload, Std.ExtTreeMap.mem_toList_iff_getElem?_eq_some.mp hmem⟩
  · rintro ⟨payload, hpending⟩
    exact ⟨key.id, key.deadline, payload,
      Std.ExtTreeMap.mem_toList_iff_getElem?_eq_some.mpr hpending, rfl⟩

lemma nodup_keys (p : PlainTimers α) : p.keys.Nodup := by
  refine List.pairwise_map.mpr (Std.ExtTreeMap.distinct_keys_toList.imp ?_)
  rintro ⟨id, d, _⟩ ⟨id', d', _⟩ hne heq
  simp only [TimerKey.mk.injEq] at heq
  exact hne (Std.compare_eq_iff_eq.mpr heq.2)

/-- A place that comes before all others is the one that is found. -/
lemma first?_eq_some {p : PlainTimers α} {key : TimerKey} (hkey : key ∈ p.keys)
    (hfirst : ∀ other ∈ p.keys, other = key ∨ key.before other = true) : p.first? = some key := by
  have hall : (p.keys.all fun other => other = key || key.before other) = true := by
    simpa using hfirst
  cases hfound : p.first? with
  | none => exact absurd hall (List.find?_eq_none.mp hfound key hkey)
  | some found =>
      have hmem := List.mem_of_find?_eq_some hfound
      have hleast := List.find?_some hfound
      simp only [List.all_eq_true, Bool.or_eq_true, decide_eq_true_eq] at hleast
      -- two places that come before all others are the same
      rcases hfirst found hmem with rfl | hbefore
      · rfl
      · rcases hleast key hkey with rfl | hafter
        · rfl
        · rw [TimerKey.before_asymm hbefore] at hafter
          cases hafter

end PlainTimers

/-! ### Operations and their answers -/

namespace Timers

variable {α σ : Type}

/-- What can be asked of pending timers. -/
inductive Op (α : Type) where
  | insert (deadline : Instant) (payload : α)
  | remove (id : TimerId)
  | popDue (now : Instant)
  | nextDeadline
  | size

/-- What comes back. -/
inductive Answer (α : Type) where
  | added (id : TimerId)
  | removed (payload : Option α)
  | popped (timer : Option (TimerId × α))
  | earliest (deadline : Option Instant)
  | count (value : Nat)

/-- Does an operation on a table. -/
def perform (t : Timers α) : Op α → Timers α × Answer α
  | .insert deadline payload =>
    let (t, id) := t.insert deadline payload
    (t, .added id)
  | .remove id =>
    let (t, payload) := t.remove id
    (t, .removed payload)
  | .popDue now =>
    let (t, timer) := t.popDue now
    (t, .popped timer)
  | .nextDeadline => (t, .earliest t.nextDeadline?)
  | .size => (t, .count t.size)

/-- What a sequence of operations answers, given how each is done. -/
def answers (perform : σ → Op α → σ × Answer α) (s : σ) : List (Op α) → List (Answer α)
  | [] => []
  | op :: ops => (perform s op).2 :: answers perform (perform s op).1 ops

/-- What a sequence of operations leads to, given how each is done. -/
def after (perform : σ → Op α → σ × Answer α) (s : σ) (ops : List (Op α)) : σ :=
  ops.foldl (fun s op => (perform s op).1) s

end Timers

namespace PlainTimers

variable {α : Type}

/-- Does an operation on a map. -/
def perform (p : PlainTimers α) : Timers.Op α → PlainTimers α × Timers.Answer α
  | .insert deadline payload =>
    let (p, id) := p.insert deadline payload
    (p, .added id)
  | .remove id =>
    let (p, payload) := p.remove id
    (p, .removed payload)
  | .popDue now =>
    let (p, timer) := p.popDue now
    (p, .popped timer)
  | .nextDeadline => (p, .earliest p.nextDeadline?)
  | .size => (p, .count p.size)

end PlainTimers

/-! ### A table and the map of its timers -/

namespace Timers

variable {α : Type}

/-- A sound table has the timers of a map, and the same number comes next. -/
structure Mirrors (t : Timers α) (p : PlainTimers α) : Prop where
  sound : t.Sound
  pending : ∀ (id : TimerId) (d : Instant) (payload : α),
    p.pending[id]? = some (d, payload) ↔ (⟨d, id⟩, payload) ∈ t.entries
  nextId : p.nextId = t.nextId

variable {t t' : Timers α} {p : PlainTimers α}

lemma mirrors_empty : (empty : Timers α).Mirrors .empty where
  sound := sound_empty
  pending id d payload := by simp [empty, PlainTimers.empty]
  nextId := rfl

lemma Mirrors.mem_keys (h : t.Mirrors p) {key : TimerKey} :
    key ∈ p.keys ↔ ∃ payload, (key, payload) ∈ t.entries := by
  rw [PlainTimers.mem_keys]
  exact exists_congr fun payload => h.pending key.id key.deadline payload

lemma Mirrors.keys_perm (h : t.Mirrors p) : p.keys.Perm (t.entries.map Prod.fst) := by
  rw [List.perm_ext_iff_of_nodup p.nodup_keys h.sound.nodup_keys]
  intro key
  rw [h.mem_keys, List.mem_map]
  constructor
  · rintro ⟨payload, hmem⟩
    exact ⟨_, hmem, rfl⟩
  · rintro ⟨⟨_, payload⟩, hmem, rfl⟩
    exact ⟨payload, hmem⟩

lemma Mirrors.size_eq (h : t.Mirrors p) : p.size = t.size := by
  have hlength := h.keys_perm.length_eq
  rwa [PlainTimers.keys, List.length_map, List.length_map,
    Std.ExtTreeMap.length_toList] at hlength

lemma Mirrors.nextDeadline?_eq (h : t.Mirrors p) : p.nextDeadline? = t.nextDeadline? := by
  have hmem {d : Instant} :
      d ∈ p.keys.map (·.deadline) ↔ d ∈ (t.entries.map Prod.fst).map TimerKey.deadline :=
    (h.keys_perm.map _).mem_iff
  rw [nextDeadline?, PlainTimers.nextDeadline?]
  cases hentries : t.entries with
  | nil =>
      rw [hentries] at hmem
      rw [List.head?_nil, Option.map_none, List.min?_eq_none_iff]
      exact List.eq_nil_iff_forall_not_mem.mpr fun d hd => by simpa using hmem.mp hd
  | cons head rest =>
      have hsorted := h.sound.sorted
      rw [hentries, List.pairwise_cons] at hsorted
      rw [hentries] at hmem
      rw [List.head?_cons, Option.map_some, List.min?_eq_some_iff]
      refine ⟨hmem.mpr (by simp), fun d hd => ?_⟩
      obtain ⟨key, hkey, rfl⟩ := List.mem_map.mp (hmem.mp hd)
      obtain ⟨e, he, rfl⟩ := List.mem_map.mp hkey
      rcases List.mem_cons.mp he with rfl | he
      · exact Int.le_refl _
      · rcases TimerKey.before_iff.mp (hsorted.1 e he) with hlt | ⟨heq, -⟩
        · exact Int.le_of_lt hlt
        · exact Int.le_of_eq heq

/-- What the loss of a timer leaves is what the map has without its number. -/
lemma Mirrors.lost (h : t.Mirrors p) {key : TimerKey} {payload : α}
    (hlost : t.Lost key payload t') :
    t'.Mirrors (p.remove key.id).1 ∧ (p.remove key.id).2 = some payload := by
  refine ⟨⟨hlost.sound h.sound, fun id d payload' => ?_, h.nextId.trans hlost.nextId.symm⟩, ?_⟩
  · simp only [PlainTimers.remove, Std.ExtTreeMap.getElem?_erase, Std.compare_eq_iff_eq,
      hlost.mem_iff h.sound]
    split
    · next hid => simp [hid]
    · next hid => simp [h.pending, Ne.symm hid]
  · have hpending := (h.pending key.id key.deadline payload).mpr hlost.mem
    rw [PlainTimers.remove, hpending]
    rfl

/-- Withdrawing a number that is not pending deletes nothing. -/
lemma Mirrors.remove_of_not_mem (h : t.Mirrors p) {id : TimerId} (hid : id ∉ t.ids) :
    p.remove id = (p, none) := by
  have hnone : p.pending[id]? = none := by
    cases hpending : p.pending[id]? with
    | none => rfl
    | some e =>
        have hmem := (h.pending id e.1 e.2).mp hpending
        exact absurd (mem_ids.mpr ⟨_, hmem, rfl⟩) hid
  have herase : p.pending.erase id = p.pending := by
    refine Std.ExtTreeMap.ext_getElem? fun other => ?_
    rw [Std.ExtTreeMap.getElem?_erase]
    split
    · next heq => rw [← Std.compare_eq_iff_eq.mp heq, hnone]
    · rfl
  rw [PlainTimers.remove, hnone, herase]
  rfl

/-- Where every timer is late, the first one is. -/
lemma Mirrors.popDue_of_late (h : t.Mirrors p) {now : Instant}
    (hlate : ∀ e ∈ t.entries, now < e.1.deadline) : p.popDue now = (p, none) := by
  rw [PlainTimers.popDue]
  split
  · rfl
  · next key hkey =>
      obtain ⟨payload, hmem⟩ := h.mem_keys.mp (List.mem_of_find?_eq_some hkey)
      exact if_neg (Int.not_le.mpr (hlate _ hmem))

/-- The first timer of the table is the first of the map, and is deleted when it is due. -/
lemma Mirrors.popDue_of_due (h : t.Mirrors p) {key : TimerKey} {payload : α} {now : Instant}
    (hlost : t.Lost key payload t')
    (hfirst : ∀ e ∈ t.entries, e.1 = key ∨ key.before e.1 = true) (hdue : key.deadline ≤ now) :
    t'.Mirrors (p.popDue now).1 ∧ (p.popDue now).2 = some (key.id, payload) := by
  obtain ⟨hmirrors, hremoved⟩ := h.lost hlost
  have hfound : p.first? = some key := by
    refine PlainTimers.first?_eq_some (h.mem_keys.mpr ⟨payload, hlost.mem⟩) fun other hother => ?_
    obtain ⟨payload', hmem⟩ := h.mem_keys.mp hother
    exact hfirst _ hmem
  rw [PlainTimers.popDue, hfound]
  dsimp only
  rw [if_pos hdue]
  exact ⟨hmirrors, by rw [hremoved]; rfl⟩

lemma Mirrors.insert (h : t.Mirrors p) (deadline : Instant) (payload : α) :
    (t.insert deadline payload).1.Mirrors (p.insert deadline payload).1 where
  sound := sound_insert h.sound deadline payload
  pending id d payload' := by
    have hissued := h.sound.issued
    simp only [PlainTimers.insert, Std.ExtTreeMap.getElem?_insert, Std.compare_eq_iff_eq, h.nextId,
      mem_insert, Prod.mk.injEq, TimerKey.mk.injEq]
    split
    · next hid =>
        subst hid
        have hfree : (⟨d, t.nextId⟩, payload') ∉ t.entries := fun hmem =>
          Nat.lt_irrefl _ (hissued _ hmem)
        simp [hfree, eq_comm]
    · next hid => simp [h.pending, Ne.symm hid]
  nextId := congrArg (· + 1) h.nextId

/-- **A table and its map answer alike**, and the table has the timers of the map afterwards. -/
theorem Mirrors.perform (h : t.Mirrors p) (op : Op α) :
    (t.perform op).2 = (p.perform op).2 ∧ (t.perform op).1.Mirrors (p.perform op).1 := by
  cases op with
  | insert deadline payload =>
      exact ⟨congrArg Answer.added h.nextId.symm, h.insert deadline payload⟩
  | remove id =>
      rcases remove_outcome h.sound id with ⟨hid, hkept⟩ | ⟨key, payload, rfl, hanswer, hlost⟩
      · simp only [Timers.perform, PlainTimers.perform, hkept, h.remove_of_not_mem hid]
        exact ⟨trivial, h⟩
      · obtain ⟨hmirrors, hremoved⟩ := h.lost hlost
        simp only [Timers.perform, PlainTimers.perform, hanswer, hremoved]
        exact ⟨trivial, hmirrors⟩
  | popDue now =>
      rcases popDue_outcome h.sound now with
        ⟨hlate, hkept⟩ | ⟨key, payload, hdue, hfirst, hpop, hlost⟩
      · simp only [Timers.perform, PlainTimers.perform, hkept, h.popDue_of_late hlate]
        exact ⟨trivial, h⟩
      · obtain ⟨hmirrors, hpopped⟩ := h.popDue_of_due hlost hfirst hdue
        simp only [Timers.perform, PlainTimers.perform, hpop, hpopped]
        exact ⟨trivial, hmirrors⟩
  | nextDeadline => exact ⟨congrArg Answer.earliest h.nextDeadline?_eq.symm, h⟩
  | size => exact ⟨congrArg Answer.count h.size_eq.symm, h⟩

/-- The same for a sequence of operations. -/
lemma Mirrors.run (h : t.Mirrors p) (ops : List (Op α)) :
    answers Timers.perform t ops = answers PlainTimers.perform p ops ∧
      (after Timers.perform t ops).Mirrors (after PlainTimers.perform p ops) := by
  induction ops generalizing t p with
  | nil => exact ⟨rfl, h⟩
  | cons op ops ih =>
      obtain ⟨hanswer, hnext⟩ := h.perform op
      obtain ⟨hanswers, hafter⟩ := ih hnext
      exact ⟨by rw [answers, answers, hanswer, hanswers], hafter⟩

/-- **A table of timers is a finite map**: every sequence of operations is answered as by the map
from numbers to deadlines and what is carried. After it the ordered entries are those of the map,
the index knows exactly their numbers and deadlines, and a number that the index knows is withdrawn
with its entry. -/
theorem table_answers_as_finite_map (ops : List (Op α)) :
    let t := after Timers.perform (empty : Timers α) ops
    let p := after PlainTimers.perform (PlainTimers.empty : PlainTimers α) ops
    answers Timers.perform empty ops = answers PlainTimers.perform PlainTimers.empty ops ∧
      t.entries.Pairwise (fun a b => a.1.before b.1 = true) ∧
      (∀ (id : TimerId) (d : Instant) (payload : α),
        p.pending[id]? = some (d, payload) ↔ (⟨d, id⟩, payload) ∈ t.entries) ∧
      (∀ (id : TimerId) (d : Instant),
        t.index[id]? = some d ↔ ∃ payload, (⟨d, id⟩, payload) ∈ t.entries) ∧
      ∀ id : TimerId, t.index[id]?.isSome → (t.remove id).2.isSome := by
  intro t p
  obtain ⟨hanswers, hmirrors⟩ := (mirrors_empty (α := α)).run ops
  refine ⟨hanswers, hmirrors.sound.sorted, hmirrors.pending, hmirrors.sound.index, fun id hid => ?_⟩
  obtain ⟨d, hd⟩ := Option.isSome_iff_exists.mp hid
  obtain ⟨payload, hmem⟩ := (hmirrors.sound.index id d).mp hd
  rcases remove_outcome hmirrors.sound id with ⟨hnone, -⟩ | ⟨_, _, -, hremoved, -⟩
  · exact absurd (mem_ids.mpr ⟨_, hmem, rfl⟩) hnone
  · rw [hremoved]
    rfl

/-- Two of three timers are left, and the index leads to the first of them. -/
theorem table_answers_as_finite_map_withdrawn :
    let t := after perform (empty : Timers Nat)
      [.insert 5 70, .insert 5 80, .insert 3 90, .popDue 4]
    t.index[(0 : TimerId)]?.isSome ∧ (t.remove 0).2.isSome :=
  ⟨rfl, (table_answers_as_finite_map
    [.insert 5 70, .insert 5 80, .insert 3 90, .popDue 4]).2.2.2.2 0 rfl⟩

/-- Two timers with one deadline, and an earlier one that was added last. -/
example :
    answers perform (empty : Timers Nat)
      [.insert 5 70, .insert 5 80, .insert 3 90, .popDue 2, .popDue 5, .remove 2, .remove 1,
        .nextDeadline, .size] =
      [.added 0, .added 1, .added 2, .popped none, .popped (some (2, 90)), .removed none,
        .removed (some 80), .earliest (some 5), .count 1] := rfl

end Timers

end EventLoop
