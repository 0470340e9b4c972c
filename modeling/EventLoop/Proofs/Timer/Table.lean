import Mathlib.Data.List.Nodup
import Mathlib.Data.List.Pairwise
import Mathlib.Tactic.Lemma
import EventLoop.Timer.Table

/-!
The table of pending timers: its entries stand in the order of firing, and its index leads to them.

* `Timers.Sound` says that the entries stand in order, that the index knows the deadlines of the
  pending timers and no others, and that no timer has a number that was not handed out.
* `Timers.Lost` says that a table lost one timer and nothing else.
* `Timers.Follows` says that a table is what a sound table may turn into: it is sound, and a timer
  that had been added before is still as it was, or not there; `follows_insert` and `Lost.follows`
  say so of each change of a table.
* `remove_outcome` and `popDue_outcome` say what comes of withdrawing a timer and of taking the
  first one.
-/

namespace EventLoop

namespace TimerKey

/-! ### The order of firing -/

lemma before_iff {a b : TimerKey} :
    a.before b = true ↔ a.deadline < b.deadline ∨ a.deadline = b.deadline ∧ a.id < b.id := by
  simp [before]

lemma before_irrefl (a : TimerKey) : a.before a = false := by
  simp [before]

lemma before_asymm {a b : TimerKey} (h : a.before b = true) : b.before a = false := by
  by_contra hba
  rw [Bool.not_eq_false] at hba
  have haa := before_trans h hba
  rw [before_irrefl] at haa
  cases haa

/-- Of two keys one comes first. -/
lemma before_or_eq_or_before (a b : TimerKey) :
    a.before b = true ∨ a = b ∨ b.before a = true := by
  obtain ⟨d, i⟩ := a
  obtain ⟨e, j⟩ := b
  simp only [before_iff, mk.injEq]
  rcases Int.lt_trichotomy d e with hlt | rfl | hgt
  · exact .inl (.inl hlt)
  · rcases Nat.lt_trichotomy i j with hlt | rfl | hgt
    · exact .inl (.inr ⟨rfl, hlt⟩)
    · exact .inr (.inl ⟨rfl, rfl⟩)
    · exact .inr (.inr (.inr ⟨rfl, hgt⟩))
  · exact .inr (.inr (.inl hgt))

end TimerKey

namespace Timers

variable {α : Type}

/-- The numbers of the pending timers, in the order of firing. -/
def ids (t : Timers α) : List TimerId := t.entries.map fun e => e.1.id

/-- The entries stand in the order of firing, the index knows their deadlines and no others, and
their numbers were handed out. -/
structure Sound (t : Timers α) : Prop where
  sorted : t.entries.Pairwise fun a b => a.1.before b.1 = true
  index : ∀ (id : TimerId) (d : Instant),
    t.index[id]? = some d ↔ ∃ payload, (⟨d, id⟩, payload) ∈ t.entries
  issued : ∀ e ∈ t.entries, e.1.id < t.nextId

/-- What a sound table may turn into. -/
structure Follows (t t' : Timers α) : Prop where
  sound : t'.Sound
  nextId : t.nextId ≤ t'.nextId
  /-- A timer that had been added before is as it was. -/
  stays : ∀ e ∈ t'.entries, e.1.id < t.nextId → e ∈ t.entries

/-- The table lost the timer of a key, with what it carried, and nothing else. -/
structure Lost (t : Timers α) (key : TimerKey) (payload : α) (t' : Timers α) : Prop where
  entries : t.entries.Perm ((key, payload) :: t'.entries)
  sublist : t'.entries.Sublist t.entries
  index : t'.index = t.index.erase key.id
  nextId : t'.nextId = t.nextId
  stopped : t'.stopped = t.stopped

lemma sound_empty : (empty : Timers α).Sound where
  sorted := .nil
  index id d := by simp [empty]
  issued e he := by simp [empty] at he

/-- The entries of a sound table have different keys. -/
lemma Sound.nodup_keys {t : Timers α} (h : t.Sound) : (t.entries.map Prod.fst).Nodup := by
  rw [List.Nodup, List.pairwise_map]
  refine h.sorted.imp ?_
  intro a b hab heq
  rw [heq, TimerKey.before_irrefl] at hab
  cases hab

/-- A pending timer has one entry. -/
lemma Sound.eq_of_id {t : Timers α} (h : t.Sound) {a b : TimerKey × α} (ha : a ∈ t.entries)
    (hb : b ∈ t.entries) (hid : a.1.id = b.1.id) : a = b := by
  obtain ⟨⟨d, id⟩, p⟩ := a
  obtain ⟨⟨e, id'⟩, q⟩ := b
  obtain rfl : id = id' := hid
  have hd := (h.index id d).mpr ⟨p, ha⟩
  have he := (h.index id e).mpr ⟨q, hb⟩
  obtain rfl : d = e := Option.some.inj (hd.symm.trans he)
  exact List.inj_on_of_nodup_map h.nodup_keys ha hb rfl

lemma Sound.nodup_ids {t : Timers α} (h : t.Sound) : t.ids.Nodup := by
  have hentries : t.entries.Nodup := h.nodup_keys.of_map
  exact hentries.map_on fun a ha b hb => h.eq_of_id ha hb

lemma mem_ids {t : Timers α} {id : TimerId} : id ∈ t.ids ↔ ∃ e ∈ t.entries, e.1.id = id :=
  List.mem_map

lemma Sound.lt_nextId {t : Timers α} (h : t.Sound) {id : TimerId} (hid : id ∈ t.ids) :
    id < t.nextId := by
  obtain ⟨e, he, rfl⟩ := mem_ids.mp hid
  exact h.issued e he

lemma Sound.follows {t : Timers α} (h : t.Sound) : t.Follows t :=
  ⟨h, Nat.le_refl _, fun _ he _ => he⟩

lemma Follows.trans {t t' t'' : Timers α} (h : t.Follows t') (h' : t'.Follows t'') :
    t.Follows t'' where
  sound := h'.sound
  nextId := Nat.le_trans h.nextId h'.nextId
  stays e he hlt := h.stays e (h'.stays e he (Nat.lt_of_lt_of_le hlt h.nextId)) hlt

/-- A timer that was added before and is not pending does not come back. -/
lemma Follows.not_mem_ids {t t' : Timers α} (h : t.Follows t') {id : TimerId} (hold : id < t.nextId)
    (hnone : id ∉ t.ids) : id ∉ t'.ids := by
  intro hid
  obtain ⟨e, he, rfl⟩ := mem_ids.mp hid
  exact hnone (mem_ids.mpr ⟨e, h.stays e he hold, rfl⟩)

/-! ### Adding a timer -/

lemma mem_place {key : TimerKey} {payload : α} {entries : List (TimerKey × α)}
    {e : TimerKey × α} :
    e ∈ place key payload entries ↔ e = (key, payload) ∨ e ∈ entries := by
  rw [(place_perm key payload entries).mem_iff, List.mem_cons]

/-- An entry with a new key gets the place that belongs to it. -/
lemma sorted_place {key : TimerKey} {payload : α} {entries : List (TimerKey × α)}
    (h : entries.Pairwise fun a b => a.1.before b.1 = true) (hkey : ∀ e ∈ entries, e.1 ≠ key) :
    (place key payload entries).Pairwise fun a b => a.1.before b.1 = true := by
  induction entries with
  | nil => exact List.pairwise_singleton _ _
  | cons head rest ih =>
      obtain ⟨hhead, hrest⟩ := List.pairwise_cons.mp h
      rw [place]
      split
      · next hbefore =>
          refine List.pairwise_cons.mpr ⟨fun e he => ?_, h⟩
          rcases List.mem_cons.mp he with rfl | he
          · exact hbefore
          · exact TimerKey.before_trans hbefore (hhead e he)
      · next hbefore =>
          have hlast : head.1.before key = true := by
            rcases TimerKey.before_or_eq_or_before head.1 key with hlt | heq | hgt
            · exact hlt
            · exact absurd heq (hkey head (List.mem_cons_self ..))
            · exact absurd hgt hbefore
          refine List.pairwise_cons.mpr ⟨fun e he => ?_, ?_⟩
          · rcases mem_place.mp he with rfl | he
            · exact hlast
            · exact hhead e he
          · exact ih hrest fun e he => hkey e (List.mem_cons_of_mem _ he)

lemma mem_insert {t : Timers α} {deadline : Instant} {payload : α} {e : TimerKey × α} :
    e ∈ (t.insert deadline payload).1.entries ↔
      e = (⟨deadline, t.nextId⟩, payload) ∨ e ∈ t.entries := mem_place

lemma ids_insert_perm (t : Timers α) (deadline : Instant) (payload : α) :
    (t.insert deadline payload).1.ids.Perm (t.nextId :: t.ids) :=
  (place_perm ⟨deadline, t.nextId⟩ payload t.entries).map fun e : TimerKey × α => e.1.id

lemma sound_insert {t : Timers α} (h : t.Sound) (deadline : Instant) (payload : α) :
    (t.insert deadline payload).1.Sound where
  sorted := by
    refine sorted_place h.sorted fun e he heq => ?_
    have hlt := h.issued e he
    rw [heq] at hlt
    exact Nat.lt_irrefl _ hlt
  index id d := by
    simp only [insert, Std.ExtTreeMap.getElem?_insert, Std.compare_eq_iff_eq, mem_place,
      Prod.mk.injEq, TimerKey.mk.injEq]
    split
    · next hid =>
        subst hid
        have hfree : ∀ q, (⟨d, t.nextId⟩, q) ∉ t.entries := fun q hq =>
          Nat.lt_irrefl _ (h.issued _ hq)
        simp [hfree, eq_comm]
    · next hid => simp [h.index, Ne.symm hid]
  issued e he := by
    rcases mem_insert.mp he with rfl | he
    · exact Nat.lt_succ_self _
    · exact Nat.lt_succ_of_lt (h.issued e he)

lemma follows_insert {t : Timers α} (h : t.Sound) (deadline : Instant) (payload : α) :
    t.Follows (t.insert deadline payload).1 where
  sound := sound_insert h deadline payload
  nextId := Nat.le_succ _
  stays e he hlt := by
    rcases mem_insert.mp he with rfl | he
    · exact absurd hlt (Nat.lt_irrefl _)
    · exact he

/-! ### Losing a timer -/

lemma Lost.mem {t t' : Timers α} {key : TimerKey} {payload : α} (h : t.Lost key payload t') :
    (key, payload) ∈ t.entries := h.entries.mem_iff.mpr (List.mem_cons_self ..)

lemma Lost.ids_perm {t t' : Timers α} {key : TimerKey} {payload : α}
    (h : t.Lost key payload t') : t.ids.Perm (key.id :: t'.ids) :=
  h.entries.map fun e : TimerKey × α => e.1.id

/-- What is left are the timers with other numbers. -/
lemma Lost.mem_iff {t t' : Timers α} {key : TimerKey} {payload : α} (h : t.Lost key payload t')
    (ht : t.Sound) {e : TimerKey × α} : e ∈ t'.entries ↔ e ∈ t.entries ∧ e.1.id ≠ key.id := by
  have hnodup := h.ids_perm.nodup_iff.mp ht.nodup_ids
  constructor
  · intro he
    refine ⟨h.sublist.subset he, fun hid => ?_⟩
    exact (List.nodup_cons.mp hnodup).1 (mem_ids.mpr ⟨e, he, hid⟩)
  · rintro ⟨he, hid⟩
    rcases List.mem_cons.mp (h.entries.mem_iff.mp he) with rfl | he
    · exact absurd rfl hid
    · exact he

lemma Lost.sound {t t' : Timers α} {key : TimerKey} {payload : α} (h : t.Lost key payload t')
    (ht : t.Sound) : t'.Sound where
  sorted := ht.sorted.sublist h.sublist
  index id d := by
    rw [h.index, Std.ExtTreeMap.getElem?_erase]
    simp only [Std.compare_eq_iff_eq, h.mem_iff ht]
    split
    · next hid => simp [hid]
    · next hid => simp [ht.index, Ne.symm hid]
  issued e he := h.nextId ▸ ht.issued e (h.sublist.subset he)

lemma Lost.follows {t t' : Timers α} {key : TimerKey} {payload : α} (h : t.Lost key payload t')
    (ht : t.Sound) : t.Follows t' :=
  ⟨h.sound ht, Nat.le_of_eq h.nextId.symm, fun _ he _ => h.sublist.subset he⟩

/-- What comes of withdrawing a timer: it is not pending and nothing happens, or it is taken out of
the table. -/
lemma remove_outcome {t : Timers α} (ht : t.Sound) (id : TimerId) :
    id ∉ t.ids ∧ t.remove id = (t, none) ∨
      ∃ key payload, key.id = id ∧ (t.remove id).2 = some payload ∧
        t.Lost key payload (t.remove id).1 := by
  cases hd : t.index[id]? with
  | none =>
      left
      refine ⟨fun hid => ?_, by rw [remove, hd]⟩
      obtain ⟨⟨⟨d, _⟩, payload⟩, he, rfl⟩ := mem_ids.mp hid
      rw [(ht.index _ d).mpr ⟨payload, he⟩] at hd
      cases hd
  | some d =>
      right
      obtain ⟨payload, he⟩ := (ht.index id d).mp hd
      obtain ⟨⟨key, payload'⟩, earlier, later, hearlier, hkey, hentries, herased⟩ :=
        List.exists_of_eraseP (p := fun e => e.1 == (⟨d, id⟩ : TimerKey)) he (by simp)
      obtain rfl : key = ⟨d, id⟩ := by simpa using hkey
      have hfind : t.entries.find? (fun e => e.1 == (⟨d, id⟩ : TimerKey)) =
          some (⟨d, id⟩, payload') := by
        have hnone : earlier.find? (fun e => e.1 == (⟨d, id⟩ : TimerKey)) = none :=
          List.find?_eq_none.mpr hearlier
        rw [hentries, List.find?_append, hnone]
        simp
      refine ⟨⟨d, id⟩, payload', rfl, by simp [remove, hd, hfind], ?_⟩
      rw [remove, hd]
      refine ⟨?_, List.eraseP_sublist, rfl, rfl, rfl⟩
      dsimp only
      rw [herased, hentries]
      exact List.perm_middle

/-- What comes of taking the first timer: nothing is due, or the first of all timers is, and is
taken out of the table. -/
lemma popDue_outcome {t : Timers α} (ht : t.Sound) (now : Instant) :
    (∀ e ∈ t.entries, now < e.1.deadline) ∧ t.popDue now = (t, none) ∨
      ∃ key payload, key.deadline ≤ now ∧ (∀ e ∈ t.entries, e.1 = key ∨ key.before e.1 = true) ∧
        (t.popDue now).2 = some (key.id, payload) ∧ t.Lost key payload (t.popDue now).1 := by
  have hsorted := ht.sorted
  rw [popDue]
  split
  · next hnil =>
      left
      exact ⟨by simp [hnil], rfl⟩
  · next key payload rest hcons =>
      rw [hcons] at hsorted
      have hfirst := (List.pairwise_cons.mp hsorted).1
      split
      · next hdue =>
          right
          refine ⟨key, payload, hdue, fun e he => ?_, rfl, ?_⟩
          · rw [hcons] at he
            rcases List.mem_cons.mp he with rfl | he
            · exact .inl rfl
            · exact .inr (hfirst e he)
          · refine ⟨by rw [hcons], ?_, rfl, rfl, rfl⟩
            rw [hcons]
            exact List.sublist_cons_self _ _
      · next hdue =>
          left
          refine ⟨fun e he => ?_, rfl⟩
          rw [hcons] at he
          rcases List.mem_cons.mp he with rfl | he
          · exact Int.not_le.mp hdue
          · rcases TimerKey.before_iff.mp (hfirst e he) with hlt | ⟨heq, -⟩
            · exact Int.lt_trans (Int.not_le.mp hdue) hlt
            · exact heq ▸ Int.not_le.mp hdue

end Timers

end EventLoop
