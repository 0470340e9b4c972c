import Mathlib.Data.List.Nodup
import Mathlib.Data.Set.Card
import Mathlib.Logic.Equiv.Basic
import Mathlib.Tactic.Lemma

/-!
Accounts of what was made, what was dropped, and where the rest is. Each thing has a number, and a
place holds at most one thing.

* `Accounts` says that what was made and not dropped is in exactly one place each.
* `Accounts.gain`, `Accounts.lose` and `Accounts.move` say what keeps the accounts right: a new
  thing in an empty place, a drop from a place, and an exchange of places.
* `Accounts.length_eq` counts: what was made is what was dropped and what is somewhere.
-/

namespace EventLoop

variable {α : Type}

/-- Whatever was made and not dropped is in exactly one place, and nothing was made or dropped
twice. -/
structure Accounts (holds : α → Option Nat) (made dropped : List Nat) : Prop where
  apart : ∀ p q id, holds p = some id → holds q = some id → p = q
  kept : ∀ id, (∃ p, holds p = some id) ↔ id ∈ made ∧ id ∉ dropped
  madeOnce : made.Nodup
  droppedOnce : dropped.Nodup
  known : ∀ id ∈ dropped, id ∈ made

namespace Accounts

variable {holds holds' : α → Option Nat} {made dropped : List Nat}

lemma nothing (h : ∀ p, holds p = none) : Accounts holds [] [] where
  apart p _ id hp := by rw [h] at hp; cases hp
  kept id := by simp [h]
  madeOnce := .nil
  droppedOnce := .nil
  known _ hid := hid

/-- Things change places. -/
lemma move (h : Accounts holds made dropped) (e : α ≃ α) (hmoved : ∀ p, holds' p = holds (e p)) :
    Accounts holds' made dropped where
  apart p q id hp hq := by
    rw [hmoved] at hp hq
    exact e.injective (h.apart _ _ id hp hq)
  kept id := by
    rw [← h.kept]
    constructor
    · rintro ⟨p, hp⟩
      exact ⟨e p, by rw [← hmoved, hp]⟩
    · rintro ⟨p, hp⟩
      exact ⟨e.symm p, by rw [hmoved, e.apply_symm_apply, hp]⟩
  madeOnce := h.madeOnce
  droppedOnce := h.droppedOnce
  known := h.known

/-- A new thing comes to an empty place. -/
lemma gain [DecidableEq α] (h : Accounts holds made dropped) {p : α} {id : Nat}
    (hp : holds p = none) (hid : id ∉ made)
    (hgained : ∀ q, holds' q = if p = q then some id else holds q) :
    Accounts holds' (made ++ [id]) dropped := by
  have hold {q : α} (hq : holds q = some id) : False := hid ((h.kept id).mp ⟨q, hq⟩).1
  refine ⟨fun q r x hq hr => ?_, fun x => ?_, ?_, h.droppedOnce, fun x hx => ?_⟩
  · rw [hgained] at hq hr
    split at hq <;> split at hr
    · next hq' hr' => exact hq'.symm.trans hr'
    · cases hq
      exact (hold hr).elim
    · cases hr
      exact (hold hq).elim
    · exact h.apart q r x hq hr
  · have hnew : id ∉ dropped := fun hdropped => hid (h.known id hdropped)
    rw [List.mem_append, List.mem_singleton]
    constructor
    · rintro ⟨q, hq⟩
      rw [hgained] at hq
      split at hq
      · cases hq
        exact ⟨.inr rfl, hnew⟩
      · obtain ⟨hmade, hkept⟩ := (h.kept x).mp ⟨q, hq⟩
        exact ⟨.inl hmade, hkept⟩
    · rintro ⟨hmade | rfl, hkept⟩
      · obtain ⟨q, hq⟩ := (h.kept x).mpr ⟨hmade, hkept⟩
        have hne : p ≠ q := by
          rintro rfl
          rw [hp] at hq
          cases hq
        exact ⟨q, by rw [hgained, if_neg hne, hq]⟩
      · exact ⟨p, by rw [hgained, if_pos rfl]⟩
  · rw [List.nodup_append]
    refine ⟨h.madeOnce, List.nodup_singleton id, fun x hx y hy hxy => hid ?_⟩
    rw [← List.mem_singleton.mp hy, ← hxy]
    exact hx
  · exact List.mem_append_left _ (h.known x hx)

/-- What is in a place is dropped. -/
lemma lose [DecidableEq α] (h : Accounts holds made dropped) {p : α} {id : Nat}
    (hp : holds p = some id) (hlost : ∀ q, holds' q = if p = q then none else holds q) :
    Accounts holds' made (dropped ++ [id]) := by
  obtain ⟨hmade, hkept⟩ := (h.kept id).mp ⟨p, hp⟩
  have helsewhere {q : α} {x : Nat} : holds' q = some x ↔ holds q = some x ∧ x ≠ id := by
    rw [hlost]
    split
    · next hpq =>
        rw [← hpq, hp]
        simpa using Eq.symm
    · next hpq =>
        refine ⟨fun hq => ⟨hq, ?_⟩, fun hq => hq.1⟩
        rintro rfl
        exact hpq (h.apart p q x hp hq)
  refine ⟨fun q r x hq hr => ?_, fun x => ?_, h.madeOnce, ?_, ?_⟩
  · exact h.apart q r x (helsewhere.mp hq).1 (helsewhere.mp hr).1
  · simp only [helsewhere, exists_and_right, h.kept, List.mem_append, List.mem_singleton, not_or]
    exact and_assoc
  · rw [List.nodup_append]
    refine ⟨h.droppedOnce, List.nodup_singleton id, fun x hx y hy hxy => hkept ?_⟩
    rw [← List.mem_singleton.mp hy, ← hxy]
    exact hx
  · intro x hx
    rcases List.mem_append.mp hx with hx | hx
    · exact h.known x hx
    · rwa [List.mem_singleton.mp hx]

/-- **What was made is what was dropped and what is somewhere.** -/
theorem length_eq (h : Accounts holds made dropped) :
    (made.length : ℕ∞) = dropped.length + {p | holds p ≠ none}.encard := by
  let number (p : α) : Nat := (holds p).getD 0
  have hsome {p : α} (hp : holds p ≠ none) : holds p = some (number p) := by
    obtain ⟨id, hid⟩ := Option.ne_none_iff_exists'.mp hp
    simp [number, hid]
  have hinjective : Set.InjOn number {p | holds p ≠ none} := fun p hp q hq hpq =>
    h.apart p q (number p) (hsome hp) (by rw [hsome hq, hpq])
  have himage : number '' {p | holds p ≠ none} = ↑(made.toFinset \ dropped.toFinset) := by
    ext id
    rw [Finset.coe_sdiff, Set.mem_sdiff, Finset.mem_coe, Finset.mem_coe, List.mem_toFinset,
      List.mem_toFinset, ← h.kept]
    constructor
    · rintro ⟨p, hp, rfl⟩
      exact ⟨p, hsome hp⟩
    · rintro ⟨p, hp⟩
      exact ⟨p, by simp [hp], by simp [number, hp]⟩
  have hsubset : dropped.toFinset ⊆ made.toFinset := fun x hx =>
    List.mem_toFinset.mpr (h.known x (List.mem_toFinset.mp hx))
  calc (made.length : ℕ∞)
      = made.toFinset.card := by rw [List.toFinset_card_of_nodup h.madeOnce]
    _ = dropped.toFinset.card + (made.toFinset \ dropped.toFinset).card := by
        rw [add_comm, ← Finset.card_sdiff_add_card_eq_card hsubset, Nat.cast_add]
    _ = dropped.length + {p | holds p ≠ none}.encard := by
        rw [← hinjective.encard_image, himage, Set.encard_coe_eq_coe_finsetCard,
          List.toFinset_card_of_nodup h.droppedOnce]

end Accounts

end EventLoop
