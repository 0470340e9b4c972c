import Std.Data.ExtTreeMap
import Mathlib.Data.Set.Card

/-!
Two questions to a whole map, answered through its list of entries.

* `any_eq_true_iff`: whether some entry of a map is of a kind.
* `ncard_eq_size`: how many keys a map has.
-/

namespace EventLoop.Map

open Std

variable {κ α : Type} {cmp : κ → κ → Ordering} [TransCmp cmp]

lemma any_eq_any_toList (t : ExtTreeMap κ α cmp) (p : κ → α → Bool) :
    t.any p = t.toList.any fun e => p e.1 e.2 := by
  obtain ⟨t⟩ := t
  induction t using ExtDTreeMap.inductionOn with
  | mk t =>
      show t.any p = (DTreeMap.Internal.Impl.Const.toList t.inner).any fun e => p e.1 e.2
      simp only [DTreeMap.any, DTreeMap.Internal.Impl.any, ForIn.forIn]
      rw [DTreeMap.Internal.Impl.Const.forIn_eq_forIn_toList]
      generalize DTreeMap.Internal.Impl.Const.toList t.inner = es
      induction es with
      | nil => rfl
      | cons e es ih => cases h : p e.1 e.2 <;> simp_all

/-- A map has an entry of a kind exactly when the kind fits what some key leads to. -/
lemma any_eq_true_iff [LawfulEqCmp cmp] {t : ExtTreeMap κ α cmp} {p : κ → α → Bool} :
    t.any p = true ↔ ∃ (k : κ) (v : α), t[k]? = some v ∧ p k v = true := by
  rw [any_eq_any_toList]
  simp [ExtTreeMap.mem_toList_iff_getElem?_eq_some]

lemma mem_keys_iff [LawfulEqCmp cmp] {t : ExtTreeMap κ α cmp} {k : κ} :
    k ∈ t.keys ↔ t[k]? ≠ none := by
  rw [ExtTreeMap.mem_keys, ExtTreeMap.mem_iff_isSome_getElem?, Option.isSome_iff_ne_none]

/-- The size of a map is the number of the keys that lead somewhere. -/
lemma ncard_eq_size [LawfulEqCmp cmp] (t : ExtTreeMap κ α cmp) :
    {k : κ | t[k]? ≠ none}.ncard = t.size := by
  classical
  have hset : {k : κ | t[k]? ≠ none} = (t.keys.toFinset : Set κ) := by
    ext k
    rw [Set.mem_ofPred_eq, Finset.mem_coe, List.mem_toFinset, mem_keys_iff]
  rw [hset, Set.ncard_coe_finset, List.toFinset_card_of_nodup ExtTreeMap.nodup_keys,
    ExtTreeMap.length_keys]

end EventLoop.Map
