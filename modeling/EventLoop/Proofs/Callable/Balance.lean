import EventLoop.Callable.Callables
import EventLoop.Proofs.Callable.Accounts

/-!
What callables keep, whatever is done with them. A callable finds its closure through a buffer that
is never wiped and operations that come and go, so an operation that lets the two get out of step
would drop a closure twice, or never, or use it after its end.

* `BoundedFn.Whole` says that the two are in step, and `BoundedFn.owned` is the number of the
  closure that a callable owns then.
* `made` and `dropped` are the closures that come into being and those that end in a list of notes,
  `Note.subject?` is the closure that a note is about.
* `Callables.Effect` lists what each move does.
* `Callables.Balanced` is what is kept, and `Balanced.step` says that every move keeps it.
-/

namespace EventLoop

namespace BoundedFn

variable {κ σ : Type}

/-! ### Buffer and operations -/

/-- A callable is empty, or its operations are those of the closure in its buffer. -/
def Whole (f : BoundedFn κ σ) : Prop := f.isEmpty = true ∨ ∃ what, f = new what

/-- The closure that a callable owns. -/
def owned (f : BoundedFn κ σ) : Option Nat := if f.isEmpty then none else f.buffer.map Instance.id

@[simp] lemma isEmpty_empty : (empty : BoundedFn κ σ).isEmpty = true := rfl

@[simp] lemma isEmpty_new (what : Instance κ σ) : (new what).isEmpty = false := rfl

@[simp] lemma owned_new (what : Instance κ σ) : (new what).owned = some what.id := rfl

lemma owned_of_isEmpty {f : BoundedFn κ σ} (h : f.isEmpty = true) : f.owned = none := if_pos h

lemma whole_new (what : Instance κ σ) : (new what).Whole := .inr ⟨what, rfl⟩

lemma Whole.isEmpty_iff {f : BoundedFn κ σ} (h : f.Whole) : f.isEmpty = true ↔ f.owned = none := by
  rcases h with hempty | ⟨what, rfl⟩
  · simp [hempty, owned_of_isEmpty]
  · simp

/-! ### What the operations do to what is whole -/

lemma call_of_isEmpty {f : BoundedFn κ σ} (h : f.isEmpty = true) (world : σ) :
    f.call world = (f, world, .empty, []) := by
  rw [call, Option.isNone_iff_eq_none.mp h]

lemma call_new (what : Instance κ σ) (world : σ) :
    (new what).call world =
      (new { what with captures := (what.type.call what.captures world).1 },
        (what.type.call what.captures world).2.1,
        (what.type.call what.captures world).2.2.elim .done .panicked, [.called what]) := rfl

lemma invoke_of_isEmpty {f : BoundedFn κ σ} (h : f.isEmpty = true) (world : σ) :
    f.invoke world = (f, world, .done, [.skipped]) := by
  rw [invoke, call_of_isEmpty h]
  rfl

lemma invoke_new (what : Instance κ σ) (world : σ) :
    (new what).invoke world = (new what).call world := by
  rw [invoke, call_new]
  cases (what.type.call what.captures world).2.2 <;> rfl

lemma clear_of_isEmpty {f : BoundedFn κ σ} (h : f.isEmpty = true) (world : σ) :
    f.clear world = (f, world, .done, []) := by
  rw [clear, Option.isNone_iff_eq_none.mp h]

lemma clear_new (what : Instance κ σ) (world : σ) :
    (new what).clear world =
      (⟨some what, none⟩, what.type.drop what.captures world, .done, [.dropped what]) := rfl

/-- What a copy comes to. -/
inductive Copied (f : BoundedFn κ σ) (id : Nat) :
    BoundedFn κ σ → Outcome → List (Note κ σ) → Prop where
  | nothing (isEmpty : f.isEmpty = true) : Copied f id empty .done []
  | panicked {source : Instance κ σ} (owns : f = new source) (message : String) :
    Copied f id empty (.panicked message) [.copying source]
  | copied {source copy : Instance κ σ} (owns : f = new source) (number : copy.id = id) :
    Copied f id (new copy) .done [.copying source, .copied copy]

lemma Whole.copied {f copy : BoundedFn κ σ} (h : f.Whole) {world world' : σ} {id : Nat}
    {outcome : Outcome} {notes : List (Note κ σ)}
    (copies : f.clone world id = (copy, world', outcome, notes)) :
    f.Copied id copy outcome notes := by
  rcases h with hempty | ⟨source, rfl⟩
  · rw [clone, Option.isNone_iff_eq_none.mp hempty] at copies
    cases copies
    exact .nothing hempty
  · simp only [clone, new] at copies
    split at copies
    · cases copies
      exact .panicked rfl _
    · cases copies
      exact .copied rfl rfl

/-! ### Notes -/

/-- The closure that comes into being. -/
def Note.made? : Note κ σ → Option Nat
  | created what | copied what => some what.id
  | _ => none

/-- The closure that ends. -/
def Note.dropped? : Note κ σ → Option Nat
  | dropped what => some what.id
  | _ => none

/-- The closure that a note is about. -/
def Note.subject? : Note κ σ → Option Nat
  | created what | copying what | copied what | called what | dropped what => some what.id
  | skipped => none

/-- The closures that come into being. -/
def made (notes : List (Note κ σ)) : List Nat := notes.filterMap Note.made?

/-- The closures that end. -/
def dropped (notes : List (Note κ σ)) : List Nat := notes.filterMap Note.dropped?

lemma made_append (notes notes' : List (Note κ σ)) :
    made (notes ++ notes') = made notes ++ made notes' := List.filterMap_append

lemma dropped_append (notes notes' : List (Note κ σ)) :
    dropped (notes ++ notes') = dropped notes ++ dropped notes' := List.filterMap_append

/-- No note is about a closure that ended before. -/
def InOrder (notes : List (Note κ σ)) : Prop :=
  notes.Pairwise fun note note' => ∀ id, note.dropped? = some id → note'.subject? ≠ some id

/-- What happens while a callable is used: only to the closure that it owns, which goes on. -/
structure Used (f f' : BoundedFn κ σ) (outcome : Outcome) (notes : List (Note κ σ)) : Prop where
  whole : f'.Whole
  owned : f'.owned = f.owned
  defined : outcome ≠ .undefined
  made : made notes = []
  dropped : dropped notes = []
  inOrder : InOrder notes
  subject : ∀ note ∈ notes, ∀ id, note.subject? = some id → f.owned = some id

lemma Whole.used_call {f : BoundedFn κ σ} (h : f.Whole) (world : σ) :
    f.Used (f.call world).1 (f.call world).2.2.1 (f.call world).2.2.2 := by
  rcases h with hempty | ⟨what, rfl⟩
  · rw [call_of_isEmpty hempty]
    exact ⟨.inl hempty, rfl, nofun, rfl, rfl, .nil, by simp⟩
  · rw [call_new]
    refine ⟨whole_new _, rfl, ?_, rfl, rfl, List.pairwise_singleton _ _, ?_⟩
    · cases (what.type.call what.captures world).2.2 <;> simp
    · intro note hnote id hid
      rw [List.mem_singleton.mp hnote] at hid
      exact hid

lemma Whole.used_invoke {f : BoundedFn κ σ} (h : f.Whole) (world : σ) :
    f.Used (f.invoke world).1 (f.invoke world).2.2.1 (f.invoke world).2.2.2 := by
  rcases h with hempty | ⟨what, rfl⟩
  · rw [invoke_of_isEmpty hempty]
    refine ⟨.inl hempty, rfl, nofun, rfl, rfl, List.pairwise_singleton _ _, ?_⟩
    intro note hnote id hid
    rw [List.mem_singleton.mp hnote] at hid
    cases hid
  · rw [invoke_new]
    exact (whole_new what).used_call world

end BoundedFn

namespace Callables

open BoundedFn (Outcome Note Whole made dropped InOrder)

variable {κ σ : Type}

/-! ### Places -/

@[simp] lemma get_set (b : Callables κ σ) (p q : Place) (f : BoundedFn κ σ) :
    (b.set p f).get q = if p = q then f else b.get q := by
  cases p with
  | hand => cases q <;> rfl
  | slot m =>
      cases q with
      | hand => rfl
      | slot n =>
          rw [get, set, Std.ExtTreeMap.getElem?_insert]
          by_cases h : m = n <;> simp [h, get]

@[simp] lemma get_forget (b : Callables κ σ) (p q : Place) :
    (b.forget p).get q = if p = q then .empty else b.get q := by
  cases p with
  | hand => cases q <;> rfl
  | slot m =>
      cases q with
      | hand => rfl
      | slot n =>
          rw [get, forget, Std.ExtTreeMap.getElem?_erase]
          by_cases h : m = n <;> simp [h, get]

@[simp] lemma set_nextInstance (b : Callables κ σ) (p : Place) (f : BoundedFn κ σ) :
    (b.set p f).nextInstance = b.nextInstance := by
  cases p <;> rfl

@[simp] lemma forget_nextInstance (b : Callables κ σ) (p : Place) :
    (b.forget p).nextInstance = b.nextInstance := by
  cases p <;> rfl

lemma update_of_eq {b : Callables κ σ} {p : Place}
    {op : BoundedFn κ σ → σ → BoundedFn κ σ × σ × Outcome × List (Note κ σ)} {f : BoundedFn κ σ}
    {world : σ} {outcome : Outcome} {notes : List (Note κ σ)}
    (h : op (b.get p) b.world = (f, world, outcome, notes)) :
    b.update p op = ({ b with world }.set p f, outcome, notes) := by
  rw [update, h]

lemma get_update (b : Callables κ σ) (p q : Place)
    (op : BoundedFn κ σ → σ → BoundedFn κ σ × σ × Outcome × List (Note κ σ)) :
    (b.update p op).1.get q = if p = q then (op (b.get p) b.world).1 else b.get q := by
  rw [update, get_set]
  cases q <;> rfl

@[simp] lemma update_nextInstance (b : Callables κ σ) (p : Place)
    (op : BoundedFn κ σ → σ → BoundedFn κ σ × σ × Outcome × List (Note κ σ)) :
    (b.update p op).1.nextInstance = b.nextInstance := by
  rw [update, set_nextInstance]

lemma get_dropAt (b : Callables κ σ) (p q : Place) :
    (b.dropAt p).1.get q = if p = q then .empty else b.get q := by
  rw [dropAt, get_forget, get_update]
  split <;> rfl

@[simp] lemma dropAt_nextInstance (b : Callables κ σ) (p : Place) :
    (b.dropAt p).1.nextInstance = b.nextInstance := by
  rw [dropAt, forget_nextInstance, update_nextInstance]

/-! ### What a move does -/

/-- What a move does. -/
inductive Effect (b : Callables κ σ) :
    Move κ σ → Callables κ σ → Outcome → List (Note κ σ) → Prop where
  | create (type : VTable κ σ) (captures : κ) (free : (b.get .hand).isEmpty = true) :
    Effect b (.create type captures)
      { b with
        hand := .new ⟨b.nextInstance, type, captures⟩
        nextInstance := b.nextInstance + 1 }
      .done [.created ⟨b.nextInstance, type, captures⟩]
  | copy {n : PlaceId} {copy : BoundedFn κ σ} {world : σ} {outcome : Outcome}
    {notes : List (Note κ σ)} (free : (b.get .hand).isEmpty = true)
    (copies : (b.get (.slot n)).clone b.world b.nextInstance = (copy, world, outcome, notes)) :
    Effect b (.copy n)
      { b with
        hand := copy
        world
        nextInstance := if copy.isEmpty then b.nextInstance else b.nextInstance + 1 }
      outcome notes
  | grab (n : PlaceId) (free : (b.get .hand).isEmpty = true) :
    Effect b (.grab n) ((b.set (.slot n) .empty).set .hand (b.get (.slot n))) .done []
  | put (n : PlaceId) :
    Effect b (.put n)
      (((b.dropAt (.slot n)).1.set (.slot n) ((b.dropAt (.slot n)).1.get .hand)).forget .hand)
      (b.dropAt (.slot n)).2.1 (b.dropAt (.slot n)).2.2
  | clear (p : Place) :
    Effect b (.clear p) (b.update p BoundedFn.clear).1 (b.update p BoundedFn.clear).2.1
      (b.update p BoundedFn.clear).2.2
  | drop (p : Place) :
    Effect b (.drop p) (b.dropAt p).1 (b.dropAt p).2.1 (b.dropAt p).2.2
  | swap (m n : PlaceId) :
    Effect b (.swap m n)
      ((b.set (.slot m) (b.get (.slot n))).set (.slot n) (b.get (.slot m))) .done []
  | call (p : Place) :
    Effect b (.call p) (b.update p BoundedFn.call).1 (b.update p BoundedFn.call).2.1
      (b.update p BoundedFn.call).2.2
  | invoke (p : Place) :
    Effect b (.invoke p) (b.update p BoundedFn.invoke).1 (b.update p BoundedFn.invoke).2.1
      (b.update p BoundedFn.invoke).2.2

/-- A move of a hand that is free. -/
lemma free_of_ite {α : Type} {b : Callables κ σ} {x y : α}
    (h : (if (!b.hand.isEmpty) = true then none else some x) = some y) :
    (b.get .hand).isEmpty = true ∧ x = y := by
  rw [Option.ite_none_left_eq_some, Option.some.injEq] at h
  exact ⟨by simpa [get] using h.1, h.2⟩

lemma effect_of_step {b b' : Callables κ σ} {m : Move κ σ} {outcome : Outcome}
    {notes : List (Note κ σ)} (hs : b.step m = some (b', outcome, notes)) :
    b.Effect m b' outcome notes := by
  cases m with
  | create type captures =>
      obtain ⟨hfree, hnext⟩ := free_of_ite hs
      cases hnext
      exact .create type captures hfree
  | copy n =>
      obtain ⟨hfree, hnext⟩ := free_of_ite hs
      cases hnext
      exact .copy hfree rfl
  | grab n =>
      obtain ⟨hfree, hnext⟩ := free_of_ite hs
      cases hnext
      exact .grab n hfree
  | put n =>
      cases hs
      exact .put n
  | clear p =>
      cases hs
      exact .clear p
  | drop p =>
      cases hs
      exact .drop p
  | swap m n =>
      cases hs
      exact .swap m n
  | call p =>
      cases hs
      exact .call p
  | invoke p =>
      cases hs
      exact .invoke p

/-! ### What every move keeps -/

/-- Every callable is whole, the accounts of the closures that it owns are right, the number that
the next closure gets is a new one, and nothing happened to a closure after its end. -/
structure Balanced (past : List (Note κ σ)) (b : Callables κ σ) : Prop where
  whole : ∀ p, (b.get p).Whole
  accounts : Accounts (fun p => (b.get p).owned) (made past) (dropped past)
  fresh : ∀ id ∈ made past, id < b.nextInstance
  inOrder : InOrder past

lemma balanced_start (world : σ) : Balanced [] (start world : Callables κ σ) := by
  have hempty (p : Place) : ((start world : Callables κ σ).get p).isEmpty = true := by
    cases p <;> simp [start, get]
  exact ⟨fun p => .inl (hempty p),
    .nothing fun p => BoundedFn.owned_of_isEmpty (hempty p), by simp [made], .nil⟩

variable {past notes : List (Note κ σ)} {b b' : Callables κ σ}

lemma Balanced.next_notMem (h : Balanced past b) : b.nextInstance ∉ made past := fun hmem =>
  Nat.lt_irrefl _ (h.fresh _ hmem)

/-- What happens next may be about what is owned, or about a new closure. -/
lemma Balanced.inOrder_append (h : Balanced past b) (hnotes : InOrder notes)
    (hsubject : ∀ note ∈ notes, ∀ id, note.subject? = some id →
      (∃ p, (b.get p).owned = some id) ∨ id = b.nextInstance) : InOrder (past ++ notes) := by
  refine List.pairwise_append.mpr ⟨h.inOrder, hnotes, ?_⟩
  intro note hnote note' hnote' id hid hid'
  have hdropped : id ∈ dropped past := List.mem_filterMap.mpr ⟨note, hnote, hid⟩
  rcases hsubject note' hnote' id hid' with howned | rfl
  · exact ((h.accounts.kept id).mp howned).2 hdropped
  · exact h.next_notMem (h.accounts.known _ hdropped)

/-- Closures change places, and may be used. -/
lemma Balanced.moved (h : Balanced past b) (e : Place ≃ Place)
    (hwhole : ∀ p, (b'.get p).Whole) (howned : ∀ p, (b'.get p).owned = (b.get (e p)).owned)
    (hnext : b'.nextInstance = b.nextInstance) (hmade : made notes = [])
    (hdropped : dropped notes = []) (hnotes : InOrder notes)
    (hsubject : ∀ note ∈ notes, ∀ id, note.subject? = some id →
      ∃ p, (b.get p).owned = some id) : Balanced (past ++ notes) b' where
  whole := hwhole
  accounts := by
    rw [BoundedFn.made_append, BoundedFn.dropped_append, hmade, hdropped, List.append_nil,
      List.append_nil]
    exact h.accounts.move e howned
  fresh id hid := by
    rw [BoundedFn.made_append, hmade, List.append_nil] at hid
    rw [hnext]
    exact h.fresh id hid
  inOrder := h.inOrder_append hnotes fun note hnote id hid => .inl (hsubject note hnote id hid)

/-- A place gets a callable that owns what the place owned. -/
lemma Balanced.replaced (h : Balanced past b) (p : Place) {f : BoundedFn κ σ} (hf : f.Whole)
    (howned : f.owned = (b.get p).owned) (hget : ∀ q, b'.get q = if p = q then f else b.get q)
    (hnext : b'.nextInstance = b.nextInstance) (hmade : made notes = [])
    (hdropped : dropped notes = []) (hnotes : InOrder notes)
    (hsubject : ∀ note ∈ notes, ∀ id, note.subject? = some id →
      ∃ q, (b.get q).owned = some id) : Balanced (past ++ notes) b' := by
  refine h.moved (.refl _) (fun q => ?_) (fun q => ?_) hnext hmade hdropped hnotes hsubject
  · rw [hget]
    split
    · exact hf
    · exact h.whole q
  · rw [hget]
    split
    · next hq => rw [howned, hq, Equiv.refl_apply]
    · rfl

/-- A new closure comes to a place that owned none. -/
lemma Balanced.gained (h : Balanced past b) {p : Place} {what : Instance κ σ}
    (hp : (b.get p).isEmpty = true) (hid : what.id = b.nextInstance)
    (hget : ∀ q, b'.get q = if p = q then .new what else b.get q)
    (hnext : b'.nextInstance = b.nextInstance + 1) (hmade : made notes = [b.nextInstance])
    (hdropped : dropped notes = []) (hnotes : InOrder notes)
    (hsubject : ∀ note ∈ notes, ∀ id, note.subject? = some id →
      (∃ p, (b.get p).owned = some id) ∨ id = b.nextInstance) : Balanced (past ++ notes) b' where
  whole q := by
    rw [hget]
    split
    · exact BoundedFn.whole_new what
    · exact h.whole q
  accounts := by
    rw [BoundedFn.made_append, BoundedFn.dropped_append, hmade, hdropped, List.append_nil]
    refine h.accounts.gain (BoundedFn.owned_of_isEmpty hp) h.next_notMem fun q => ?_
    rw [hget]
    split
    · rw [BoundedFn.owned_new, hid]
    · rfl
  fresh id hmem := by
    rw [BoundedFn.made_append, hmade, List.mem_append, List.mem_singleton] at hmem
    rw [hnext]
    rcases hmem with hmem | rfl
    · exact Nat.lt_succ_of_lt (h.fresh id hmem)
    · exact Nat.lt_succ_self _
  inOrder := h.inOrder_append hnotes hsubject

/-- What a place owns is dropped. -/
lemma Balanced.cleared (h : Balanced past b) (p : Place) {f : BoundedFn κ σ}
    (hf : f.isEmpty = true) (hget : ∀ q, b'.get q = if p = q then f else b.get q)
    (hnext : b'.nextInstance = b.nextInstance) :
    Balanced (past ++ ((b.get p).clear b.world).2.2.2) b' := by
  rcases h.whole p with hempty | ⟨what, hwhat⟩
  · rw [BoundedFn.clear_of_isEmpty hempty]
    refine h.replaced p (.inl hf) ?_ hget hnext rfl rfl .nil (by simp)
    rw [BoundedFn.owned_of_isEmpty hf, BoundedFn.owned_of_isEmpty hempty]
  · rw [hwhat, BoundedFn.clear_new]
    have howned : (b.get p).owned = some what.id := by rw [hwhat, BoundedFn.owned_new]
    have hmade : made (past ++ [Note.dropped what]) = made past := by
      rw [BoundedFn.made_append]
      exact List.append_nil _
    refine ⟨fun q => ?_, ?_, fun id hid => ?_, ?_⟩
    · rw [hget]
      split
      · exact .inl hf
      · exact h.whole q
    · rw [hmade, BoundedFn.dropped_append]
      refine h.accounts.lose howned fun q => ?_
      rw [hget]
      split
      · exact BoundedFn.owned_of_isEmpty hf
      · rfl
    · rw [hmade] at hid
      rw [hnext]
      exact h.fresh id hid
    · refine h.inOrder_append (List.pairwise_singleton _ _) fun note hnote id hid => ?_
      rw [List.mem_singleton.mp hnote] at hid
      exact .inl ⟨p, howned.trans hid⟩

/-- What a place owns is used. -/
lemma Balanced.update (h : Balanced past b) (p : Place)
    {op : BoundedFn κ σ → σ → BoundedFn κ σ × σ × Outcome × List (Note κ σ)}
    (hop : (b.get p).Used (op (b.get p) b.world).1 (op (b.get p) b.world).2.2.1
      (op (b.get p) b.world).2.2.2) :
    Balanced (past ++ (b.update p op).2.2) (b.update p op).1 :=
  h.replaced p hop.whole hop.owned (fun q => get_update b p q op) (update_nextInstance b p op)
    hop.made hop.dropped hop.inOrder fun note hnote id hid => ⟨p, hop.subject note hnote id hid⟩

lemma Balanced.clear (h : Balanced past b) (p : Place) :
    Balanced (past ++ (b.update p BoundedFn.clear).2.2) (b.update p BoundedFn.clear).1 := by
  refine h.cleared p ?_ (fun q => get_update b p q _) (update_nextInstance b p _)
  rcases h.whole p with hempty | ⟨what, hwhat⟩
  · rw [BoundedFn.clear_of_isEmpty hempty]
    exact hempty
  · rw [hwhat, BoundedFn.clear_new]
    rfl

lemma Balanced.dropAt (h : Balanced past b) (p : Place) :
    Balanced (past ++ (b.dropAt p).2.2) (b.dropAt p).1 :=
  h.cleared p BoundedFn.isEmpty_empty (fun q => get_dropAt b p q) (dropAt_nextInstance b p)

/-- Two places are exchanged, as far as what they own goes. -/
lemma Balanced.swapped (h : Balanced past b) {p q : Place} {f g : BoundedFn κ σ} (hf : f.Whole)
    (hg : g.Whole) (hp : f.owned = (b.get q).owned) (hq : g.owned = (b.get p).owned)
    (hget : ∀ x, b'.get x = if p = x then f else if q = x then g else b.get x)
    (hnext : b'.nextInstance = b.nextInstance) : Balanced past b' := by
  have hmoved : Balanced (past ++ []) b' := h.moved (Equiv.swap p q) (fun x => ?_) (fun x => ?_)
    hnext rfl rfl .nil (by simp)
  · rwa [List.append_nil] at hmoved
  · rw [hget]
    split
    · exact hf
    · split
      · exact hg
      · exact h.whole x
  · rw [hget]
    rcases eq_or_ne p x with rfl | hpx
    · rw [if_pos rfl, Equiv.swap_apply_left, hp]
    · rw [if_neg hpx]
      rcases eq_or_ne q x with rfl | hqx
      · rw [if_pos rfl, Equiv.swap_apply_right, hq]
      · rw [if_neg hqx, Equiv.swap_apply_of_ne_of_ne hpx.symm hqx.symm]

/-- What the hand gets from a slot that is copied, and what happens meanwhile. -/
lemma Balanced.copied (h : Balanced past b) {n : PlaceId} {copy : BoundedFn κ σ} {world : σ}
    {outcome : Outcome} (hhand : (b.get .hand).isEmpty = true)
    (hcopy : (b.get (.slot n)).clone b.world b.nextInstance = (copy, world, outcome, notes))
    (hget : ∀ q, b'.get q = if Place.hand = q then copy else b.get q)
    (hnext : b'.nextInstance = if copy.isEmpty then b.nextInstance else b.nextInstance + 1) :
    Balanced (past ++ notes) b' := by
  -- where there is no copy, the hand stays as it is, as far as what it owns goes
  have hnone (hempty : copy.isEmpty = true) (hmade : made notes = [])
      (hdropped : dropped notes = []) (hnotes : InOrder notes)
      (hsubject : ∀ note ∈ notes, ∀ id, note.subject? = some id →
        (b.get (.slot n)).owned = some id) : Balanced (past ++ notes) b' := by
    refine h.replaced .hand (.inl hempty) ?_ hget (by rw [hnext, if_pos hempty]) hmade hdropped
      hnotes fun note hnote id hid => ⟨.slot n, hsubject note hnote id hid⟩
    rw [BoundedFn.owned_of_isEmpty hempty, BoundedFn.owned_of_isEmpty hhand]
  cases (h.whole (.slot n)).copied hcopy with
  | nothing _ => exact hnone rfl rfl rfl .nil (by simp)
  | panicked owns message =>
      refine hnone rfl rfl rfl (List.pairwise_singleton _ _) fun note hnote id hid => ?_
      rw [List.mem_singleton.mp hnote] at hid
      rw [owns]
      exact hid
  | @copied source copy owns number =>
      have howned : (b.get (.slot n)).owned = some source.id := by rw [owns, BoundedFn.owned_new]
      refine h.gained hhand number hget hnext ?_ rfl ?_ ?_
      · rw [← number]
        rfl
      · exact List.pairwise_pair.mpr fun id hdropped => by cases hdropped
      · simp only [List.forall_mem_cons]
        exact ⟨fun id h => .inl ⟨_, howned.trans h⟩,
          fun id h => .inr ((Option.some.inj h).symm.trans number), by simp⟩

/-- **Every move keeps the accounts.** -/
theorem Balanced.step (h : Balanced past b) {m : Move κ σ} {outcome : Outcome}
    (hs : b.step m = some (b', outcome, notes)) : Balanced (past ++ notes) b' := by
  cases effect_of_step hs with
  | create type captures free =>
      let what : Instance κ σ := ⟨b.nextInstance, type, captures⟩
      have hnew : what.id = b.nextInstance := rfl
      refine h.gained free hnew (fun q => ?_) rfl rfl rfl (List.pairwise_singleton _ _) ?_
      · cases q <;> rfl
      · intro note hnote id hid
        rw [List.mem_singleton.mp hnote] at hid
        exact .inr (Option.some.inj hid).symm
  | copy free copies => exact h.copied free copies (fun q => by cases q <;> rfl) rfl
  | grab n free =>
      rw [List.append_nil]
      refine h.swapped (h.whole (.slot n)) (.inl BoundedFn.isEmpty_empty) rfl ?_
        (fun q => by rw [get_set, get_set]) rfl
      rw [BoundedFn.owned_of_isEmpty free]
      rfl
  | put n =>
      refine (h.dropAt (.slot n)).swapped (.inl BoundedFn.isEmpty_empty)
        ((h.dropAt (.slot n)).whole .hand) ?_ rfl (fun q => by rw [get_forget, get_set]) rfl
      rw [get_dropAt, if_pos rfl]
  | clear p => exact h.clear p
  | drop p => exact h.dropAt p
  | swap m n =>
      rw [List.append_nil]
      exact h.swapped (h.whole (.slot m)) (h.whole (.slot n)) rfl rfl
        (fun q => by rw [get_set, get_set]) rfl
  | call p => exact h.update p ((h.whole p).used_call b.world)
  | invoke p => exact h.update p ((h.whole p).used_invoke b.world)

end Callables

end EventLoop
