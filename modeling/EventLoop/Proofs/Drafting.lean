import EventLoop.Proofs.Machine
import EventLoop.Proofs.Registry

/-!
Registrations that are drafted before they stand in the table. A draft is a copy of what its
descriptor has, or a fresh registration. Any number of drafts may be under way for a descriptor, and
each of them may be inserted late, more than once, or after another one.

* `Drafting` is a table with the tokens of its drafts; `Drafting.Move` lists what can happen to it
  and `Drafting.step` makes one move.
* `Drafting.Coherent` is what every run keeps: the index leads to every registration of the table,
  and a token belongs to one descriptor. `Coherent.tokens_insert` says that therefore no insertion
  takes a token out of the index.
* `Standing` says by the history alone which tokens the index holds: those inserted and not removed
  since. `Registry.Exact` says that these are the tokens that the registrations carry.
* `replaced_tokens_stay` is the main statement here: the index is exact until a registration is
  replaced by one with another token, whose replaced token then leads to a registration that does
  not carry it.
-/

namespace EventLoop

namespace Registry

variable {η : Type}

/-- The registration of a descriptor carries a token. -/
def Bears (r : Registry η) (fd : Fd) (t : Token) : Prop :=
  ∃ current, r.get? fd = some current ∧ current.token = t

/-- The index leads from a token to a descriptor exactly when the registration of the descriptor
carries the token. -/
def Exact (r : Registry η) : Prop := ∀ (t : Token) (fd : Fd), r.tokens[t]? = some fd ↔ r.Bears fd t

lemma bears_iff {r : Registry η} {fd : Fd} {current : Registration η} {t : Token}
    (h : r.get? fd = some current) : r.Bears fd t ↔ current.token = t := by
  simp [Bears, h]

lemma not_bears {r : Registry η} {fd : Fd} (h : r.get? fd = none) (t : Token) : ¬r.Bears fd t := by
  simp [Bears, h]

lemma tokens_remove {r : Registry η} {fd : Fd} {previous : Registration η}
    (h : r.get? fd = some previous) (t : Token) :
    (r.remove fd).1.tokens[t]? = if previous.token = t then none else r.tokens[t]? := by
  rw [remove, h]
  simp [Std.ExtTreeMap.getElem?_erase]

lemma remove_of_none {r : Registry η} {fd : Fd} (h : r.get? fd = none) :
    r.remove fd = (r, none) := by
  rw [remove, h]

lemma nextToken_remove (r : Registry η) (fd : Fd) : (r.remove fd).1.nextToken = r.nextToken := by
  rw [remove]
  split <;> rfl

lemma modify_kept (r : Registry η) (fd : Fd) (change : Registration η → Registration η) :
    (r.modify fd change).tokens = r.tokens ∧ (r.modify fd change).nextToken = r.nextToken := by
  rw [modify]
  split <;> exact ⟨rfl, rfl⟩

end Registry

/-- A table with the descriptors and tokens of the registrations that were drafted for it. -/
structure Drafting (η : Type) where
  registry : Registry η
  drafted : List (Fd × Token)

namespace Drafting

variable {η : Type}

/-- What can happen to a table with drafts. -/
inductive Move (η : Type) where
  /-- A draft for a descriptor is begun. -/
  | draft (fd : Fd)
  /-- A draft becomes the registration of its descriptor, whatever handlers it got meanwhile. -/
  | insert (fd : Fd) (registration : Registration η)
  | remove (fd : Fd)
  /-- A token is followed. -/
  | resolve (token : Token)
  /-- The handlers of a descriptor are changed in the table. -/
  | edit (fd : Fd) (read write : Option η) (armed : Bool)

/-- An empty table without drafts. -/
def start : Drafting η := ⟨.empty, []⟩

/-- Makes one move, if it is possible, and says where a followed token leads. Only a registration
that was drafted for the descriptor can be inserted. -/
def step (d : Drafting η) : Move η → Option (Drafting η × List (Route η))
  | .draft fd =>
    let (registry, registration) := d.registry.currentOrFresh fd
    some (⟨registry, (fd, registration.token) :: d.drafted⟩, [])
  | .insert fd registration =>
    if (fd, registration.token) ∈ d.drafted then
      some ({ d with registry := d.registry.insert fd registration }, [])
    else none
  | .remove fd => some ({ d with registry := (d.registry.remove fd).1 }, [])
  | .resolve token => some (d, [d.registry.resolve token])
  | .edit fd read write armed =>
    some ({ d with registry := d.registry.modify fd ({ · with read, write, armed }) }, [])

/-- One move that was made. -/
abbrev Stride (η : Type) := Machine.Stride (@step η)

/-- The history of the run that makes the moves of a list. -/
abbrev strides (ms : List (Move η)) : List (Stride η) := Machine.strides step start ms

/-- What the run leads to. -/
abbrev after (ms : List (Move η)) : Drafting η := Machine.after step start ms

/-! ### What every run keeps -/

/-- The index leads to every registration of the table, a token in the index was drafted for the
descriptor that it leads to, and no token was drafted for two descriptors. -/
structure Coherent (d : Drafting η) : Prop where
  carried : ∀ fd current, d.registry.get? fd = some current →
    d.registry.tokens[current.token]? = some fd
  owned : ∀ (t : Token) fd, d.registry.tokens[t]? = some fd → (fd, t) ∈ d.drafted
  single : ∀ t fd fd', (fd, t) ∈ d.drafted → (fd', t) ∈ d.drafted → fd = fd'
  drawn : ∀ fd t, (fd, t) ∈ d.drafted → t < d.registry.nextToken

lemma coherent_start : (start : Drafting η).Coherent where
  carried fd current h := by simp [start] at h
  owned t fd h := by simp [start, Registry.empty] at h
  single t fd fd' h := by simp [start] at h
  drawn fd t h := by simp [start] at h

/-- **No insertion takes a token out of the index**: the token of a registration that is replaced
goes on leading to its descriptor. -/
theorem Coherent.tokens_insert {d : Drafting η} (h : d.Coherent) (fd : Fd)
    (next : Registration η) (t : Token) :
    (d.registry.insert fd next).tokens[t]? =
      if next.token = t then some fd else d.registry.tokens[t]? := by
  have hkept : (d.registry.insert fd next).tokens = d.registry.tokens.insert next.token fd := by
    rw [Registry.insert]
    cases hc : d.registry.get? fd with
    | none => rfl
    | some previous =>
        refine if_pos ?_
        rw [Std.ExtTreeMap.getElem?_insert]
        split
        · rfl
        · exact h.carried fd previous hc
  rw [hkept, Std.ExtTreeMap.getElem?_insert]
  simp

lemma Coherent.draft {d : Drafting η} (h : d.Coherent) (fd : Fd) :
    Coherent ⟨(d.registry.currentOrFresh fd).1,
      (fd, (d.registry.currentOrFresh fd).2.token) :: d.drafted⟩ := by
  cases hc : d.registry.get? fd with
  | some current =>
      -- the token of a copy was drafted before
      have hold := h.owned _ fd (h.carried fd current hc)
      rw [Registry.currentOrFresh_of_some hc]
      refine ⟨h.carried, fun t x ht => List.mem_cons_of_mem _ (h.owned t x ht), ?_, ?_⟩
      · intro t x y hx hy
        simp only [List.mem_cons, Prod.mk.injEq] at hx hy
        refine h.single t x y ?_ ?_
        · rcases hx with ⟨rfl, rfl⟩ | hx <;> assumption
        · rcases hy with ⟨rfl, rfl⟩ | hy <;> assumption
      · intro x t hx
        simp only [List.mem_cons, Prod.mk.injEq] at hx
        rcases hx with ⟨rfl, rfl⟩ | hx
        · exact h.drawn _ _ hold
        · exact h.drawn _ _ hx
  | none =>
      rw [Registry.currentOrFresh_of_none hc]
      have hfresh : ∀ x, (x, d.registry.nextToken) ∉ d.drafted := fun x hx =>
        Nat.lt_irrefl _ (h.drawn x _ hx)
      refine ⟨h.carried, fun t x ht => List.mem_cons_of_mem _ (h.owned t x ht), ?_, ?_⟩
      · intro t x y hx hy
        simp only [Registration.fresh, List.mem_cons, Prod.mk.injEq] at hx hy
        rcases hx with ⟨rfl, rfl⟩ | hx
        · rcases hy with ⟨rfl, -⟩ | hy
          · rfl
          · exact absurd hy (hfresh y)
        · rcases hy with ⟨rfl, rfl⟩ | hy
          · exact absurd hx (hfresh x)
          · exact h.single t x y hx hy
      · intro x t hx
        simp only [Registration.fresh, List.mem_cons, Prod.mk.injEq] at hx
        rcases hx with ⟨-, rfl⟩ | hx
        · exact Nat.lt_succ_self _
        · exact Nat.lt_succ_of_lt (h.drawn x t hx)

/-- A token that was drafted for a descriptor leads to no other one. -/
lemma Coherent.fd_eq {d : Drafting η} (h : d.Coherent) {fd x : Fd} {t : Token}
    (hdrafted : (fd, t) ∈ d.drafted) (ht : d.registry.tokens[t]? = some x) : fd = x :=
  h.single t fd x hdrafted (h.owned t x ht)

lemma Coherent.insert {d : Drafting η} (h : d.Coherent) {fd : Fd} {next : Registration η}
    (hdrafted : (fd, next.token) ∈ d.drafted) :
    Coherent { d with registry := d.registry.insert fd next } where
  carried x current hx := by
    rw [h.tokens_insert]
    rw [Registry.get?_insert] at hx
    split at hx
    · next hfd =>
        cases hx
        rw [if_pos rfl, hfd]
    · next hne =>
        have hcarried := h.carried x current hx
        rw [if_neg, hcarried]
        -- a token that two descriptors carried would have been drafted for both
        intro ht
        rw [← ht] at hcarried
        exact hne (h.fd_eq hdrafted hcarried)
  owned t x ht := by
    rw [h.tokens_insert] at ht
    split at ht
    · next heq =>
        cases ht
        exact heq ▸ hdrafted
    · exact h.owned t x ht
  single := h.single
  drawn := h.drawn

lemma Coherent.remove {d : Drafting η} (h : d.Coherent) (fd : Fd) :
    Coherent { d with registry := (d.registry.remove fd).1 } := by
  cases hc : d.registry.get? fd with
  | none =>
      rw [Registry.remove_of_none hc]
      exact h
  | some previous =>
      have hprevious := h.carried fd previous hc
      refine ⟨fun x current hx => ?_, fun t x ht => ?_, h.single, fun x t hx => ?_⟩
      · rw [Registry.get?_remove] at hx
        split at hx
        · cases hx
        · next hne =>
            have hcarried := h.carried x current hx
            rw [Registry.tokens_remove hc, if_neg, hcarried]
            intro ht
            rw [← ht, hprevious] at hcarried
            exact hne (Option.some.inj hcarried)
      · rw [Registry.tokens_remove hc] at ht
        split at ht
        · cases ht
        · exact h.owned t x ht
      · rw [Registry.nextToken_remove]
        exact h.drawn x t hx

lemma Coherent.edit {d : Drafting η} (h : d.Coherent) (fd : Fd) (read write : Option η)
    (armed : Bool) :
    Coherent { d with registry := d.registry.modify fd ({ · with read, write, armed }) } := by
  obtain ⟨htokens, hnext⟩ := d.registry.modify_kept fd ({ · with read, write, armed })
  refine ⟨fun x current hx => ?_, fun t x ht => ?_, h.single, fun x t hx => ?_⟩
  · rw [htokens]
    rw [Registry.get?_modify] at hx
    split at hx
    · next hfd =>
        obtain ⟨previous, hc, rfl⟩ := Option.map_eq_some_iff.mp hx
        exact hfd ▸ h.carried fd previous hc
    · exact h.carried x current hx
  · rw [htokens] at ht
    exact h.owned t x ht
  · rw [hnext]
    exact h.drawn x t hx

/-! ### What a move does to tokens and registrations -/

/-- A registration with the token becomes the one of the descriptor. -/
def Stride.Enters (s : Stride η) (fd : Fd) (t : Token) : Prop :=
  ∃ next, s.move = .insert fd next ∧ next.token = t

/-- The registration of the descriptor is removed, and carries the token. -/
def Stride.Retires (s : Stride η) (fd : Fd) (t : Token) : Prop :=
  s.move = .remove fd ∧ s.before.registry.Bears fd t

/-- The registration of the descriptor, which carries the one token, is replaced by one with
another. -/
def Stride.Replaces (s : Stride η) (fd : Fd) (old new : Token) : Prop :=
  s.before.registry.Bears fd old ∧ s.Enters fd new ∧ new ≠ old

lemma Stride.coherent {s : Stride η} (h : s.before.Coherent) : s.after.Coherent := by
  obtain ⟨d, m, notes, d', made⟩ := s
  cases m with
  | draft fd =>
      cases made
      exact h.draft fd
  | insert fd next =>
      simp only [step, Option.ite_none_right_eq_some, Option.some.injEq, Prod.mk.injEq] at made
      obtain ⟨hdrafted, rfl, -⟩ := made
      exact h.insert hdrafted
  | remove fd =>
      cases made
      exact h.remove fd
  | resolve t =>
      cases made
      exact h
  | edit fd read write armed =>
      cases made
      exact h.edit fd read write armed

/-- What neither inserts nor removes changes neither the index nor which tokens are carried. -/
lemma Stride.kept {s : Stride η} (hinsert : ∀ fd next, s.move ≠ .insert fd next)
    (hremove : ∀ fd, s.move ≠ .remove fd) :
    s.after.registry.tokens = s.before.registry.tokens ∧
      ∀ fd t, s.after.registry.Bears fd t ↔ s.before.registry.Bears fd t := by
  obtain ⟨d, m, notes, d', made⟩ := s
  cases m with
  | draft fd =>
      simp only [step, Option.some.injEq, Prod.mk.injEq] at made
      obtain ⟨rfl, -⟩ := made
      refine ⟨?_, fun x t => by simp [Registry.Bears]⟩
      show (d.registry.currentOrFresh fd).1.tokens = d.registry.tokens
      rw [Registry.currentOrFresh]
      split <;> rfl
  | insert fd next => exact absurd rfl (hinsert fd next)
  | remove fd => exact absurd rfl (hremove fd)
  | resolve t =>
      simp only [step, Option.some.injEq, Prod.mk.injEq] at made
      obtain ⟨rfl, -⟩ := made
      exact ⟨rfl, fun _ _ => Iff.rfl⟩
  | edit fd read write armed =>
      simp only [step, Option.some.injEq, Prod.mk.injEq] at made
      obtain ⟨rfl, -⟩ := made
      refine ⟨(Registry.modify_kept _ _ _).1, fun x t => ?_⟩
      simp only [Registry.Bears, Registry.get?_modify]
      split
      · next hfd =>
          subst hfd
          simp
      · rfl

lemma Stride.not_enters {s : Stride η} (h : ∀ fd next, s.move ≠ .insert fd next) (fd : Fd)
    (t : Token) : ¬s.Enters fd t := by
  rintro ⟨next, hm, -⟩
  exact h fd next hm

lemma Stride.not_retires {s : Stride η} (h : ∀ fd, s.move ≠ .remove fd) (fd : Fd) (t : Token) :
    ¬s.Retires fd t := fun hr => h fd hr.1

/-- The index and the registrations after an insertion. -/
lemma Stride.inserted {s : Stride η} (h : s.before.Coherent) {fd : Fd} {next : Registration η}
    (hm : s.move = .insert fd next) :
    (fd, next.token) ∈ s.before.drafted ∧
      (∀ t : Token, s.after.registry.tokens[t]? =
        if next.token = t then some fd else s.before.registry.tokens[t]?) ∧
      ∀ x, s.after.registry.get? x = if fd = x then some next else s.before.registry.get? x := by
  have made := s.made
  rw [hm] at made
  simp only [step, Option.ite_none_right_eq_some, Option.some.injEq, Prod.mk.injEq] at made
  obtain ⟨hdrafted, hafter, -⟩ := made
  rw [← hafter]
  exact ⟨hdrafted, h.tokens_insert fd next, fun x => by simp⟩

/-- The index and the registrations after a removal. -/
lemma Stride.removed {s : Stride η} {fd : Fd} (hm : s.move = .remove fd) :
    s.after.registry = (s.before.registry.remove fd).1 := by
  have made := s.made
  rw [hm] at made
  simp only [step, Option.some.injEq, Prod.mk.injEq] at made
  rw [← made.1]

/-- **Only a removal takes something out of the index**, the token of the registration that is
removed; an insertion adds its token. -/
theorem Stride.tokens_iff {s : Stride η} (h : s.before.Coherent) (fd : Fd) (t : Token) :
    s.after.registry.tokens[t]? = some fd ↔
      s.Enters fd t ∨ s.before.registry.tokens[t]? = some fd ∧ ¬s.Retires fd t := by
  by_cases hinsert : ∃ x next, s.move = .insert x next
  · obtain ⟨x, next, hm⟩ := hinsert
    obtain ⟨hdrafted, htokens, -⟩ := s.inserted h hm
    have hretires := Stride.not_retires (s := s) (by simp [hm]) fd t
    have henters : s.Enters fd t ↔ x = fd ∧ next.token = t := by
      simp [Stride.Enters, hm, and_assoc]
    rw [htokens, henters]
    by_cases ht : next.token = t
    · subst ht
      simp only [if_true, Option.some.injEq, and_true, hretires, not_false_eq_true]
      exact ⟨.inl, fun hx => hx.elim id (h.fd_eq hdrafted)⟩
    · simp [ht, hretires]
  · rw [not_exists] at hinsert
    have henters := Stride.not_enters (s := s) (fun x next hm => hinsert x ⟨next, hm⟩) fd t
    by_cases hremove : ∃ x, s.move = .remove x
    · obtain ⟨x, hm⟩ := hremove
      have hretires : s.Retires fd t ↔ x = fd ∧ s.before.registry.Bears fd t := by
        simp [Stride.Retires, hm]
      rw [Stride.removed hm, hretires]
      cases hc : s.before.registry.get? x with
      | none =>
          rw [Registry.remove_of_none hc]
          have hnot := Registry.not_bears hc t
          simp only [henters, false_or]
          refine ⟨fun ht => ⟨ht, ?_⟩, And.left⟩
          rintro ⟨rfl, hbears⟩
          exact hnot hbears
      | some previous =>
          have hcarried := h.carried x previous hc
          rw [Registry.tokens_remove hc]
          by_cases ht : previous.token = t
          · subst ht
            simp only [if_true, reduceCtorEq, henters, false_or, false_iff, not_and]
            intro htoken hlasts
            rw [hcarried, Option.some.injEq] at htoken
            exact hlasts htoken ((Registry.bears_iff (htoken ▸ hc)).mpr rfl)
          · simp only [ht, if_false, henters, false_or]
            refine ⟨fun htoken => ⟨htoken, ?_⟩, And.left⟩
            rintro ⟨rfl, hbears⟩
            exact ht ((Registry.bears_iff hc).mp hbears)
    · rw [not_exists] at hremove
      have hretires := Stride.not_retires hremove fd t
      rw [(s.kept (fun x next hm => hinsert x ⟨next, hm⟩) hremove).1]
      simp [henters, hretires]

/-- The tokens that are carried after a move. -/
lemma Stride.bears_iff {s : Stride η} (h : s.before.Coherent) (fd : Fd) (t : Token) :
    s.after.registry.Bears fd t ↔ s.Enters fd t ∨
      s.before.registry.Bears fd t ∧ ¬s.Retires fd t ∧ ∀ t', ¬s.Enters fd t' := by
  by_cases hinsert : ∃ x next, s.move = .insert x next
  · obtain ⟨x, next, hm⟩ := hinsert
    obtain ⟨-, -, hget⟩ := s.inserted h hm
    have hretires := Stride.not_retires (s := s) (by simp [hm]) fd t
    have henters (t' : Token) : s.Enters fd t' ↔ x = fd ∧ next.token = t' := by
      simp [Stride.Enters, hm, and_assoc]
    simp only [Registry.Bears, hget, henters]
    by_cases hx : x = fd
    · simp [hx]
    · simp [hx, hretires]
  · rw [not_exists] at hinsert
    have henters := Stride.not_enters (s := s) (fun x next hm => hinsert x ⟨next, hm⟩) fd
    by_cases hremove : ∃ x, s.move = .remove x
    · obtain ⟨x, hm⟩ := hremove
      simp only [henters, false_or, not_false_eq_true, implies_true, and_true, Stride.Retires, hm,
        Move.remove.injEq]
      rw [Stride.removed hm]
      by_cases hx : x = fd
      · subst hx
        simp [Registry.Bears]
      · simp [Registry.Bears, hx]
    · rw [not_exists] at hremove
      have hretires := Stride.not_retires hremove fd t
      rw [(s.kept (fun x next hm => hinsert x ⟨next, hm⟩) hremove).2]
      simp [henters, hretires]

/-! ### The index and the history -/

/-- A registration with the token was inserted for the descriptor, and none that carries it was
removed since. -/
def Standing (past : List (Stride η)) (fd : Fd) (t : Token) : Prop :=
  ∃ earlier s later, past = earlier ++ s :: later ∧ s.Enters fd t ∧ ∀ u ∈ later, ¬u.Retires fd t

lemma standing_concat {past : List (Stride η)} {s : Stride η} {fd : Fd} {t : Token} :
    Standing (past ++ [s]) fd t ↔ s.Enters fd t ∨ Standing past fd t ∧ ¬s.Retires fd t := by
  constructor
  · rintro ⟨earlier, a, later, hcut, henters, hlater⟩
    rcases List.eq_nil_or_concat later with rfl | ⟨init, last, rfl⟩
    · obtain ⟨-, hlast⟩ := List.append_inj' hcut rfl
      obtain rfl := List.singleton_inj.mp hlast
      exact .inl henters
    · rw [List.concat_eq_append, ← List.cons_append, ← List.append_assoc] at hcut
      obtain ⟨rfl, hlast⟩ := List.append_inj' hcut rfl
      obtain rfl := List.singleton_inj.mp hlast
      refine .inr ⟨⟨earlier, a, init, rfl, henters, fun u hu => hlater u (by simp [hu])⟩, ?_⟩
      exact hlater s (by simp)
  · rintro (henters | ⟨⟨earlier, a, later, rfl, henters, hlater⟩, hs⟩)
    · exact ⟨past, s, [], rfl, henters, by simp⟩
    · refine ⟨earlier, a, later ++ [s], by simp, henters, fun u hu => ?_⟩
      rcases List.mem_append.mp hu with hu | hu
      · exact hlater u hu
      · obtain rfl := List.mem_singleton.mp hu
        exact hs

/-- An exact index stays exact as long as no registration is replaced by one with another token. -/
lemma Stride.exact {s : Stride η} (h : s.before.Coherent) (hexact : s.before.registry.Exact)
    (hs : ∀ fd old new, ¬s.Replaces fd old new) : s.after.registry.Exact := by
  intro t fd
  rw [s.tokens_iff h, s.bears_iff h, hexact t fd]
  refine or_congr_right' fun henters => and_congr_right fun hbears => ?_
  refine (and_iff_left fun t' henters' => hs fd t t' ⟨hbears, henters', ?_⟩).symm
  rintro rfl
  exact henters henters'

/-- A replaced token leads to a registration that does not carry it. -/
lemma Stride.Replaces.resolve {s : Stride η} {fd : Fd} {old new : Token}
    (hs : s.Replaces fd old new) (h : s.before.Coherent) :
    s.after.registry.resolve old = .mismatched new ∧ ¬s.after.registry.Exact := by
  obtain ⟨⟨previous, hc, rfl⟩, ⟨next, hm, rfl⟩, hne⟩ := hs
  obtain ⟨-, htokens, hget⟩ := s.inserted h hm
  have hold : s.after.registry.tokens[previous.token]? = some fd := by
    rw [htokens, if_neg hne, h.carried fd previous hc]
  have hnew : s.after.registry.get? fd = some next := by rw [hget, if_pos rfl]
  refine ⟨by simp [Registry.resolve, hold, hnew, hne], fun hexact => hne ?_⟩
  exact (Registry.bears_iff hnew).mp ((hexact previous.token fd).mp hold)

/-- What every run keeps of the table, and what the history says about its index. -/
structure Told (past : List (Stride η)) (d : Drafting η) : Prop where
  coherent : d.Coherent
  standing : ∀ (t : Token) fd, d.registry.tokens[t]? = some fd ↔ Standing past fd t
  before : ∀ s ∈ past, s.before.Coherent
  exact : (∀ s ∈ past, ∀ fd old new, ¬s.Replaces fd old new) →
    d.registry.Exact ∧ ∀ s ∈ past, s.after.registry.Exact

lemma told (ms : List (Move η)) : Told (strides ms) (after ms) := by
  refine Machine.history_rec (P := Told) ?_ ?_ ms
  · exact ⟨coherent_start, fun t fd => by simp [start, Registry.empty, Standing], nofun,
      fun _ => ⟨fun t fd => by simp [start, Registry.empty, Registry.Bears, Registry.get?], nofun⟩⟩
  · intro past s h
    refine ⟨Stride.coherent h.coherent, fun t fd => ?_, fun u hu => ?_, fun hnever => ?_⟩
    · rw [Stride.tokens_iff h.coherent, standing_concat, h.standing]
    · rcases List.mem_append.mp hu with hu | hu
      · exact h.before u hu
      · exact List.mem_singleton.mp hu ▸ h.coherent
    · obtain ⟨hexact, hall⟩ := h.exact fun u hu => hnever u (List.mem_append_left _ hu)
      have hnow := Stride.exact h.coherent hexact (hnever s (by simp))
      refine ⟨hnow, fun u hu => ?_⟩
      rcases List.mem_append.mp hu with hu | hu
      · exact hall u hu
      · exact List.mem_singleton.mp hu ▸ hnow

/-- **A replaced token stays in the index.** After every run, the index leads from a token to a
descriptor exactly if a registration with the token was inserted for the descriptor and none that
carried it was removed since; the token that the registration of a descriptor carries is among them.
So the index is exact after every move exactly if no registration is ever replaced by one with
another token. Where one is, the replaced token leads to a registration that carries another one;
and no insertion changes where any other token leads. -/
theorem replaced_tokens_stay (ms : List (Move η)) :
    (∀ (t : Token) fd, (after ms).registry.tokens[t]? = some fd ↔ Standing (strides ms) fd t) ∧
    (∀ t fd, (after ms).registry.Bears fd t → (after ms).registry.tokens[t]? = some fd) ∧
    ((∀ s ∈ strides ms, s.after.registry.Exact) ↔
      ∀ s ∈ strides ms, ∀ fd old new, ¬s.Replaces fd old new) ∧
    (∀ s ∈ strides ms, ∀ fd old new, s.Replaces fd old new →
      s.after.registry.resolve old = .mismatched new) ∧
    ∀ s ∈ strides ms, ∀ fd new, s.Enters fd new → ∀ t ≠ new,
      s.after.registry.tokens[t]? = s.before.registry.tokens[t]? := by
  have h := told ms
  refine ⟨h.standing, ?_, ⟨fun hexact s hs fd old new hreplaces => ?_, fun hnever => ?_⟩,
    fun s hs fd old new hreplaces => ?_, fun s hs fd new henters t ht => ?_⟩
  · rintro t fd ⟨current, hc, rfl⟩
    exact h.coherent.carried fd current hc
  · exact (hreplaces.resolve (h.before s hs)).2 (hexact s hs)
  · exact (h.exact hnever).2
  · exact (hreplaces.resolve (h.before s hs)).1
  · obtain ⟨next, hm, rfl⟩ := henters
    obtain ⟨-, htokens, -⟩ := s.inserted (h.before s hs) hm
    rw [htokens, if_neg (Ne.symm ht)]

/-- Two drafts for one descriptor, inserted one after the other. -/
def twice : List (Move Unit) :=
  [.draft 7, .draft 7, .insert 7 (.fresh 0), .insert 7 (.fresh 1)]

/-- The last of the moves replaces the first token by the second one. -/
theorem replaced_tokens_stay_twice :
    (∃ s ∈ strides twice, s.Replaces 7 0 1 ∧ s.after.registry.resolve 0 = .mismatched 1) ∧
      Standing (strides twice) 7 0 := by
  obtain ⟨hstanding, -, -, hmismatched, -⟩ := replaced_tokens_stay twice
  have hmem : (strides twice)[3] ∈ strides twice := List.getElem_mem _
  have hreplaces : (strides twice)[3].Replaces 7 0 1 :=
    ⟨⟨.fresh 0, rfl, rfl⟩, ⟨.fresh 1, rfl, rfl⟩, by decide⟩
  exact ⟨⟨_, hmem, hreplaces, hmismatched _ hmem 7 0 1 hreplaces⟩, (hstanding 0 7).mp rfl⟩

/-- The first token still leads to the descriptor, whose registration carries the second one. -/
theorem replaced_token_mismatches :
    (after twice).registry.tokens[(0 : Token)]? = some 7 ∧
      (after twice).registry.get? 7 = some (.fresh 1) ∧
      (after twice).registry.resolve 0 = .mismatched 1 := ⟨rfl, rfl, rfl⟩

end Drafting

end EventLoop
