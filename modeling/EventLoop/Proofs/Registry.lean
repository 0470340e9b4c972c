import EventLoop.Registry
import Mathlib.Tactic.Lemma

/-!
The table of registrations and the index of its tokens.

* `Registry.Sound` says that the index leads from a token exactly to the descriptor whose
  registration carries it, that no token is ahead of the next one to be drawn, and that every
  registration has a handler.
* `Registry.Follows` says that a table is what a sound table may turn into: it is sound, and a token
  that had been drawn before is still where it was, or nowhere.
* `follows_insert`, `follows_modify`, `follows_remove` and `follows_draw` say so of each change of a
  table; `follows_put` is what the first two have in common.
-/

namespace EventLoop.Registry

variable {η : Type}

/-- The index leads from a token to the descriptor whose registration carries it and nowhere else,
the tokens in use were drawn before, and every registration has a handler. -/
structure Sound (r : Registry η) : Prop where
  tokens : ∀ (t : Token) (fd : Fd),
    r.tokens[t]? = some fd ↔ ∃ current, r.get? fd = some current ∧ current.token = t
  drawn : ∀ fd current, r.get? fd = some current → current.token < r.nextToken
  filled : ∀ fd current, r.get? fd = some current → current.isEmpty = false

/-- What a sound table may turn into. -/
structure Follows (r r' : Registry η) : Prop where
  sound : r'.Sound
  nextToken : r.nextToken ≤ r'.nextToken
  /-- A token that had been drawn before is where it was. -/
  stays : ∀ fd next, r'.get? fd = some next → next.token < r.nextToken →
    ∃ current, r.get? fd = some current ∧ current.token = next.token

lemma sound_empty : (empty : Registry η).Sound where
  tokens t fd := by simp [empty, get?]
  drawn fd current h := by simp at h
  filled fd current h := by simp at h

/-- No two descriptors share a token. -/
lemma Sound.fd_eq {r : Registry η} (h : r.Sound) {fd fd' : Fd} {current current' : Registration η}
    (hc : r.get? fd = some current) (hc' : r.get? fd' = some current')
    (ht : current.token = current'.token) : fd = fd' := by
  have h₁ := (h.tokens current.token fd).mpr ⟨current, hc, rfl⟩
  have h₂ := (h.tokens current.token fd').mpr ⟨current', hc', ht.symm⟩
  rw [h₁] at h₂
  exact Option.some.inj h₂

/-- A token is followed to the registration that carries it. -/
lemma Sound.resolve_eq_found {r : Registry η} (h : r.Sound) {t : Token} {fd : Fd}
    {current : Registration η} :
    r.resolve t = .found fd current ↔ r.get? fd = some current ∧ current.token = t := by
  rw [resolve]
  constructor
  · intro hr
    split at hr
    · cases hr
    · split at hr
      · cases hr
      · next hc =>
          split at hr
          · next ht =>
              cases hr
              exact ⟨hc, ht⟩
          · cases hr
  · rintro ⟨hc, rfl⟩
    have ht := (h.tokens current.token fd).mpr ⟨current, hc, rfl⟩
    rw [ht]
    simp [hc]

/-- A token never leads to a registration that carries another one. -/
lemma Sound.resolve_ne_mismatched {r : Registry η} (h : r.Sound) (t held : Token) :
    r.resolve t ≠ .mismatched held := by
  rw [resolve]
  split
  · exact nofun
  · next fd ht =>
      obtain ⟨current, hc, hcurrent⟩ := (h.tokens t fd).mp ht
      simp [hc, hcurrent]

/-- A token that no registration carries leads nowhere. -/
lemma Sound.resolve_eq_absent {r : Registry η} (h : r.Sound) {t : Token}
    (hnone : ∀ fd current, r.get? fd = some current → current.token ≠ t) :
    r.resolve t = .absent := by
  cases hr : r.resolve t with
  | absent => rfl
  | mismatched held => exact absurd hr (h.resolve_ne_mismatched t held)
  | found fd current =>
      obtain ⟨hc, ht⟩ := h.resolve_eq_found.mp hr
      exact absurd ht (hnone fd current hc)

/-! ### The changes of a table -/

lemma Sound.follows {r : Registry η} (h : r.Sound) : r.Follows r :=
  ⟨h, Nat.le_refl _, fun _ next hn _ => ⟨next, hn, rfl⟩⟩

lemma Follows.trans {r r' r'' : Registry η} (h : r.Follows r') (h' : r'.Follows r'') :
    r.Follows r'' where
  sound := h'.sound
  nextToken := Nat.le_trans h.nextToken h'.nextToken
  stays fd next hn ht := by
    obtain ⟨current, hc, hcurrent⟩ := h'.stays fd next hn (Nat.lt_of_lt_of_le ht h.nextToken)
    obtain ⟨first, hf, hfirst⟩ := h.stays fd current hc (hcurrent ▸ ht)
    exact ⟨first, hf, hfirst.trans hcurrent⟩

/-- Drawing a token that nobody gets. -/
lemma follows_draw {r : Registry η} (h : r.Sound) :
    r.Follows { r with nextToken := r.nextToken + 1 } where
  sound := ⟨h.tokens, fun fd current hc => Nat.lt_succ_of_lt (h.drawn fd current hc), h.filled⟩
  nextToken := Nat.le_succ _
  stays _ next hn _ := ⟨next, hn, rfl⟩

/-- Removing a registration takes its token out of the index. -/
lemma follows_remove {r : Registry η} (h : r.Sound) (fd : Fd) : r.Follows (r.remove fd).1 := by
  have hentries := r.get?_remove fd
  cases hc : r.get? fd with
  | none =>
      have hr : (r.remove fd).1 = r := by rw [remove, hc]
      rw [hr]
      exact h.follows
  | some current =>
      have htokens : (r.remove fd).1.tokens = r.tokens.erase current.token := by rw [remove, hc]
      have hnext : (r.remove fd).1.nextToken = r.nextToken := by rw [remove, hc]
      have hleft : ∀ x reg, (r.remove fd).1.get? x = some reg → fd ≠ x ∧ r.get? x = some reg := by
        intro x reg hx
        rw [hentries] at hx
        split at hx
        · cases hx
        · next hne => exact ⟨hne, hx⟩
      refine ⟨⟨fun t x => ?_, fun x reg hx => ?_, fun x reg hx => ?_⟩, ?_, fun x reg hx _ => ?_⟩
      · rw [htokens, Std.ExtTreeMap.getElem?_erase, hentries]
        have htx := h.tokens t x
        by_cases ht : current.token = t
        · -- the token was the removed registration's, and no other descriptor has it
          subst ht
          rw [(h.tokens current.token fd).mpr ⟨current, hc, rfl⟩] at htx
          by_cases hx : fd = x
          · simp [hx]
          · simp [hx, ← htx]
        · by_cases hx : fd = x
          · subst hx
            simp [htx, hc, ht]
          · simpa [hx, Std.compare_eq_iff_eq, ht] using htx
      · rw [hnext]
        exact h.drawn x reg (hleft x reg hx).2
      · exact h.filled x reg (hleft x reg hx).2
      · exact Nat.le_of_eq hnext.symm
      · exact ⟨reg, (hleft x reg hx).2, rfl⟩

lemma currentOrFresh_of_some {r : Registry η} {fd : Fd} {current : Registration η}
    (h : r.get? fd = some current) : r.currentOrFresh fd = (r, current) := by
  rw [currentOrFresh, h]

lemma currentOrFresh_of_none {r : Registry η} {fd : Fd} (h : r.get? fd = none) :
    r.currentOrFresh fd = ({ r with nextToken := r.nextToken + 1 }, .fresh r.nextToken) := by
  rw [currentOrFresh, h]

lemma follows_currentOrFresh {r : Registry η} (h : r.Sound) (fd : Fd) :
    r.Follows (r.currentOrFresh fd).1 := by
  cases hc : r.get? fd with
  | none =>
      rw [currentOrFresh_of_none hc]
      exact follows_draw h
  | some current =>
      rw [currentOrFresh_of_some hc]
      exact h.follows

/-- The token under which an operation goes on is one that the descriptor has already, or one that
was never drawn before. -/
lemma currentOrFresh_token {r : Registry η} (h : r.Sound) (fd : Fd) :
    (r.currentOrFresh fd).2.token < (r.currentOrFresh fd).1.nextToken ∧
      ((r.currentOrFresh fd).2.token < r.nextToken →
        r.get? fd = some (r.currentOrFresh fd).2) ∧
      ∀ x reg, r.get? x = some reg → reg.token = (r.currentOrFresh fd).2.token → x = fd := by
  cases hc : r.get? fd with
  | none =>
      rw [currentOrFresh_of_none hc]
      refine ⟨Nat.lt_succ_self _, fun ht => absurd ht (Nat.lt_irrefl _), fun x reg hx ht => ?_⟩
      exact absurd (h.drawn x reg hx) (ht ▸ Nat.lt_irrefl _)
  | some current =>
      rw [currentOrFresh_of_some hc]
      exact ⟨h.drawn fd current hc, fun _ => rfl, fun x reg hx ht => h.fd_eq hx hc ht⟩

/-- A registration under the token that its descriptor has already, or under a fresh one. -/
lemma follows_put {r r' : Registry η} (h : r.Sound) {fd : Fd} {next : Registration η}
    (entries : ∀ x, r'.get? x = if fd = x then some next else r.get? x)
    (tokens : ∀ t : Token, r'.tokens[t]? = if next.token = t then some fd else r.tokens[t]?)
    (nextToken : r'.nextToken = (r.currentOrFresh fd).1.nextToken)
    (token : next.token = (r.currentOrFresh fd).2.token) (filled : next.isEmpty = false) :
    r.Follows r' := by
  obtain ⟨hdrawn, hold, hown⟩ := currentOrFresh_token h fd
  rw [← token] at hdrawn hold hown
  have hle := (follows_currentOrFresh h fd).nextToken
  rw [← nextToken] at hdrawn hle
  -- a registration of the new table is the new one, or one of the old table elsewhere
  have hput : ∀ x reg, r'.get? x = some reg →
      fd = x ∧ reg = next ∨ fd ≠ x ∧ r.get? x = some reg := by
    intro x reg hx
    rw [entries] at hx
    split at hx
    · next hfd => exact .inl ⟨hfd, (Option.some.inj hx).symm⟩
    · next hne => exact .inr ⟨hne, hx⟩
  refine ⟨⟨fun t x => ?_, fun x reg hx => ?_, fun x reg hx => ?_⟩, hle, fun x reg hx ht => ?_⟩
  · rw [tokens, entries]
    have htx := h.tokens t x
    by_cases ht : next.token = t
    · subst ht
      by_cases hx : fd = x
      · simp [hx]
      · simp only [if_true, Option.some.injEq, hx, false_iff]
        rintro ⟨reg, hreg, hreg'⟩
        exact hx (hown x reg hreg hreg').symm
    · by_cases hx : fd = x
      · subst hx
        rw [if_neg ht, if_pos rfl, htx]
        constructor
        · rintro ⟨reg, hreg, rfl⟩
          rw [currentOrFresh_of_some hreg] at token
          exact absurd token ht
        · rintro ⟨reg, hreg, rfl⟩
          exact absurd (by rw [Option.some.inj hreg]) ht
      · rwa [if_neg ht, if_neg hx]
  · rcases hput x reg hx with ⟨-, rfl⟩ | ⟨-, hx⟩
    · exact hdrawn
    · exact Nat.lt_of_lt_of_le (h.drawn x reg hx) hle
  · rcases hput x reg hx with ⟨-, rfl⟩ | ⟨-, hx⟩
    · exact filled
    · exact h.filled x reg hx
  · rcases hput x reg hx with ⟨rfl, rfl⟩ | ⟨-, hx⟩
    · exact ⟨_, hold ht, token.symm⟩
    · exact ⟨reg, hx, rfl⟩

lemma follows_insert {r : Registry η} (h : r.Sound) {fd : Fd} {next : Registration η}
    (token : next.token = (r.currentOrFresh fd).2.token) (filled : next.isEmpty = false) :
    r.Follows ((r.currentOrFresh fd).1.insert fd next) := by
  refine follows_put h (fun x => by simp) (fun t => ?_) rfl token filled
  have htokens : ((r.currentOrFresh fd).1.insert fd next).tokens =
      r.tokens.insert next.token fd := by
    rw [insert]
    rw [get?_currentOrFresh]
    cases hc : r.get? fd with
    | none => simp [currentOrFresh_of_none hc]
    | some current =>
        rw [currentOrFresh_of_some hc] at token ⊢
        simp [token]
  rw [htokens, Std.ExtTreeMap.getElem?_insert]
  simp

lemma follows_modify {r : Registry η} (h : r.Sound) {fd : Fd} {current next : Registration η}
    (entry : r.get? fd = some current) (token : next.token = current.token)
    (filled : next.isEmpty = false) : r.Follows (r.modify fd fun _ => next) := by
  have htokens : (r.modify fd fun _ => next).tokens = r.tokens := by rw [modify, entry]
  have hnext : (r.modify fd fun _ => next).nextToken = r.nextToken := by rw [modify, entry]
  have hentries : ∀ x, (r.modify fd fun _ => next).get? x =
      if fd = x then some next else r.get? x := by simp [entry]
  refine follows_put h hentries (fun t => ?_) ?_ ?_ filled
  · rw [htokens]
    split
    · next ht => exact (h.tokens t fd).mpr ⟨current, entry, token ▸ ht⟩
    · rfl
  · rw [hnext, currentOrFresh_of_some entry]
  · rw [token, currentOrFresh_of_some entry]

end EventLoop.Registry
