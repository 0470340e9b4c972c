import EventLoop.Proofs.Moves

/-!
Where tokens are, from the beginning of a run to its end. A token is drawn for one descriptor, and
from then on the registration that carries it is the one of this descriptor, or there is none.

* `follows_after` says what a run makes of a sound table; `sound_after` is the case of a run from
  the beginning, and `history_rec_of_sound` lets an induction over a run rely on it.
* `exists_entry_of_drawn` says that a token that was drawn before a run does not come back in it.
* `Stride.Adds` says that a move gave a descriptor a callback; `Carries` that the descriptor had its
  registration under a token then.
* `Tokened` says that no two descriptors ever had the same token and that each registration got its
  token by an addition; `tokened` is the main statement here: this holds at any time.
-/

namespace EventLoop.Loop

open Reactor (Direction)

variable {ι : Type}

/-! ### The table stays sound -/

lemma Change.follows {l : Loop ι} {m : Move ι} {reply : Reply ι} {r : Reactor ι}
    (h : Change l m reply r) (hl : l.reactor.registry.Sound) :
    l.reactor.registry.Follows r.registry := by
  cases h with
  | add fd i => exact (l.reactor.added fd i l.nextCallback).follows hl
  | remove fd i => exact (l.reactor.removed fd i).follows hl
  | requestWrite fd => exact (l.reactor.requested fd).follows hl
  | takeWrite found armed handler =>
      have entry := (hl.resolve_eq_found.mp found).1
      exact (l.reactor.taken _ armed handler).follows entry hl
  | file _ => exact hl.follows
  | breakWatching => exact hl.follows
  | same _ registrations =>
      rw [registrations.registry]
      exact hl.follows

/-- What a run makes of a sound table. -/
lemma follows_after {l : Loop ι} (hl : l.reactor.registry.Sound) (ms : List (Move ι)) :
    l.reactor.registry.Follows (l.after ms).reactor.registry :=
  history_rec (P := fun _ l' => l.reactor.registry.Follows l'.reactor.registry) hl.follows
    (fun _ s h => h.trans (s.change.follows h.sound)) ms

lemma sound_after (kernel : Kernel) (capacity : Nat) (ms : List (Move ι)) :
    ((start kernel capacity).after ms).reactor.registry.Sound :=
  (follows_after Registry.sound_empty ms).sound

/-- What relates a loop to its history holds at the end of every run, if every stride from a sound
table keeps it. -/
theorem history_rec_of_sound {P : List (Stride ι) → Loop ι → Prop} {l : Loop ι}
    (hl : l.reactor.registry.Sound) (base : P [] l)
    (step : ∀ past (s : Stride ι), s.before.reactor.registry.Sound → P past s.before →
      P (past ++ [s]) s.after) (ms : List (Move ι)) : P (l.strides ms) (l.after ms) := by
  have h := history_rec (P := fun past l => l.reactor.registry.Sound ∧ P past l) ⟨hl, base⟩
    (fun past s ⟨hs, ih⟩ => ⟨(s.change.follows hs).sound, step past s hs ih⟩) ms
  exact h.2

/-- What lies before a stride and what lies after it. -/
lemma follows_of_mem {l : Loop ι} (hl : l.reactor.registry.Sound) {ms : List (Move ι)}
    {s : Stride ι} (h : s ∈ l.strides ms) :
    l.reactor.registry.Follows s.after.reactor.registry ∧
      s.after.reactor.registry.Follows (l.after ms).reactor.registry := by
  obtain ⟨past, later, hcut⟩ := List.append_of_mem h
  obtain ⟨ms₁, ms₂, -, hbefore, -, hafter⟩ := exists_moves_of_strides_eq hcut
  have hfirst := follows_after hl ms₁
  rw [hbefore] at hfirst
  have hupto := hfirst.trans (s.change.follows hfirst.sound)
  refine ⟨hupto, ?_⟩
  rw [← hafter]
  exact follows_after hupto.sound ms₂

/-- A registration under a token that was drawn before a run has been there during the whole run. -/
lemma exists_entry_of_drawn {l : Loop ι} (hl : l.reactor.registry.Sound) {ms : List (Move ι)}
    {fd : Fd} {current : Registration CallbackId}
    (hc : (l.after ms).reactor.registry.get? fd = some current)
    (ht : current.token < l.reactor.registry.nextToken) :
    (∃ old, l.reactor.registry.get? fd = some old ∧ old.token = current.token) ∧
      ∀ s ∈ l.strides ms, ∃ old, s.after.reactor.registry.get? fd = some old ∧
        old.token = current.token := by
  refine ⟨(follows_after hl ms).stays fd current hc ht, ?_⟩
  intro s hs
  obtain ⟨hupto, honwards⟩ := follows_of_mem hl hs
  have hdrawn := Nat.lt_of_lt_of_le ht hupto.nextToken
  exact honwards.stays fd current hc hdrawn

/-- A token that was drawn before a run and that no registration carries leads nowhere in it. -/
lemma resolve_after_eq_absent {l : Loop ι} (hl : l.reactor.registry.Sound) {t : Token}
    (ht : t < l.reactor.registry.nextToken)
    (hnone : ∀ fd current, l.reactor.registry.get? fd = some current → current.token ≠ t)
    (ms : List (Move ι)) : (l.after ms).reactor.registry.resolve t = .absent := by
  refine (follows_after hl ms).sound.resolve_eq_absent ?_
  rintro fd current hc rfl
  obtain ⟨⟨old, ho, hold⟩, -⟩ := exists_entry_of_drawn hl hc ht
  exact hnone fd old ho hold

/-! ### The descriptor of a token -/

/-- The move gives a descriptor a callback in a direction. -/
def Stride.Adds (s : Stride ι) (fd : Fd) (d : Direction) (callback : CallbackId) : Prop :=
  ∃ i : Interest, s.move = .add fd i ∧ i.covers d = true ∧ s.reply = .flag true ∧
    s.before.nextCallback = callback

/-- At some time in the past a callback was added for the descriptor, and its registration has had
the token since. -/
def Carries (past : List (Stride ι)) (fd : Fd) (t : Token) : Prop :=
  ∃ s ∈ past, (∃ d callback, s.Adds fd d callback) ∧
    ∃ current, s.after.reactor.registry.get? fd = some current ∧ current.token = t

lemma Stride.Adds.fd_eq {s : Stride ι} {fd fd' : Fd} {d d' : Direction}
    {callback callback' : CallbackId} (h : s.Adds fd d callback) (h' : s.Adds fd' d' callback') :
    fd = fd' := by
  obtain ⟨i, hm, -⟩ := h
  obtain ⟨i', hm', -⟩ := h'
  rw [hm] at hm'
  cases hm'
  rfl

/-- A fresh token comes with the addition of a callback. -/
lemma Stride.adds_of_fresh {s : Stride ι} {fd : Fd} {current : Registration CallbackId}
    (hs : s.before.reactor.registry.Sound)
    (hc : s.after.reactor.registry.get? fd = some current)
    (ht : s.before.reactor.registry.nextToken ≤ current.token) :
    ∃ d callback, s.Adds fd d callback := by
  have hold : s.before.reactor.registry.get? fd ≠ some current := fun h =>
    absurd (hs.drawn fd current h) (Nat.not_lt.mpr ht)
  have hsound := (s.change.follows hs).sound
  have hdrawn := hsound.drawn fd current hc
  have hchange := s.change
  generalize hm : s.move = m, hr : s.reply = reply, ha : s.after.reactor = r at hchange
  rw [ha] at hc hdrawn
  cases hchange with
  | add x i =>
      have hadded := s.before.reactor.added x i s.before.nextCallback
      by_cases hx : (s.before.reactor.add x i s.before.nextCallback).2.1 = true ∧ x = fd
      · obtain ⟨hb, rfl⟩ := hx
        rw [hb] at hr hadded
        obtain ⟨d, hd⟩ := Interest.exists_covers hadded.asked
        exact ⟨d, _, i, hm, hd, hr, rfl⟩
      · rw [hadded.get?_of_not hx] at hc
        exact absurd hc hold
  | remove x i =>
      rw [(s.before.reactor.removed x i).nextToken] at hdrawn
      exact absurd hdrawn (Nat.not_lt.mpr ht)
  | requestWrite x =>
      rw [(s.before.reactor.requested x).nextToken] at hdrawn
      exact absurd hdrawn (Nat.not_lt.mpr ht)
  | takeWrite _ armed handler =>
      rw [(s.before.reactor.taken _ armed handler).nextToken] at hdrawn
      exact absurd hdrawn (Nat.not_lt.mpr ht)
  | file _ => exact absurd hc hold
  | breakWatching => exact absurd hc hold
  | same _ registrations =>
      rw [registrations.registry] at hc
      exact absurd hc hold

/-- What the history says about the tokens, with the table that it led to. -/
structure Tokened (past : List (Stride ι)) (l : Loop ι) : Prop where
  sound : l.reactor.registry.Sound
  drawn : ∀ fd t, Carries past fd t → t < l.reactor.registry.nextToken
  fd_eq : ∀ fd fd' t, Carries past fd t → Carries past fd' t → fd = fd'
  entry : ∀ fd current, l.reactor.registry.get? fd = some current → Carries past fd current.token

lemma carries_concat {past : List (Stride ι)} {s : Stride ι} {fd : Fd} {t : Token} :
    Carries (past ++ [s]) fd t ↔ Carries past fd t ∨ (∃ d callback, s.Adds fd d callback) ∧
      ∃ current, s.after.reactor.registry.get? fd = some current ∧ current.token = t := by
  simp [Carries, or_and_right, exists_or]

lemma Tokened.stride {past : List (Stride ι)} {s : Stride ι} (h : Tokened past s.before) :
    Tokened (past ++ [s]) s.after := by
  have hfollows := s.change.follows h.sound
  -- an addition under a token that had been drawn before changes nothing about this token
  have hagain : ∀ fd t, t < s.before.reactor.registry.nextToken →
      Carries (past ++ [s]) fd t → Carries past fd t := by
    intro fd t ht hcarries
    rcases carries_concat.mp hcarries with hpast | ⟨-, current, hc, rfl⟩
    · exact hpast
    · obtain ⟨old, ho, hold⟩ := hfollows.stays fd current hc ht
      exact hold ▸ h.entry fd old ho
  refine ⟨hfollows.sound, ?_, ?_, ?_⟩
  · intro fd t hcarries
    rcases carries_concat.mp hcarries with hpast | ⟨-, current, hc, rfl⟩
    · exact Nat.lt_of_lt_of_le (h.drawn fd t hpast) hfollows.nextToken
    · exact hfollows.sound.drawn fd current hc
  · intro fd fd' t hcarries hcarries'
    by_cases ht : t < s.before.reactor.registry.nextToken
    · exact h.fd_eq fd fd' t (hagain fd t ht hcarries) (hagain fd' t ht hcarries')
    · rcases carries_concat.mp hcarries with hpast | ⟨⟨d, callback, hadds⟩, -⟩
      · exact absurd (h.drawn fd t hpast) ht
      · rcases carries_concat.mp hcarries' with hpast' | ⟨⟨d', callback', hadds'⟩, -⟩
        · exact absurd (h.drawn fd' t hpast') ht
        · exact hadds.fd_eq hadds'
  · intro fd current hc
    rw [carries_concat]
    rcases Nat.lt_or_ge current.token s.before.reactor.registry.nextToken with ht | ht
    · obtain ⟨old, ho, hold⟩ := hfollows.stays fd current hc ht
      exact .inl (hold ▸ h.entry fd old ho)
    · exact .inr ⟨s.adds_of_fresh h.sound hc ht, current, hc, rfl⟩

lemma tokened (kernel : Kernel) (capacity : Nat) (ms : List (Move ι)) :
    Tokened ((start kernel capacity).strides ms) ((start kernel capacity).after ms) := by
  refine history_rec ⟨Registry.sound_empty, ?_, ?_, ?_⟩ (fun _ _ h => h.stride) ms
  · rintro fd t ⟨s, hs, -⟩
    cases hs
  · rintro fd fd' t ⟨s, hs, -⟩
    cases hs
  · intro fd current hc
    simp [start, Reactor.start] at hc

end EventLoop.Loop
