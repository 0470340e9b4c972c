import EventLoop.Echo.Server
import EventLoop.Proofs.Timer.Table

/-!
The idle timers of the connections.

* `Timers.remove_insert` says that a timer that is withdrawn at once leaves nothing behind.
* `Server.Timed` says that the pending timers are the idle timers of the connections, one for each;
  `Timed.begun`, `Timed.restarted` and `Timed.withdrawn` say so of each change.
-/

namespace EventLoop

namespace Timers

variable {α : Type}

lemma eraseP_place {key : TimerKey} {payload : α} {entries : List (TimerKey × α)}
    (h : ∀ e ∈ entries, e.1 ≠ key) :
    (place key payload entries).eraseP (·.1 == key) = entries := by
  induction entries with
  | nil => simp [place]
  | cons head rest ih =>
      obtain ⟨hhead, hrest⟩ := List.forall_mem_cons.mp h
      rw [place]
      split
      · simp
      · rw [List.eraseP_cons_of_neg (by simpa using hhead), ih hrest]

/-- A timer that is withdrawn at once leaves nothing behind but its number. -/
theorem remove_insert {t : Timers α} (ht : t.Sound) (deadline : Instant) (payload : α) :
    ((t.insert deadline payload).1.remove t.nextId).1 = { t with nextId := t.nextId + 1 } := by
  have hfree : ∀ e ∈ t.entries, e.1 ≠ ⟨deadline, t.nextId⟩ := fun e he heq => by
    have hlt := ht.issued e he
    rw [heq] at hlt
    exact Nat.lt_irrefl _ hlt
  have hindex : (t.index.insert t.nextId deadline).erase t.nextId = t.index := by
    refine Std.ExtTreeMap.ext_getElem? fun id => ?_
    rw [Std.ExtTreeMap.getElem?_erase, Std.ExtTreeMap.getElem?_insert]
    by_cases hid : t.nextId = id
    · subst hid
      cases hd : t.index[t.nextId]? with
      | none => simp
      | some d =>
          obtain ⟨payload', he⟩ := (ht.index t.nextId d).mp hd
          exact absurd (ht.issued _ he) (Nat.lt_irrefl _)
    · simp [hid]
  simp [remove, insert, eraseP_place hfree, hindex]

lemma sound_remove {t : Timers α} (ht : t.Sound) (id : TimerId) : (t.remove id).1.Sound := by
  rcases remove_outcome ht id with ⟨-, hkept⟩ | ⟨key, payload, -, -, hlost⟩
  · rwa [hkept]
  · exact hlost.sound ht

/-- What is left are the timers with other numbers. -/
lemma mem_remove {t : Timers α} (ht : t.Sound) {id : TimerId} {e : TimerKey × α} :
    e ∈ (t.remove id).1.entries ↔ e ∈ t.entries ∧ e.1.id ≠ id := by
  rcases remove_outcome ht id with ⟨hnone, hkept⟩ | ⟨key, payload, rfl, -, hlost⟩
  · rw [hkept]
    exact (and_iff_left_of_imp fun he hid => hnone (mem_ids.mpr ⟨e, he, hid⟩)).symm
  · exact hlost.mem_iff ht

end Timers

namespace Echo.Server

/-- The pending timers are the idle timers of the connections, one for each. -/
structure Timed (timers : Timers Fd) (connections : Std.ExtTreeMap Fd Connection) : Prop where
  sound : timers.Sound
  idle : ∀ (fd : Fd) c, connections[fd]? = some c →
    ∃ d id, c = ⟨some id⟩ ∧ (⟨d, id⟩, fd) ∈ timers.entries
  owner : ∀ e ∈ timers.entries, connections[e.2]? = some ⟨some e.1.id⟩

section

variable {timers timers' : Timers Fd} {connections : Std.ExtTreeMap Fd Connection}
  (h : Timed timers connections) {fd : Fd} {id : TimerId}
include h

/-- The idle timer of a connection is the one that is for this connection. -/
lemma Timed.id_eq_iff (hfd : connections[fd]? = some ⟨some id⟩) {e : TimerKey × Fd}
    (he : e ∈ timers.entries) : e.1.id = id ↔ e.2 = fd := by
  obtain ⟨d, id', hid, hmem⟩ := h.idle fd _ hfd
  obtain rfl : id = id' := by simpa using hid
  constructor
  · intro heq
    rw [h.sound.eq_of_id he hmem heq]
  · rintro rfl
    have howner := h.owner e he
    rw [hfd] at howner
    simpa using howner.symm

/-- A connection gets a timer in the place of the one that it had, if it had one. -/
lemma Timed.renewed (hsound : timers'.Sound) (d : Instant)
    (hmem : ∀ e, e ∈ timers'.entries ↔ e = (⟨d, id⟩, fd) ∨ e ∈ timers.entries ∧ e.2 ≠ fd) :
    Timed timers' (connections.insert fd ⟨some id⟩) where
  sound := hsound
  idle x c hx := by
    rw [Std.ExtTreeMap.getElem?_insert] at hx
    split at hx
    · next heq =>
        obtain rfl : fd = x := by simpa using heq
        cases hx
        exact ⟨d, id, rfl, (hmem _).mpr (.inl rfl)⟩
    · next hne =>
        obtain ⟨d', id', hc, he⟩ := h.idle x c hx
        exact ⟨d', id', hc, (hmem _).mpr (.inr ⟨he, fun heq => hne (by simpa using heq.symm)⟩)⟩
  owner e he := by
    rw [Std.ExtTreeMap.getElem?_insert]
    rcases (hmem e).mp he with rfl | ⟨he, hne⟩
    · simp
    · rw [if_neg (by simpa using hne.symm), h.owner e he]

/-- A connection goes with its timer. -/
lemma Timed.ended (hsound : timers'.Sound)
    (hmem : ∀ e, e ∈ timers'.entries ↔ e ∈ timers.entries ∧ e.2 ≠ fd) :
    Timed timers' (connections.erase fd) where
  sound := hsound
  idle x c hx := by
    rw [Std.ExtTreeMap.getElem?_erase] at hx
    split at hx
    · cases hx
    · next hne =>
        obtain ⟨d, id, hc, he⟩ := h.idle x c hx
        exact ⟨d, id, hc, (hmem _).mpr ⟨he, fun heq => hne (by simpa using heq.symm)⟩⟩
  owner e he := by
    obtain ⟨he, hne⟩ := (hmem e).mp he
    rw [Std.ExtTreeMap.getElem?_erase, if_neg (by simpa using hne.symm), h.owner e he]

/-- The first timer of a connection. -/
lemma Timed.begun (hfd : connections[fd]? = none) (deadline : Instant) :
    Timed (timers.insert deadline fd).1 (connections.insert fd ⟨some timers.nextId⟩) := by
  refine h.renewed (Timers.sound_insert h.sound deadline fd) deadline fun e => ?_
  rw [Timers.mem_insert]
  refine or_congr_right (and_iff_left_of_imp fun he heq => ?_).symm
  rw [← heq, h.owner e he] at hfd
  cases hfd

/-- A connection gets another timer, and then the one before is withdrawn. -/
lemma Timed.restarted (hfd : connections[fd]? = some ⟨some id⟩) (deadline : Instant) :
    Timed ((timers.insert deadline fd).1.remove id).1
      (connections.insert fd ⟨some timers.nextId⟩) := by
  have hinsert := Timers.sound_insert h.sound deadline fd
  refine h.renewed (Timers.sound_remove hinsert id) deadline fun e => ?_
  rw [Timers.mem_remove hinsert, Timers.mem_insert, or_and_right]
  refine or_congr (and_iff_left_of_imp ?_) (and_congr_right fun he => (h.id_eq_iff hfd he).not)
  -- the new number is ahead of all that are pending
  rintro rfl rfl
  obtain ⟨d, id, hid, hmem⟩ := h.idle fd _ hfd
  obtain rfl : timers.nextId = id := by simpa using hid
  exact Nat.lt_irrefl _ (h.sound.issued _ hmem)

lemma Timed.withdrawn (hfd : connections[fd]? = some ⟨some id⟩) :
    Timed (timers.remove id).1 (connections.erase fd) :=
  h.ended (Timers.sound_remove h.sound id) fun _ =>
    (Timers.mem_remove h.sound).trans (and_congr_right fun he => (h.id_eq_iff hfd he).not)

end

end Echo.Server

end EventLoop
