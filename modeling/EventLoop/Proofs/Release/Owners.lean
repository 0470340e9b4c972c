import EventLoop.Proofs.Dispatch
import EventLoop.Proofs.Removal

/-!
Who owns a callback for a descriptor. A move takes owners and gives them back, and what is given
back last is released; so the owners that are counted are those that there are: a slot of a
registration for each direction that has the callback, and the driver while it runs it.

* `mem_orphaned` and `nodup_orphaned` say which callbacks lose their last owner.
* `Reactor.slots` counts the slots of a descriptor, `Loop.shared` is what the driver owns.
* `Turnover` lists what a move can do to the owners, and `Stride.turnover` says that there is
  nothing else.
* `Owned` says that all owners are there for something, and `Turnover.owned` that a move keeps
  this.
-/

namespace EventLoop

open Reactor (Direction Note Role)

/-! ### Giving back -/

namespace Loop

lemma count_le_erase {id : CallbackId} {ids owners : List CallbackId}
    (h : ∀ callback, (id :: ids).count callback ≤ owners.count callback) (callback : CallbackId) :
    ids.count callback ≤ (owners.erase id).count callback := by
  have hle := h callback
  rw [List.count_cons] at hle
  rw [List.count_erase]
  omega

/-- The callbacks that lose their last owner are those that are given back and that nobody owns
then. -/
lemma mem_orphaned {ids owners : List CallbackId}
    (h : ∀ callback, ids.count callback ≤ owners.count callback) {callback : CallbackId} :
    callback ∈ orphaned owners ids ↔ callback ∈ ids ∧ callback ∉ ids.foldl List.erase owners := by
  induction ids generalizing owners with
  | nil => simp [orphaned]
  | cons id ids ih =>
      have hrest := ih (count_le_erase h)
      have hleft := List.count_diff id (owners.erase id) ids
      rw [List.diff_eq_foldl] at hleft
      rw [orphaned, List.foldl_cons, List.mem_cons]
      split
      · next howned =>
          rw [hrest]
          refine ⟨fun hmem => ⟨.inr hmem.1, hmem.2⟩, fun ⟨hmem, hnobody⟩ => ⟨?_, hnobody⟩⟩
          rcases hmem with rfl | hmem
          · -- what is not given back again is still owned
            by_contra hlast
            rw [List.count_eq_zero.mpr hnobody, List.count_eq_zero.mpr hlast] at hleft
            have := List.count_pos_iff.mpr howned
            omega
          · exact hmem
      · next hlast =>
          rw [List.mem_cons, hrest]
          have hnobody : id ∉ ids.foldl List.erase (owners.erase id) := by
            rw [← List.count_eq_zero, hleft, List.count_eq_zero.mpr hlast]
            exact Nat.zero_sub _
          constructor
          · rintro (rfl | ⟨hmem, hgone⟩)
            · exact ⟨.inl rfl, hnobody⟩
            · exact ⟨.inr hmem, hgone⟩
          · rintro ⟨hmem, hgone⟩
            exact hmem.imp_right fun hmem => ⟨hmem, hgone⟩

lemma orphaned_sublist (owners ids : List CallbackId) : (orphaned owners ids).Sublist ids := by
  induction ids generalizing owners with
  | nil => exact .slnil
  | cons id ids ih =>
      rw [orphaned]
      split
      · exact .cons _ (ih _)
      · exact .cons_cons _ (ih _)

/-- A callback loses its last owner once. -/
lemma nodup_orphaned {ids owners : List CallbackId}
    (h : ∀ callback, ids.count callback ≤ owners.count callback) :
    (orphaned owners ids).Nodup := by
  induction ids generalizing owners with
  | nil => exact .nil
  | cons id ids ih =>
      have hrest := count_le_erase h
      rw [orphaned]
      split
      · exact ih hrest
      · next hlast =>
          refine List.nodup_cons.mpr ⟨fun hmem => ?_, ih hrest⟩
          have hle := hrest id
          rw [List.count_eq_zero.mpr hlast] at hle
          exact List.count_eq_zero.mp (Nat.le_zero.mp hle) ((mem_orphaned hrest).mp hmem).1

end Loop

/-! ### Who is an owner -/

/-- How many slots of a descriptor hold a callback. -/
def Reactor.slots {ι : Type} (r : Reactor ι) (fd : Fd) (callback : CallbackId) : Nat :=
  (r.handlerOf fd .reading).toList.count callback + (r.handlerOf fd .writing).toList.count callback

/-- The callbacks that a removal takes from a descriptor. -/
def Reactor.heldFor {ι : Type} (r : Reactor ι) (fd : Fd) (i : Interest) : List CallbackId :=
  (r.registry.get? fd).elim [] (·.handlersFor i)

namespace Reactor

variable {ι : Type} {r r' : Reactor ι} {fd : Fd} {i : Interest} {callback : CallbackId}

lemma slots_eq_zero_iff :
    r.slots fd callback = 0 ↔ ∀ d, r.handlerOf fd d ≠ some callback := by
  simp only [slots, Nat.add_eq_zero_iff, List.count_eq_zero, Option.mem_toList]
  exact ⟨fun h d => by cases d with | reading => exact h.1 | writing => exact h.2,
    fun h => ⟨h .reading, h .writing⟩⟩

lemma slots_congr (h : ∀ d, r'.handlerOf fd d = r.handlerOf fd d) (callback : CallbackId) :
    r'.slots fd callback = r.slots fd callback := by
  rw [slots, slots, h, h]

lemma mem_heldFor :
    callback ∈ r.heldFor fd i ↔ ∃ d, i.covers d = true ∧ r.handlerOf fd d = some callback := by
  rw [heldFor]
  cases entry : r.registry.get? fd with
  | none => simp [handlerOf, entry]
  | some current =>
      simp only [handlerOf, entry, Option.elim_some, Option.bind_some, Registration.handlersFor,
        List.mem_append, List.mem_ite_nil_right, Option.mem_toList]
      constructor
      · rintro (⟨hread, h⟩ | ⟨hwrite, h⟩)
        · exact ⟨.reading, hread, h⟩
        · exact ⟨.writing, hwrite, h⟩
      · rintro ⟨_ | _, hcovers, h⟩
        · exact .inl ⟨hcovers, h⟩
        · exact .inr ⟨hcovers, h⟩

lemma count_heldFor :
    (r.heldFor fd i).count callback =
      (if i.read then (r.handlerOf fd .reading).toList.count callback else 0) +
        if i.write then (r.handlerOf fd .writing).toList.count callback else 0 := by
  rw [heldFor, Reactor.handlerOf, Reactor.handlerOf]
  cases r.registry.get? fd with
  | none => simp
  | some current =>
      simp only [Option.elim_some, Registration.handlersFor, List.count_append,
        Option.bind_some, Registration.handler]
      split <;> split <;> rfl

/-- An addition gives the callback to slots that were empty. -/
lemma Added.slots (h : Added r fd i callback r' true) (x : Fd) (c : CallbackId) :
    r'.slots x c = (if fd = x then (i.each callback).count c else 0) + r.slots x c := by
  have hvacant (d : Direction) (hd : i.covers d = true) : r.handlerOf fd d = none := by
    generalize hb : true = b at h
    cases h with
    | refused => cases hb
    | added _ apart _ =>
        rw [← currentOrFresh_handler]
        by_contra hhandler
        rw [Registration.overlaps_of_covers hd hhandler] at apart
        cases apart
  have hreading := hvacant .reading
  have hwriting := hvacant .writing
  rw [Reactor.slots, Reactor.slots, h.handlerOf, h.handlerOf, Interest.each]
  by_cases hx : fd = x
  · subst hx
    cases hr : i.read <;> cases hw : i.write <;>
      simp_all [Interest.covers, List.count_cons, Nat.add_comm]
  · simp [hx]

/-- A removal takes away what slots held. -/
lemma Removed.slots (h : Removed r fd i r' true) (x : Fd) (c : CallbackId) :
    r'.slots x c + (if fd = x then (r.heldFor fd i).count c else 0) = r.slots x c := by
  rw [Reactor.slots, Reactor.slots, h.handlerOf, h.handlerOf]
  by_cases hx : fd = x
  · subst hx
    rw [count_heldFor]
    cases hr : i.read <;> cases hw : i.write <;> simp [Interest.covers, hr, hw, Nat.add_comm]
  · simp [hx]

end Reactor

namespace Loop

variable {ι : Type}

/-- The callback that the driver shares with registrations. -/
def shared (l : Loop ι) : List CallbackId := l.active.elim [] Activation.shared

lemma shared_of_active {l : Loop ι} {a : Activation ι} (h : l.active = some a) :
    l.shared = a.shared := by
  rw [shared, h]
  rfl

lemma shared_of_idle {l : Loop ι} (h : l.active = none) : l.shared = [] := by
  rw [shared, h]
  rfl

lemma mem_shared {l : Loop ι} {callback : CallbackId} :
    callback ∈ l.shared ↔ ∃ t d, l.active = some ⟨callback, .readiness t d⟩ := by
  rw [shared]
  cases hactive : l.active with
  | none => simp
  | some a =>
      obtain ⟨running, role⟩ := a
      cases role <;> simp [Activation.shared, eq_comm]

/-- Every owner of a callback is there for something: for a slot that holds it, all of these being
slots of one descriptor, or for the driver that is running it. -/
def Owned (l : Loop ι) : Prop :=
  ∀ callback, ∃ fd, (∀ other, other ≠ fd → l.reactor.slots other callback = 0) ∧
    l.owners.count callback = l.reactor.slots fd callback + l.shared.count callback

/-- A callback has an owner as long as it is in a slot of the table or runs. -/
lemma Owned.mem_owners_iff {l : Loop ι} (h : l.Owned) {callback : CallbackId} :
    callback ∈ l.owners ↔ (∃ fd d, l.reactor.handlerOf fd d = some callback) ∨
      ∃ t d, l.active = some ⟨callback, .readiness t d⟩ := by
  obtain ⟨fd, hothers, hcount⟩ := h callback
  rw [← mem_shared, ← List.count_pos_iff, ← List.count_pos_iff, hcount]
  constructor
  · intro hpos
    rcases Nat.eq_zero_or_pos (l.reactor.slots fd callback) with hzero | hslot
    · exact .inr (by omega)
    · left
      by_contra hnone
      push Not at hnone
      exact Nat.ne_of_gt hslot (Reactor.slots_eq_zero_iff.mpr (hnone fd))
  · rintro (⟨x, d, handler⟩ | hshared)
    · by_cases hx : x = fd
      · subst hx
        have hslot : l.reactor.slots x callback ≠ 0 := fun hzero =>
          Reactor.slots_eq_zero_iff.mp hzero d handler
        omega
      · exact absurd handler (Reactor.slots_eq_zero_iff.mp (hothers x hx) d)
    · omega

/-- What a descriptor holds has as many owners at least. -/
lemma Owned.count_heldFor_le {l : Loop ι} (h : l.Owned) (fd : Fd) (i : Interest)
    (callback : CallbackId) :
    (l.reactor.heldFor fd i).count callback ≤ l.owners.count callback := by
  obtain ⟨x, hothers, hcount⟩ := h callback
  have hslots : (l.reactor.heldFor fd i).count callback ≤ l.reactor.slots fd callback := by
    rw [Reactor.count_heldFor, Reactor.slots]
    refine Nat.add_le_add ?_ ?_ <;> split <;> omega
  by_cases hx : fd = x
  · subst hx
    omega
  · rw [hothers fd hx] at hslots
    omega

lemma Owned.count_shared_le {l : Loop ι} (h : l.Owned) (callback : CallbackId) :
    l.shared.count callback ≤ l.owners.count callback := by
  obtain ⟨fd, -, hcount⟩ := h callback
  omega

/-! ### What a move does to the owners -/

/-- What becomes of the owners by a move. -/
inductive Turnover (l l' : Loop ι) : Prop
  /-- Slots get a callback that is handed over. -/
  | adds {fd : Fd} {i : Interest} (owners : l'.owners = i.each l.nextCallback ++ l.owners)
      (shared : l'.shared = l.shared)
      (added : l.reactor.Added fd i l.nextCallback l'.reactor true)
  /-- Slots give back what they held. -/
  | removes {fd : Fd} {i : Interest}
      (owners : l'.owners = (l.reactor.heldFor fd i).foldl List.erase l.owners)
      (shared : l'.shared = l.shared) (removed : l.reactor.Removed fd i l'.reactor true)
  /-- The driver gives back what it shared, and may begin to share a callback. -/
  | passes (owners : l'.owners = l'.shared ++ l.shared.foldl List.erase l.owners)
      (slots : ∀ fd d, l'.reactor.handlerOf fd d = l.reactor.handlerOf fd d)
  | rests (owners : l'.owners = l.owners) (shared : l'.shared = l.shared)
      (slots : ∀ fd d, l'.reactor.handlerOf fd d = l.reactor.handlerOf fd d)

/-- **All owners are there for something after a move, too.** -/
theorem Turnover.owned {l l' : Loop ι} (h : Turnover l l') (hl : l.Owned)
    (fresh : l.nextCallback ∉ l.owners) : l'.Owned := by
  intro callback
  obtain ⟨fd, hothers, hcount⟩ := hl callback
  cases h with
  | @adds x i owners shared added =>
      have hslots := added.slots
      by_cases hnew : callback = l.nextCallback
      · subst hnew
        rw [List.count_eq_zero.mpr fresh] at hcount
        have hnone (y : Fd) : l.reactor.slots y l.nextCallback = 0 := by
          by_cases hy : y = fd
          · subst hy
            omega
          · exact hothers y hy
        refine ⟨x, fun other hother => ?_, ?_⟩
        · rw [hslots, if_neg (Ne.symm hother), hnone]
        · rw [owners, shared, hslots, if_pos rfl, hnone, List.count_append,
            List.count_eq_zero.mpr fresh]
          omega
      · have heach : (i.each l.nextCallback).count callback = 0 := by
          rw [List.count_eq_zero, Interest.each]
          split <;> split <;> simp [hnew]
        have hsame (y : Fd) : l'.reactor.slots y callback = l.reactor.slots y callback := by
          rw [hslots, heach, ite_self, Nat.zero_add]
        refine ⟨fd, fun other hother => (hsame other).trans (hothers other hother), ?_⟩
        rw [owners, shared, hsame, List.count_append, heach, Nat.zero_add, hcount]
  | @removes x i owners shared removed =>
      have hslots := fun y => removed.slots y callback
      refine ⟨fd, fun other hother => ?_, ?_⟩
      · have := hslots other
        have := hothers other hother
        omega
      · rw [owners, shared, ← List.diff_eq_foldl, List.count_diff]
        have hx := hslots x
        rw [if_pos rfl] at hx
        by_cases hfd : x = fd
        · subst hfd
          omega
        · have hsame := hslots fd
          rw [if_neg hfd] at hsame
          have hnone := hothers x hfd
          omega
  | passes owners slots =>
      refine ⟨fd, fun other hother => ?_, ?_⟩
      · rw [Reactor.slots_congr (slots other), hothers other hother]
      · rw [owners, Reactor.slots_congr (slots fd), List.count_append,
          ← List.diff_eq_foldl, List.count_diff]
        omega
  | rests owners shared slots =>
      refine ⟨fd, fun other hother => ?_, ?_⟩
      · rw [Reactor.slots_congr (slots other), hothers other hother]
      · rw [owners, shared, Reactor.slots_congr (slots fd), hcount]

/-- What a move of the driver does to the owners. -/
lemma Advance.turnover {l l' : Loop ι} {notes : List (Note ι)} (h : Advance l l' notes)
    (hl : l.active = none)
    (slots : ∀ fd d, l'.reactor.handlerOf fd d = l.reactor.handlerOf fd d) : Turnover l l' := by
  have hidle := shared_of_idle hl
  cases h with
  | reads _ _ _ => exact .passes (by rw [hidle]; rfl) slots
  | writes _ _ _ _ _ => exact .passes (by rw [hidle]; rfl) slots
  | calls _ _ => exact .rests rfl (by rw [hidle]; rfl) slots
  | delivers _ _ _ => exact .rests rfl (by rw [hidle]; rfl) slots
  | _ => exact .rests rfl (by simp [hidle, shared_of_idle, hl]) slots

/-- **What a move does to the owners is one of the listed exchanges.** -/
theorem Stride.turnover {s : Stride ι} (hs : s.before.reactor.registry.Sound) :
    Turnover s.before s.after := by
  have hslots := s.change.handlerOf_other hs
  have hmade := s.made
  cases hm : s.move with
  | add fd i =>
      obtain ⟨b, hb, hadded⟩ := Stride.added hm
      simp only [hm, step, Loop.add, Option.some.injEq, Prod.mk.injEq, hb, Reply.flag.injEq]
        at hmade
      obtain ⟨hafter, hreply, -⟩ := hmade
      cases b with
      | true => exact .adds (by rw [← hafter, if_pos hreply]; rfl) (by rw [← hafter]; rfl) hadded
      | false =>
          refine .rests (by rw [← hafter, if_neg (by simp [hreply])]; rfl) (by rw [← hafter]; rfl)
            fun x d => ?_
          simpa using hadded.handlerOf x d
  | remove fd i =>
      obtain ⟨b, hb, hremoved⟩ := Stride.removed hm
      simp only [hm, step, Loop.remove, Option.some.injEq, Prod.mk.injEq, hb, Reply.flag.injEq]
        at hmade
      obtain ⟨hafter, hreply, -⟩ := hmade
      cases b with
      | true =>
          exact .removes (by rw [← hafter, if_pos hreply]; rfl) (by rw [← hafter]; rfl) hremoved
      | false =>
          refine .rests (by rw [← hafter, if_neg (by simp [hreply])]; rfl) (by rw [← hafter]; rfl)
            fun x d => ?_
          simpa using hremoved.handlerOf x d
  | advance =>
      obtain ⟨hidle, hadvance⟩ := s.advance hm
      exact hadvance.turnover hidle (hslots (by simp [hm]) (by simp [hm]))
  | finish =>
      have hkept := hslots (by simp [hm]) (by simp [hm])
      simp only [hm, step, finish, Option.map_map, Option.map_eq_some_iff, Function.comp_apply,
        Prod.mk.injEq] at hmade
      obtain ⟨⟨callback, role⟩, hactive, hafter, -, -⟩ := hmade
      refine .passes ?_ hkept
      rw [← hafter, shared_of_active hactive]
      cases role <;> rfl
  | unwind =>
      have hkept := hslots (by simp [hm]) (by simp [hm])
      simp only [hm, step, unwind, Option.map_map, Option.map_eq_some_iff, Function.comp_apply,
        Prod.mk.injEq] at hmade
      obtain ⟨a, hactive, hafter, -, -⟩ := hmade
      refine .passes ?_ hkept
      rw [← hafter, shared_of_active hactive]
      rfl
  | wakeUp withCallback =>
      simp only [hm, step, Loop.wakeUp, Option.some.injEq, Prod.mk.injEq] at hmade
      obtain ⟨hafter, -, -⟩ := hmade
      refine .rests ?_ ?_ (hslots (by simp [hm]) (by simp [hm]))
      all_goals
        rw [← hafter]
        cases withCallback <;> rfl
  | file action =>
      simp only [hm, step, Option.map_eq_some_iff, Prod.mk.injEq] at hmade
      obtain ⟨_, -, hafter, -, -⟩ := hmade
      exact .rests (congrArg owners hafter).symm (congrArg shared hafter).symm
        (hslots (by simp [hm]) (by simp [hm]))
  | enter =>
      simp only [hm, step, Option.ite_none_right_eq_some, Option.some.injEq, Prod.mk.injEq] at hmade
      obtain ⟨-, hafter, -, -⟩ := hmade
      exact .rests (congrArg owners hafter).symm (congrArg shared hafter).symm
        (hslots (by simp [hm]) (by simp [hm]))
  | _ =>
      simp only [hm, step, Loop.stop, Loop.setConsumer, Loop.clearConsumer, Option.some.injEq,
        Prod.mk.injEq] at hmade
      obtain ⟨hafter, -, -⟩ := hmade
      exact .rests (congrArg owners hafter).symm (congrArg shared hafter).symm
        (hslots (by simp [hm]) (by simp [hm]))

end Loop

end EventLoop
