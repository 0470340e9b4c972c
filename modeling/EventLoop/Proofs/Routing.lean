import EventLoop.Proofs.Dispatch

/-!
Events find their way by tokens. The index of the tokens leads exactly to the registrations that
carry them, whatever is done with callbacks and descriptors, so an event that comes late leads to
the registration that it was made for or nowhere.

* `Registration.Armable` says that a registration is armed only for a write handler; `armable_after`
  says that this is so at any time.
* `Stride.resolve_of_removed` says that the token of a registration that is gone leads nowhere.
* `Stride.exit_of_left` says why a run of the driver may end.
* `tokens_route_events` is the main statement here.
-/

namespace EventLoop

namespace Registration

variable {η : Type}

/-- A registration is armed only if it has a write handler. -/
def Armable (r : Registration η) : Prop := r.armed = true → r.write ≠ none

lemma armable_fresh (t : Token) : (fresh t : Registration η).Armable := nofun

lemma Armable.add {r : Registration η} (h : r.Armable) (i : Interest) (handler : η) :
    (r.add i handler).Armable := by
  rcases i with ⟨_, _ | _⟩
  · exact h
  · exact fun _ => nofun

lemma Armable.drop {r : Registration η} (h : r.Armable) (i : Interest) : (r.drop i).Armable := by
  rcases i with ⟨_, _ | _⟩
  · exact h
  · exact nofun

end Registration

namespace Registry

variable {η : Type}

/-- Every registration of the table is armed only for a write handler. -/
def Armable (r : Registry η) : Prop :=
  ∀ fd current, r.get? fd = some current → current.Armable

/-- Where one registration changes, it is enough to look at this one. -/
lemma Armable.of_put {r r' : Registry η} (h : r.Armable) (fd : Fd)
    (hothers : ∀ x, fd ≠ x → r'.get? x = r.get? x)
    (hput : ∀ next, r'.get? fd = some next → next.Armable) : r'.Armable := by
  intro x next hx
  by_cases hfd : fd = x
  · exact hput next (hfd ▸ hx)
  · exact h x next (hothers x hfd ▸ hx)

end Registry

namespace Reactor

variable {ι : Type} {r r' : Reactor ι} {fd : Fd} {i : Interest} {b : Bool}

lemma armable_currentOrFresh (h : r.registry.Armable) (fd : Fd) :
    (r.registry.currentOrFresh fd).2.Armable := by
  cases hc : r.registry.get? fd with
  | none =>
      rw [Registry.currentOrFresh_of_none hc]
      exact Registration.armable_fresh _
  | some current =>
      rw [Registry.currentOrFresh_of_some hc]
      exact h fd current hc

lemma armable_dropped {registry : Registry CallbackId} (h : registry.Armable)
    {next : Registration CallbackId} (hnext : next.Armable) :
    (dropped registry fd next).Armable := by
  refine h.of_put fd (fun x hx => by rw [dropped_get?, if_neg hx]) fun left hleft => ?_
  rw [dropped_get?, if_pos rfl, Option.ite_none_left_eq_some] at hleft
  exact Option.some.inj hleft.2 ▸ hnext

lemma Added.armable {callback : CallbackId} (h : Added r fd i callback r' b)
    (hr : r.registry.Armable) : r'.registry.Armable := by
  cases h with
  | refused kept =>
      rcases kept with rfl | rfl
      · exact hr
      · exact fun x current hx => hr x current (by rwa [Registry.get?_currentOrFresh] at hx)
  | added _ _ _ =>
      refine hr.of_put fd (fun x hx => by simp [hx]) fun next hnext => ?_
      rw [Registry.get?_insert, if_pos rfl] at hnext
      exact Option.some.inj hnext ▸ (armable_currentOrFresh hr fd).add i callback

lemma Removed.armable (h : Removed r fd i r' b) (hr : r.registry.Armable) :
    r'.registry.Armable := by
  cases h with
  | refused => exact hr
  | removed entry _ _ => exact armable_dropped hr ((hr fd _ entry).drop i)
  | gone entry _ _ _ _ => exact armable_dropped hr ((hr fd _ entry).drop i)

/-- Arming what has a write handler, and disarming. -/
lemma armable_modify (h : r.registry.Armable) {next : Registration CallbackId}
    (hnext : next.Armable) : (r.registry.modify fd fun _ => next).Armable := by
  refine h.of_put fd (fun x hx => by simp [hx]) fun left hleft => ?_
  rw [Registry.get?_modify, if_pos rfl, Option.map_eq_some_iff] at hleft
  obtain ⟨-, -, rfl⟩ := hleft
  exact hnext

lemma Requested.armable (h : Requested r fd r' b) (hr : r.registry.Armable) :
    r'.registry.Armable := by
  cases h with
  | refused => exact hr
  | already _ _ _ => exact hr
  | armed _ write _ _ => exact armable_modify hr fun _ => Option.isSome_iff_ne_none.mp write

lemma Taken.armable {current : Registration CallbackId} (h : Taken r fd current r')
    (hr : r.registry.Armable) : r'.registry.Armable := by
  rw [h.registry]
  exact armable_modify hr nofun

end Reactor

namespace Loop

open Reactor (Direction Exit Note)

variable {ι : Type}

lemma Change.armable {l : Loop ι} {m : Move ι} {reply : Reply ι} {r : Reactor ι}
    (h : Change l m reply r) (hl : l.reactor.registry.Armable) : r.registry.Armable := by
  cases h with
  | add fd i => exact (l.reactor.added fd i l.nextCallback).armable hl
  | remove fd i => exact (l.reactor.removed fd i).armable hl
  | requestWrite fd => exact (l.reactor.requested fd).armable hl
  | takeWrite _ armed handler => exact (l.reactor.taken _ armed handler).armable hl
  | file _ => exact hl
  | breakWatching => exact hl
  | same _ registrations => rwa [registrations.registry]

lemma armable_after (kernel : Kernel) (capacity : Nat) (ms : List (Move ι)) :
    ((start kernel capacity).after ms).reactor.registry.Armable :=
  history_rec (P := fun _ l => l.reactor.registry.Armable)
    (fun fd current hc => by simp [start, Reactor.start] at hc)
    (fun _ s h => s.change.armable h) ms

/-- The token of a registration that a move takes out of the table leads nowhere from then on. -/
lemma Stride.resolve_of_removed {s : Stride ι} (hs : s.before.reactor.registry.Sound) {fd : Fd}
    {current : Registration CallbackId} (entry : s.before.reactor.registry.get? fd = some current)
    (removed : s.after.reactor.registry.get? fd = none) (ms : List (Move ι)) :
    (s.after.after ms).reactor.registry.resolve current.token = .absent := by
  have hfollows := s.change.follows hs
  have hdrawn := hs.drawn fd current entry
  refine resolve_after_eq_absent hfollows.sound (Nat.lt_of_lt_of_le hdrawn hfollows.nextToken) ?_ ms
  intro x next hx ht
  -- the token has not been with another descriptor, so it is not with one now
  obtain ⟨old, hold, holdt⟩ := hfollows.stays x next hx (ht ▸ hdrawn)
  obtain rfl := hs.fd_eq hold entry (holdt.trans ht)
  rw [removed] at hx
  cases hx

/-! ### Why a run ends -/

/-- Nothing among the notes is the end of a run. -/
def NoExit (notes : List (Note ι)) : Prop := ∀ exit, .left exit ∉ notes

lemma NoExit.append {notes notes' : List (Note ι)} (h : NoExit notes) (h' : NoExit notes') :
    NoExit (notes ++ notes') := fun exit hm => (List.mem_append.mp hm).elim (h exit) (h' exit)

lemma NoExit.cons {note : Note ι} {notes : List (Note ι)} (h : ∀ exit, note ≠ .left exit)
    (h' : NoExit notes) : NoExit (note :: notes) := fun exit hm =>
  (List.mem_cons.mp hm).elim (fun heq => h exit heq.symm) (h' exit)

lemma noExit_of_registration {notes : List (Note ι)} (h : ∀ n ∈ notes, OfRegistration n) :
    NoExit notes := fun _ hm => h _ hm

lemma noExit_released (callbacks : List CallbackId) :
    NoExit (callbacks.map .released : List (Note ι)) := by simp [NoExit]

lemma noExit_discards (wakeups : List Wakeup) : NoExit (discards wakeups : List (Note ι)) := by
  simp [NoExit, discards]

lemma noExit_wake (r : Reactor ι) : NoExit r.wake.2 := by
  rw [Reactor.wake]
  split <;> simp [NoExit]

lemma noExit_wakeUp (r : Reactor ι) (w : Option Wakeup) : NoExit (r.wakeUp w).2 := by
  unfold Reactor.wakeUp
  split
  · exact noExit_wake r
  · split
    · simp [NoExit]
    · exact .cons (by simp) (noExit_wake _)

lemma noExit_stop (r : Reactor ι) : NoExit r.stop.2 := by
  rw [Reactor.stop]
  refine .append (.append ?_ ?_) (noExit_wake _)
  · split <;> simp [NoExit]
  · split <;> simp [NoExit]

/-- Of the moves that are not the driver's own, only a panic ends a run. -/
lemma noExit_of_step {l l' : Loop ι} {m : Move ι} {reply : Reply ι} {notes : List (Note ι)}
    (h : l.step m = some (l', reply, notes)) (hadvance : m ≠ .advance) (hunwind : m ≠ .unwind) :
    NoExit notes := by
  cases m with
  | advance => exact absurd rfl hadvance
  | unwind => exact absurd rfl hunwind
  | add fd i =>
      simp only [step, Loop.add, Option.some.injEq, Prod.mk.injEq] at h
      obtain ⟨-, -, rfl⟩ := h
      have hnotes := noExit_of_registration (ofRegistration_add l.reactor fd i l.nextCallback)
      split
      · exact hnotes
      · exact hnotes.append (by simp [NoExit])
  | remove fd i =>
      simp only [step, Loop.remove, Option.some.injEq, Prod.mk.injEq] at h
      obtain ⟨-, -, rfl⟩ := h
      have hnotes := noExit_of_registration (ofRegistration_remove l.reactor fd i)
      exact hnotes.append (noExit_released _)
  | requestWrite fd =>
      simp only [step, Option.some.injEq, Prod.mk.injEq] at h
      obtain ⟨-, -, rfl⟩ := h
      exact noExit_of_registration (ofRegistration_requestWrite l.reactor fd)
  | stop =>
      simp only [step, Loop.stop, Option.some.injEq, Prod.mk.injEq] at h
      obtain ⟨-, -, rfl⟩ := h
      exact .append (noExit_stop _) (noExit_discards _)
  | wakeUp withCallback =>
      simp only [step, Loop.wakeUp, Option.some.injEq, Prod.mk.injEq] at h
      obtain ⟨-, -, rfl⟩ := h
      cases withCallback with
      | false => exact noExit_wakeUp _ _
      | true =>
          simp only [if_true]
          split
          · exact .append (noExit_wakeUp _ _) (by simp [NoExit])
          · exact noExit_wakeUp _ _
  | push q item =>
      simp only [step, Reactor.push, Option.some.injEq, Prod.mk.injEq] at h
      obtain ⟨-, -, rfl⟩ := h
      exact .cons (by simp) (noExit_wakeUp _ _)
  | setConsumer q =>
      simp only [step, Loop.setConsumer, Option.some.injEq, Prod.mk.injEq] at h
      obtain ⟨-, -, rfl⟩ := h
      simp [NoExit, consumerRelease]
  | clearConsumer q =>
      simp only [step, Loop.clearConsumer, Option.some.injEq, Prod.mk.injEq] at h
      obtain ⟨-, -, rfl⟩ := h
      simp [NoExit, consumerRelease]
  | file action =>
      simp only [step, Option.map_eq_some_iff, Prod.mk.injEq] at h
      obtain ⟨_, -, -, -, rfl⟩ := h
      simp [NoExit]
  | enter =>
      simp only [step, Option.ite_none_right_eq_some, Option.some.injEq, Prod.mk.injEq] at h
      obtain ⟨-, -, -, rfl⟩ := h
      simp [NoExit]
  | finish =>
      simp only [step, finish, Option.map_map, Option.map_eq_some_iff, Function.comp_apply,
        Prod.mk.injEq] at h
      obtain ⟨a, -, -, -, rfl⟩ := h
      split
      · exact .cons (by simp) (noExit_released _)
      · simp [NoExit]
      · dsimp only
        split <;> simp [NoExit]
  | _ => cases h; simp [NoExit]

/-- The driver ends a run because the reactor was stopped or because a wait failed: no token leads
to a registration that carries another one. -/
lemma Advance.exit {l l' : Loop ι} {notes : List (Note ι)} (h : Advance l l' notes)
    (hl : l.reactor.registry.Sound) {exit : Exit} (hexit : .left exit ∈ notes) :
    exit = .stopped ∨ ∃ e, exit = .failed e := by
  cases h with
  | stops _ _ => exact .inl (by simpa using hexit)
  | @fails e _ _ _ => exact .inr ⟨e, by simpa using hexit⟩
  | wakes _ _ _ _ => split at hexit <;> simp at hexit
  | discards _ _ => exact absurd hexit (noExit_discards _ exit)
  | @writes e rest fd registration callback _ _ _ _ _ =>
      have htaken := noExit_of_registration (ofRegistration_takeWrite l.reactor fd registration)
      exact absurd hexit (htaken.append (by simp [NoExit]) exit)
  | mismatches _ mismatch => exact absurd mismatch (hl.resolve_ne_mismatched _ _)
  | _ => simp at hexit

/-- **A run ends** because the reactor was stopped, because a wait failed or because a callback
panicked, and for no other reason. -/
theorem Stride.exit_of_left {s : Stride ι} (hs : s.before.reactor.registry.Sound) {exit : Exit}
    (h : .left exit ∈ s.notes) : exit = .stopped ∨ (∃ e, exit = .failed e) ∨ exit = .panicked := by
  by_cases hadvance : s.move = .advance
  · rcases (s.advance hadvance).2.exit hs h with hstopped | hfailed
    · exact .inl hstopped
    · exact .inr (.inl hfailed)
  by_cases hunwind : s.move = .unwind
  · right; right
    have hmade := s.made
    simp only [hunwind, step, unwind, Option.map_map, Option.map_eq_some_iff, Function.comp_apply,
      Prod.mk.injEq] at hmade
    obtain ⟨a, -, -, -, hnotes⟩ := hmade
    rw [← hnotes, List.mem_append, List.mem_append] at h
    rcases h with (hreleased | hdiscarded) | hleft
    · exact absurd hreleased ((noExit_released _).append (noExit_released _) exit)
    · exact absurd hdiscarded (noExit_discards _ exit)
    · simpa [leave] using hleft
  · exact absurd h (noExit_of_step s.made hadvance hunwind exit)

/-! ### The main statement -/

/-- **Tokens route events.** At any time of a run, whatever is done with callbacks and descriptors:
the index leads from a token to a descriptor just if the registration of this descriptor carries it;
every registration has a callback and is armed only for a write callback; the tokens in use were
drawn before and, as long as there are any to draw, are not the one of the wakeup counter; and no
token leads to a registration that carries another one, so no run ends because of that. The token
of a registration that is taken out of the table leads nowhere from then on. -/
theorem tokens_route_events (kernel : Kernel) (capacity : Nat) (ms : List (Move ι)) :
    (∀ t fd, ((start kernel capacity).after ms).reactor.registry.tokens[t]? = some fd ↔
      ∃ current, ((start kernel capacity).after ms).reactor.registry.get? fd = some current ∧
        current.token = t) ∧
    (∀ fd current, ((start kernel capacity).after ms).reactor.registry.get? fd = some current →
      (∃ d, current.handler d ≠ none) ∧ (current.armed = true → current.write ≠ none) ∧
        current.token < ((start kernel capacity).after ms).reactor.registry.nextToken ∧
        (((start kernel capacity).after ms).reactor.registry.nextToken ≤ .wakeup →
          current.token ≠ .wakeup)) ∧
    (∀ t held, ((start kernel capacity).after ms).reactor.registry.resolve t ≠ .mismatched held) ∧
    (∀ s ∈ (start kernel capacity).strides ms, ∀ held asked,
      .left (.mismatched held asked) ∉ s.notes) ∧
    (∀ past s later fd current, (start kernel capacity).strides ms = past ++ s :: later →
      s.before.reactor.registry.get? fd = some current →
      s.after.reactor.registry.get? fd = none →
      ∀ t ∈ s :: later, t.after.reactor.registry.resolve current.token = .absent) := by
  have hsound := sound_after kernel capacity ms
  refine ⟨hsound.tokens, ?_, hsound.resolve_ne_mismatched, ?_, ?_⟩
  · intro fd current entry
    have hdrawn := hsound.drawn fd current entry
    refine ⟨?_, armable_after kernel capacity ms fd current entry, hdrawn, ?_⟩
    · by_contra hnone
      have hempty := Registration.isEmpty_iff.mpr fun d => by
        by_contra hd
        exact hnone ⟨d, hd⟩
      rw [hsound.filled fd current entry] at hempty
      cases hempty
    · intro hleft
      exact Nat.ne_of_lt (Nat.lt_of_lt_of_le hdrawn hleft)
  · intro s hs held asked hnoted
    obtain ⟨ms₁, hbefore⟩ := exists_after_eq_before hs
    have hsound := sound_after kernel capacity ms₁
    rw [hbefore] at hsound
    rcases Stride.exit_of_left hsound hnoted with hstopped | ⟨e, hfailed⟩ | hpanicked
    · cases hstopped
    · cases hfailed
    · cases hpanicked
  · intro past s later fd current hcut entry removed t ht
    obtain ⟨ms₁, ms₂, -, hbefore, hlater, -⟩ := exists_moves_of_strides_eq hcut
    have hsound := sound_after kernel capacity ms₁
    rw [hbefore] at hsound
    rcases List.mem_cons.mp ht with rfl | ht
    · exact Stride.resolve_of_removed hsound entry removed []
    · rw [← hlater] at ht
      obtain ⟨ms₃, hms₃⟩ := exists_after_eq_after ht
      rw [← hms₃]
      exact Stride.resolve_of_removed hsound entry removed ms₃

/-! ### An event that comes too late

Two descriptors are readable at the same wait. The callback of the first removes the second, closes
it, opens it anew and registers it again; an addition that the kernel refuses draws a token in
between. The event of the second is still at hand then.
-/

namespace LateEvent

/-- Everything up to the start of the first callback. -/
def begin : List (Move Unit) :=
  [.file (.pair 100 101), .file (.pair 102 103), .add 100 .readOnly, .add 102 .readOnly,
    .file (.write 101 [120]), .file (.write 103 [121]), .enter, .advance, .advance]

def removes : Stride Unit :=
  stride ((start (.boot none) 64).after begin) (.remove 102 .readOnly) rfl

/-- What else the callback does, up to the half of the event that comes too late. -/
def reopens : List (Move Unit) :=
  [.file (.close 102), .file (.pair 102 104), .add 105 .readOnly, .add 102 .both, .finish,
    .advance]

/-- The driver comes to the event. -/
def late : Stride Unit := stride (removes.after.after reopens) .advance rfl

lemma cut :
    (start (.boot none) 64).strides (begin ++ .remove 102 .readOnly :: (reopens ++ [.advance])) =
      (start (.boot none) 64).strides begin ++ removes ::
        (removes.after.strides reopens ++ [late]) := rfl

end LateEvent

/-- The token of the event leads nowhere, and not to the new registration of its descriptor. -/
theorem tokens_route_events_late :
    (start (.boot none) 64).strides
        (LateEvent.begin ++ .remove 102 .readOnly :: (LateEvent.reopens ++ [.advance])) =
      (start (.boot none) 64).strides LateEvent.begin ++ LateEvent.removes ::
        (LateEvent.removes.after.strides LateEvent.reopens ++ [LateEvent.late]) ∧
      LateEvent.removes.before.reactor.registry.get? 102 = some ⟨1, some 1, none, false⟩ ∧
      LateEvent.removes.after.reactor.registry.get? 102 = none ∧
      LateEvent.late.before.stage = .dispatching [⟨1, true, false⟩] ∧
      LateEvent.late.after.reactor.registry.get? 102 = some ⟨3, some 3, some 3, true⟩ ∧
      LateEvent.late.after.reactor.registry.nextToken ≤ .wakeup ∧ (3 : Token) ≠ .wakeup ∧
      LateEvent.late.after.reactor.registry.resolve 1 = .absent := by
  have hentry : LateEvent.removes.before.reactor.registry.get? 102 =
      some ⟨1, some 1, none, false⟩ := rfl
  have hremoved : LateEvent.removes.after.reactor.registry.get? 102 = none := rfl
  have hnew : LateEvent.late.after.reactor.registry.get? 102 =
      some ⟨3, some 3, some 3, true⟩ := rfl
  have hnext : LateEvent.late.after.reactor.registry.nextToken = 4 := rfl
  have hleft : LateEvent.late.after.reactor.registry.nextToken ≤ .wakeup := hnext ▸ by decide
  have hroutes := tokens_route_events (ι := Unit) (.boot none) 64
    (LateEvent.begin ++ .remove 102 .readOnly :: (LateEvent.reopens ++ [.advance]))
  refine ⟨LateEvent.cut, hentry, hremoved, rfl, hnew, hleft, ?_, ?_⟩
  · exact (hroutes.2.1 102 ⟨3, some 3, some 3, true⟩ hnew).2.2.2 hleft
  · exact hroutes.2.2.2.2 _ _ _ _ _ LateEvent.cut hentry hremoved LateEvent.late (by simp)

end Loop

end EventLoop
