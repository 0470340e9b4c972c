import EventLoop.Proofs.Agreement

/-!
When everything that is registered for a descriptor can be removed.

* `Kernel.Unwatchable` says that a number is open and cannot be watched.
* `unwatch_of_unwatchable` and `isGone_of_unwatch` say that for such numbers and no others the
  kernel refuses to remove an entry with an error that is no sign of the entry being gone.
* `remove_of_covers` is what follows for a removal that covers a whole registration.
* `removal_fails_only_for_unwatchable` is the main statement here, and `removal_can_be_refused` the
  case in which a registration stays for good.
-/

namespace EventLoop

/-- The number is open, but not for anything that can be watched, or the watched set is broken. -/
def Kernel.Unwatchable (k : Kernel) (fd : Fd) : Prop :=
  ∃ f, k.fileOf? fd = some f ∧ (k.canWatch f = false ∨ k.watchingBroken = true)

namespace Registration

variable {η : Type} {r : Registration η} {i : Interest}

/-- Nothing is left of a registration without all that it has. -/
lemma isEmpty_drop (covers : ∀ d, r.handler d ≠ none → i.covers d = true) :
    (r.drop i).isEmpty = true := by
  refine isEmpty_iff.mpr fun d => ?_
  rw [handler_drop]
  split
  · rfl
  · next hd =>
      by_contra hhandler
      exact hd (covers d hhandler)

lemma overlaps_of_covers {d : Reactor.Direction} (covers : i.covers d = true)
    (handler : r.handler d ≠ none) : r.overlaps i = true := by
  have hsome := Option.isSome_iff_ne_none.mpr handler
  cases d with
  | reading => exact Bool.or_eq_true_iff.mpr (.inl (Bool.and_eq_true_iff.mpr ⟨covers, hsome⟩))
  | writing => exact Bool.or_eq_true_iff.mpr (.inr (Bool.and_eq_true_iff.mpr ⟨covers, hsome⟩))

/-- An interest that covers all that a registration has overlaps it. -/
lemma overlaps_of_covers_all (filled : r.isEmpty = false)
    (covers : ∀ d, r.handler d ≠ none → i.covers d = true) : r.overlaps i = true := by
  by_contra hnone
  have hempty : r.isEmpty = true := by
    refine isEmpty_iff.mpr fun d => ?_
    by_contra hd
    exact hnone (overlaps_of_covers (covers d hd) hd)
  rw [hempty] at filled
  cases filled

end Registration

namespace Reactor

variable {ι : Type}

/-- For a number that cannot be watched, the kernel does not say that the entry is gone. -/
lemma unwatch_of_unwatchable {k : Kernel} {fd : Fd} (h : k.Unwatchable fd) :
    ∃ e, k.unwatch fd = .error e ∧ isGone e = false := by
  have hwatchable : ∃ e, k.watchable fd = .error e ∧ isGone e = false := by
    obtain ⟨f, hf, hrefused⟩ := h
    cases hwatch : k.canWatch f with
    | false => exact ⟨.notPermitted, by simp [Kernel.watchable, hf, hwatch], rfl⟩
    | true =>
        have hbroken : k.watchingBroken = true := hrefused.resolve_left (by simp [hwatch])
        exact ⟨.invalid, by simp [Kernel.watchable, hf, hwatch, hbroken], rfl⟩
  obtain ⟨e, he, hgone⟩ := hwatchable
  refine ⟨e, ?_, hgone⟩
  rw [Kernel.unwatch, he]
  rfl

/-- For any other number, all that can be amiss is that the entry is gone. -/
lemma isGone_of_unwatch {k : Kernel} {fd : Fd} {e : OsError} (h : ¬k.Unwatchable fd)
    (hunwatch : k.unwatch fd = .error e) : isGone e = true := by
  rw [Kernel.unwatch] at hunwatch
  cases hf : k.fileOf? fd with
  | none =>
      rw [Kernel.watchable, hf] at hunwatch
      cases hunwatch
      rfl
  | some f =>
      have hwatchable : k.watchable fd = .ok f := by
        refine Kernel.watchable_eq_ok.mpr ⟨hf, ?_, ?_⟩
        · by_contra hnone
          exact h ⟨f, hf, .inl (by simpa using hnone)⟩
        · by_contra hbroken
          exact h ⟨f, hf, .inr (by simpa using hbroken)⟩
      simp only [hwatchable, bind, Except.bind] at hunwatch
      split at hunwatch
      · cases hunwatch
        rfl
      · cases hunwatch

/-- The kernel is told that nothing is to be watched any more. -/
lemma sync_of_isEmpty_after {k : Kernel} {fd : Fd} {token : Token} {before after : Interest}
    (h : after.isEmpty = true) :
    sync k fd token before after = if before.isEmpty then .ok k else k.unwatch fd := by
  rw [sync, h]
  cases before.isEmpty <;> rfl

/-- A removal that covers a whole registration succeeds unless something is watched for the
descriptor and its number cannot be watched. -/
lemma remove_of_covers {r : Reactor ι} (hr : r.registry.Sound) {fd : Fd} {i : Interest}
    {current : Registration CallbackId} (entry : r.registry.get? fd = some current)
    (covers : ∀ d, current.handler d ≠ none → i.covers d = true) :
    (r.remove fd i).2.1 = true ↔ current.active.isEmpty = true ∨ ¬r.kernel.Unwatchable fd := by
  have hoverlaps := Registration.overlaps_of_covers_all (hr.filled fd current entry) covers
  have hempty := active_isEmpty_of_isEmpty (Registration.isEmpty_drop covers)
  rw [remove, entry]
  simp only [hoverlaps, Bool.not_true, Bool.false_eq_true, if_false, sync_of_isEmpty_after hempty,
    hempty, Bool.true_and]
  cases hactive : current.active.isEmpty with
  | true => simp
  | false =>
      simp only [Bool.false_eq_true, if_false, false_or]
      cases hunwatch : r.kernel.unwatch fd with
      | ok k =>
          refine iff_of_true rfl fun hbad => ?_
          obtain ⟨e, he, -⟩ := unwatch_of_unwatchable hbad
          rw [hunwatch] at he
          cases he
      | error e =>
          by_cases hbad : r.kernel.Unwatchable fd
          · obtain ⟨e', he, hgone⟩ := unwatch_of_unwatchable hbad
            rw [hunwatch] at he
            cases he
            simp [hgone, hbad]
          · simp [isGone_of_unwatch hbad hunwatch, hbad]

/-- A removal that covers a whole registration and succeeds takes the registration out of the
table. -/
lemma registry_of_remove {r : Reactor ι} {fd : Fd} {i : Interest}
    {current : Registration CallbackId} (entry : r.registry.get? fd = some current)
    (covers : ∀ d, current.handler d ≠ none → i.covers d = true)
    (h : (r.remove fd i).2.1 = true) :
    (r.remove fd i).1.registry = (r.registry.remove fd).1 := by
  have hremoved := r.removed fd i
  rw [h] at hremoved
  generalize (r.remove fd i).1 = r' at hremoved
  have hdropped : ∀ other, r.registry.get? fd = some other →
      dropped r.registry fd (other.drop i) = (r.registry.remove fd).1 := by
    intro other hother
    obtain rfl : current = other := by simpa [entry] using hother
    exact if_pos (Registration.isEmpty_drop covers)
  cases hremoved with
  | removed entry' _ _ => exact hdropped _ entry'
  | gone entry' _ _ _ _ => exact hdropped _ entry'

end Reactor

namespace Loop

variable {ι : Type}

/-- **A complete removal fails only for a number that cannot be watched.** Whatever happened before,
and whatever became of the files, removing everything that is registered for a descriptor succeeds
exactly if the kernel was not asked to watch the descriptor, or its number is free or stands for a
file that can be watched, while the watched set is not broken. After a success the descriptor has
no registration, and its token leads nowhere, then and at any later time. -/
theorem removal_fails_only_for_unwatchable (kernel : Kernel) (capacity : Nat) (ms : List (Move ι))
    {fd : Fd} {i : Interest} {current : Registration CallbackId}
    (entry : ((start kernel capacity).after ms).reactor.registry.get? fd = some current)
    (covers : ∀ d, current.handler d ≠ none → i.covers d = true) :
    ((((start kernel capacity).after ms).remove fd i).2.1 = true ↔
      current.active.isEmpty = true ∨
        ¬((start kernel capacity).after ms).reactor.kernel.Unwatchable fd) ∧
    ((((start kernel capacity).after ms).remove fd i).2.1 = true →
      (((start kernel capacity).after ms).remove fd i).1.reactor.registry.get? fd = none ∧
      ∀ ms', ((((start kernel capacity).after ms).remove fd i).1.after
        ms').reactor.registry.resolve current.token = .absent) := by
  have hsound := sound_after (ι := ι) kernel capacity ms
  generalize (start kernel capacity).after ms = l at entry hsound ⊢
  refine ⟨Reactor.remove_of_covers hsound entry covers, fun h => ?_⟩
  have hregistry : (l.remove fd i).1.reactor.registry = (l.reactor.registry.remove fd).1 :=
    Reactor.registry_of_remove entry covers h
  have hfollows := Registry.follows_remove hsound fd
  refine ⟨by rw [hregistry, Registry.get?_remove, if_pos rfl], ?_⟩
  refine resolve_after_eq_absent (hregistry ▸ hfollows.sound) ?_ ?_
  · rw [hregistry]
    exact Nat.lt_of_lt_of_le (hsound.drawn fd current entry) hfollows.nextToken
  · intro x other hother ht
    rw [hregistry, Registry.get?_remove] at hother
    split at hother
    · cases hother
    · next hx => exact hx (hsound.fd_eq entry hother ht.symm)

/-! ### A number reopened behind the back of the reactor

A registered descriptor is closed, and its number is opened again: once for a file that can be
watched, once for one that cannot.
-/

namespace ReopenedNumber

/-- The number stands for another connection now. -/
def watchable : List (Move Unit) :=
  [.file (.pair 100 101), .file (.pair 102 103), .add 100 .both, .file (.close 100),
    .file (.duplicate 102 100)]

/-- The number stands for a device now. -/
def unwatchable : List (Move Unit) :=
  [.file (.pair 100 101), .add 100 .readOnly, .file (.close 100), .file (.device 100)]

end ReopenedNumber

/-- The entry is gone, and the removal succeeds. -/
theorem removal_fails_only_for_unwatchable_duplicate :
    ((start (.boot none) 64).after ReopenedNumber.watchable).reactor.registry.get? 100 =
        some ⟨0, some 0, some 0, true⟩ ∧
      (∀ d, (⟨0, some 0, some 0, true⟩ : Registration CallbackId).handler d ≠ none →
        Interest.both.covers d = true) ∧
      (((start (.boot none) 64).after ReopenedNumber.watchable).remove 100 .both).2.1 = true ∧
      (((start (.boot none) 64).after ReopenedNumber.watchable).remove 100
        .both).1.reactor.registry.get? 100 = none := by
  have entry : ((start (.boot none) 64).after ReopenedNumber.watchable).reactor.registry.get? 100 =
      some ⟨0, some 0, some 0, true⟩ := rfl
  have covers : ∀ d, (⟨0, some 0, some 0, true⟩ : Registration CallbackId).handler d ≠ none →
      Interest.both.covers d = true := by
    intro d _
    cases d <;> rfl
  have hall := removal_fails_only_for_unwatchable (.boot none) 64 ReopenedNumber.watchable entry
    covers
  have hremoved := hall.1.mpr (.inr fun ⟨f, hf, hrefused⟩ => by
    cases hf
    exact absurd hrefused (by decide))
  exact ⟨entry, covers, hremoved, (hall.2 hremoved).1⟩

/-- It is not so that everything that is registered can always be removed, even while the watched
set is not broken. -/
theorem removal_can_be_refused :
    ¬∀ (limit : Option Nat) (capacity : Nat) (ms : List (Move Unit)) (fd : Fd) (i : Interest)
        (current : Registration CallbackId),
      ((start (.boot limit) capacity).after ms).reactor.registry.get? fd = some current →
      (∀ d, current.handler d ≠ none → i.covers d = true) →
      ((start (.boot limit) capacity).after ms).reactor.kernel.watchingBroken = false →
      (((start (.boot limit) capacity).after ms).remove fd i).2.1 = true := by
  intro h
  have hremoved := h none 64 ReopenedNumber.unwatchable 100 .both ⟨0, some 0, none, false⟩ rfl
    (fun d _ => by cases d <;> rfl) rfl
  exact absurd hremoved (by decide)

end Loop

end EventLoop
