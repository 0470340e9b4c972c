import EventLoop.Proofs.History

/-!
The driver calls back who is registered. When it starts a callback for readiness, the token of the
event belongs to one descriptor, and the callback is the one registered for this descriptor in this
direction at this time, by the history up to then.

* `Stride.Starts.entry` finds the registration that a callback is taken from.
* `dispatch_follows_history` is the main statement here.
-/

namespace EventLoop

namespace Reactor

variable {ι : Type}

/-- Half of an event leads to the handler of the registration with the token of the event. -/
lemma exists_entry_of_callbackOf {r : Reactor ι} (hr : r.registry.Sound) {t : Token} {d : Direction}
    {callback : CallbackId} (h : r.callbackOf t d = some callback) :
    ∃ fd current, r.registry.get? fd = some current ∧ current.token = t ∧
      current.handler d = some callback := by
  unfold callbackOf at h
  split at h
  · next fd current hfound =>
      obtain ⟨hc, ht⟩ := hr.resolve_eq_found.mp hfound
      exact ⟨fd, current, hc, ht, h⟩
  · next fd current hfound =>
      obtain ⟨hc, ht⟩ := hr.resolve_eq_found.mp hfound
      rw [Option.ite_none_right_eq_some] at h
      exact ⟨fd, current, hc, ht, h.2⟩
  · cases h

/-- The descriptors with a registration are those with a callback. -/
lemma get?_ne_none_iff {r : Reactor ι} (hr : r.registry.Sound) (fd : Fd) :
    r.registry.get? fd ≠ none ↔ ∃ d callback, r.handlerOf fd d = some callback := by
  unfold handlerOf
  constructor
  · intro h
    obtain ⟨current, hc⟩ := Option.ne_none_iff_exists'.mp h
    have hfilled := hr.filled fd current hc
    by_contra hnone
    have hempty : current.isEmpty = true := by
      refine Registration.isEmpty_iff.mpr fun d => ?_
      by_contra hd
      obtain ⟨callback, hcallback⟩ := Option.ne_none_iff_exists'.mp hd
      exact hnone ⟨d, callback, by simpa [hc] using hcallback⟩
    rw [hempty] at hfilled
    cases hfilled
  · rintro ⟨d, callback, hd⟩ hnone
    simp [hnone] at hd

end Reactor

namespace Loop

open Reactor (Direction)

variable {ι : Type}

/-- A callback that is started for readiness is taken from the registration with the token. -/
lemma Stride.Starts.entry {s : Stride ι} {callback : CallbackId} {t : Token} {d : Direction}
    (h : s.Starts callback (.readiness t d)) (hs : s.before.reactor.registry.Sound) :
    ∃ fd current, s.before.reactor.registry.get? fd = some current ∧ current.token = t ∧
      s.before.reactor.handlerOf fd d = some callback := by
  obtain ⟨-, hidle, hadvance, hactive⟩ := h.advance
  have hcallback := (hadvance.readiness hidle hactive).2
  obtain ⟨fd, current, hc, ht, hhandler⟩ := Reactor.exists_entry_of_callbackOf hs hcallback
  exact ⟨fd, current, hc, ht, by simpa [Reactor.handlerOf, hc] using hhandler⟩

/-- The token of a started callback belongs to one descriptor, and the callback is the one that is
registered for it. -/
lemma Stride.Starts.registered {kernel : Kernel} {capacity : Nat} {ms : List (Move ι)}
    {past later : List (Stride ι)} {s : Stride ι}
    (hcut : (start kernel capacity).strides ms = past ++ s :: later) {callback : CallbackId}
    {t : Token} {d : Direction} (h : s.Starts callback (.readiness t d)) :
    ∃ fd, (∃ current, s.before.reactor.registry.get? fd = some current ∧ current.token = t) ∧
      (∀ other, Carries past other t ↔ other = fd) ∧ Registered past fd d callback := by
  obtain ⟨ms₁, -, rfl, hbefore, -⟩ := exists_moves_of_strides_eq hcut
  have htokens := tokened kernel capacity ms₁
  rw [hbefore] at htokens
  obtain ⟨fd, current, hc, rfl, hhandler⟩ := h.entry htokens.sound
  have hcarries := htokens.entry fd current hc
  refine ⟨fd, ⟨current, hc, rfl⟩, fun other => ⟨fun ho => ?_, fun ho => ?_⟩, ?_⟩
  · exact htokens.fd_eq other fd _ ho hcarries
  · exact ho ▸ hcarries
  · rwa [← handlerOf_iff_registered, hbefore]

/-- A callback that no descriptor has in a direction is never the callback of a descriptor in this
direction again. -/
lemma handlerOf_after_ne {l : Loop ι} (hl : l.reactor.registry.Sound) {d : Direction}
    {callback : CallbackId} (hold : callback < l.nextCallback)
    (hnone : ∀ fd, l.reactor.handlerOf fd d ≠ some callback) (ms : List (Move ι)) (fd : Fd) :
    (l.after ms).reactor.handlerOf fd d ≠ some callback := by
  have h := history_rec_of_sound (l := l)
    (P := fun _ l' => callback < l'.nextCallback ∧
      ∀ fd, l'.reactor.handlerOf fd d ≠ some callback)
    hl ⟨hold, hnone⟩ ?_ ms
  · exact h.2 fd
  · rintro past s hs ⟨hlt, ih⟩
    refine ⟨?_, ?_⟩
    · rw [s.nextCallback]
      exact Nat.lt_of_lt_of_le hlt (Nat.le_add_right _ _)
    · intro x hx
      rw [s.handlerOf_eq_some hs] at hx
      rcases hx with ⟨-, -, -, -, hcallback⟩ | ⟨hbefore, -⟩
      · exact Nat.ne_of_gt hlt hcallback
      · exact ih x hbefore

/-- A callback that was removed in a direction is not started in this direction again. -/
lemma not_starts_after_removal {kernel : Kernel} {capacity : Nat} {ms : List (Move ι)}
    {past middle later : List (Stride ι)} {r s : Stride ι}
    (hcut : (start kernel capacity).strides ms = past ++ r :: (middle ++ s :: later)) {fd : Fd}
    {d : Direction} {callback : CallbackId} (h : Registered past fd d callback)
    (hr : r.Removes fd d) (t : Token) : ¬s.Starts callback (.readiness t d) := by
  intro hstarts
  obtain ⟨ms₁, ms₂, hpast, hbefore, hrest, -⟩ := exists_moves_of_strides_eq hcut
  obtain ⟨ms₃, -, -, hs, -⟩ := exists_moves_of_strides_eq hrest
  have hsound : r.before.reactor.registry.Sound := hbefore ▸ sound_after kernel capacity ms₁
  have hafter := (r.change.follows hsound).sound
  rw [← hpast] at h
  have hlt : callback < r.after.nextCallback := by
    rw [r.nextCallback, ← hbefore]
    exact Nat.lt_of_lt_of_le h.lt_nextCallback (Nat.le_add_right _ _)
  have hnone : ∀ x, r.after.reactor.handlerOf x d ≠ some callback := by
    intro x hx
    rw [r.handlerOf_eq_some hsound, ← hbefore, handlerOf_iff_registered] at hx
    rcases hx with ⟨i, hi, -⟩ | ⟨hregistered, hkept, -⟩
    · obtain ⟨j, hj, -⟩ := hr
      rw [hi] at hj
      cases hj
    · obtain ⟨a, ha, hadds⟩ := hregistered.exists_adds
      rw [h.fd_eq (List.Subset.refl _) ha hadds] at hr
      exact hkept hr
  have hsafter := (follows_after hafter ms₃).sound
  rw [hs] at hsafter
  obtain ⟨x, -, -, -, hx⟩ := hstarts.entry hsafter
  rw [← hs] at hx
  exact handlerOf_after_ne hafter hlt hnone ms₃ x hx

/-- The descriptors that are counted are those with a registered callback. -/
lemma registered_eq_ncard (kernel : Kernel) (capacity : Nat) (ms : List (Move ι)) :
    ((start kernel capacity).after ms).reactor.registered =
      {fd | ∃ d callback,
        Registered ((start kernel capacity).strides ms) fd d callback}.ncard := by
  rw [Reactor.registered, Registry.size, ← Map.ncard_eq_size]
  congr 1
  ext fd
  rw [Set.mem_ofPred_eq, Set.mem_ofPred_eq, ← Registry.get?,
    Reactor.get?_ne_none_iff (sound_after kernel capacity ms)]
  simp only [handlerOf_iff_registered]

/-- **Dispatch follows the history.** A callback that is started for readiness is the one that was
added last for the descriptor that the token belongs to, and it was not removed since. A callback
that was removed is not started again in the direction that it was removed from. At any time the
descriptors that are counted are those with a callback that was added and not removed since. -/
theorem dispatch_follows_history (kernel : Kernel) (capacity : Nat) (ms : List (Move ι)) :
    (∀ past s later callback t d,
      (start kernel capacity).strides ms = past ++ s :: later →
      s.Starts callback (.readiness t d) →
      ∃ fd, (∀ other, Carries past other t ↔ other = fd) ∧ Registered past fd d callback) ∧
    (∀ past r middle s later fd d callback t,
      (start kernel capacity).strides ms = past ++ r :: (middle ++ s :: later) →
      Registered past fd d callback → r.Removes fd d →
      ¬s.Starts callback (.readiness t d)) ∧
    ((start kernel capacity).after ms).reactor.registered =
      {fd | ∃ d callback,
        Registered ((start kernel capacity).strides ms) fd d callback}.ncard := by
  refine ⟨?_, ?_, ?_⟩
  · intro past s later callback t d hcut hs
    obtain ⟨fd, -, hcarries, hregistered⟩ := hs.registered hcut
    exact ⟨fd, hcarries, hregistered⟩
  · intro past r middle s later fd d callback t hcut h hr
    exact not_starts_after_removal hcut h hr t
  · exact registered_eq_ncard kernel capacity ms

/-! ### A write callback that is removed in time

The event at hand is about both directions, and the read callback removes the write callback.
-/

namespace RemovedInTime

/-- Everything up to the start of the read callback. -/
def begin : List (Move Unit) :=
  [.file (.pair 100 101), .add 100 .readOnly, .add 100 .writeOnly, .file (.write 101 [120]),
    .enter, .advance, .advance]

def removes : Stride Unit :=
  stride ((start (.boot none) 64).after begin) (.remove 100 .writeOnly) rfl

def ends : Stride Unit := stride removes.after .finish rfl

/-- The second half of the event. -/
def next : Stride Unit := stride ends.after .advance rfl

lemma cut : (start (.boot none) 64).strides (begin ++ [.remove 100 .writeOnly, .finish, .advance]) =
    (start (.boot none) 64).strides begin ++ removes :: ([ends] ++ next :: []) := rfl

lemma registered : Registered ((start (.boot none) 64).strides begin) 100 .writing 1 :=
  (handlerOf_iff_registered _ _ _ _ _ _).mp rfl

end RemovedInTime

/-- The write callback was registered, its half of the event is next, and it is not started. -/
theorem dispatch_follows_history_removed :
    (start (.boot none) 64).strides
        (RemovedInTime.begin ++ [.remove 100 .writeOnly, .finish, .advance]) =
      (start (.boot none) 64).strides RemovedInTime.begin ++ RemovedInTime.removes ::
        ([RemovedInTime.ends] ++ RemovedInTime.next :: []) ∧
      Registered ((start (.boot none) 64).strides RemovedInTime.begin) 100 .writing 1 ∧
      RemovedInTime.removes.Removes 100 .writing ∧
      RemovedInTime.next.before.stage = .halfway ⟨0, true, true⟩ [] ∧
      ¬RemovedInTime.next.Starts 1 (.readiness 0 .writing) := by
  have hremoves : RemovedInTime.removes.Removes 100 .writing := ⟨.writeOnly, rfl, rfl, rfl⟩
  refine ⟨RemovedInTime.cut, RemovedInTime.registered, hremoves, rfl, ?_⟩
  exact (dispatch_follows_history (.boot none) 64 _).2.1 _ _ _ _ _ _ _ _ _ RemovedInTime.cut
    RemovedInTime.registered hremoves

end Loop

end EventLoop
