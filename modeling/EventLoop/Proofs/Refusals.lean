import EventLoop.Proofs.Ownership

/-!
What turns down an operation on registrations also leaves everything as it was.

* `Added.eq_of_refused`, `Removed.eq_of_refused` and `Requested.eq_of_refused` say so of each of the
  three operations, whatever the reason; an addition may have drawn a token in vain.
* `requestWriteInPlace` arms a registration where it stands and disarms it again if the kernel
  refuses; `requestWriteInPlace_eq` says that this is no different from `requestWrite`.
* `Stride.after_of_refused` says so of every move that answers a refusal, and
  `Stride.has_of_refused` that nobody gets a callback by it.
* `refusals_change_nothing` is the main statement here.
-/

namespace EventLoop

namespace Reactor

variable {ι : Type} {r r' : Reactor ι} {fd : Fd} {i : Interest}

/-! ### The three operations -/

/-- A refused addition drew a token at most, and only for a descriptor without a registration. -/
lemma Added.eq_of_refused {callback : CallbackId} (h : Added r fd i callback r' false) :
    ∃ n, (n = r.registry.nextToken ∨
        r.registry.get? fd = none ∧ n = r.registry.nextToken + 1) ∧
      r' = { r with registry := { r.registry with nextToken := n } } := by
  cases h with
  | refused kept =>
      rcases kept with rfl | rfl
      · exact ⟨_, .inl rfl, rfl⟩
      · cases hc : r.registry.get? fd with
        | none => exact ⟨_, .inr ⟨rfl, rfl⟩, by rw [Registry.currentOrFresh_of_none hc]⟩
        | some current => exact ⟨_, .inl rfl, by rw [Registry.currentOrFresh_of_some hc]⟩

lemma Removed.eq_of_refused (h : Removed r fd i r' false) : r' = r := by
  cases h
  rfl

lemma Requested.eq_of_refused (h : Requested r fd r' false) : r' = r := by
  cases h
  rfl

/-! ### Arming in place -/

/-- Arms the write callback of a descriptor where its registration stands, and disarms it again if
the kernel refuses. -/
def requestWriteInPlace (r : Reactor ι) (fd : Fd) : Reactor ι × Bool :=
  match r.registry.get? fd with
  | none => (r, false)
  | some current =>
    if current.write.isNone then (r, false)
    else if current.armed then (r, true)
    else
      let before := current.active
      let registry := r.registry.modify fd fun live => { live with armed := true }
      match sync r.kernel fd current.token before { current with armed := true }.active with
      | .error _ =>
        ({ r with registry := registry.modify fd fun live => { live with armed := false } }, false)
      | .ok kernel => ({ r with kernel, registry }, true)

/-- Two changes of a registration that together change nothing leave the table as it was. -/
lemma modify_modify_eq_self {registry : Registry CallbackId} {current : Registration CallbackId}
    (entry : registry.get? fd = some current)
    (change undo : Registration CallbackId → Registration CallbackId)
    (back : undo (change current) = current) :
    (registry.modify fd change).modify fd undo = registry := by
  have hmodified : (registry.modify fd change).get? fd = some (change current) := by simp [entry]
  have hentries : (registry.entries.insert fd (change current)).insert fd current =
      registry.entries := by
    refine Std.ExtTreeMap.ext_getElem? fun x => ?_
    rw [Std.ExtTreeMap.getElem?_insert, Std.ExtTreeMap.getElem?_insert]
    simp only [Std.compare_eq_iff_eq]
    split
    · next hx => exact hx ▸ entry.symm
    · rfl
  rw [Registry.modify, hmodified, Registry.modify, entry]
  simp only [back, hentries]

/-- **Arming in place and taking it back is arming a copy.** -/
theorem requestWriteInPlace_eq (r : Reactor ι) (fd : Fd) :
    r.requestWriteInPlace fd = ((r.requestWrite fd).1, (r.requestWrite fd).2.1) := by
  rw [requestWriteInPlace, requestWrite]
  cases entry : r.registry.get? fd with
  | none => rfl
  | some current =>
      dsimp only
      split
      · rfl
      · split
        · rfl
        · next ha =>
            have hback : { current with armed := false } = current := by
              rw [Bool.not_eq_true] at ha
              rw [← ha]
            have hundone := modify_modify_eq_self entry
              (fun live => { live with armed := true })
              (fun live => { live with armed := false }) hback
            cases sync r.kernel fd current.token current.active
                { current with armed := true }.active with
            | error e => simp only [hundone]
            | ok k => simp only [Registry.modify, entry]

end Reactor

namespace Loop

open Reactor (Role)

variable {ι : Type}

/-- Only the three operations on registrations answer that they were refused. -/
lemma Stride.exists_of_flag {s : Stride ι} {b : Bool} (h : s.reply = .flag b) :
    (∃ fd i, s.move = .add fd i) ∨ (∃ fd i, s.move = .remove fd i) ∨
      ∃ fd, s.move = .requestWrite fd := by
  obtain ⟨l, m, ⟨reply, notes⟩, l', hmade⟩ := s
  dsimp only [Stride.reply] at h ⊢
  subst h
  cases m with
  | add fd i => exact .inl ⟨fd, i, rfl⟩
  | remove fd i => exact .inr (.inl ⟨fd, i, rfl⟩)
  | requestWrite fd => exact .inr (.inr ⟨fd, rfl⟩)
  | _ => simp [step] at hmade

/-- **A refused operation changes nothing**, but that a token may have been drawn in vain. -/
theorem Stride.after_of_refused {s : Stride ι} (h : s.reply = .flag false) :
    (∃ n, (n = s.before.reactor.registry.nextToken ∨
        (∃ fd i, s.move = .add fd i ∧ s.before.reactor.registry.get? fd = none) ∧
          n = s.before.reactor.registry.nextToken + 1) ∧
      s.after.reactor =
        { s.before.reactor with
          registry := { s.before.reactor.registry with nextToken := n } }) ∧
    s.after.stage = s.before.stage ∧ s.after.active = s.before.active := by
  have hmade := s.made
  rcases Stride.exists_of_flag h with ⟨fd, i, hm⟩ | ⟨fd, i, hm⟩ | ⟨fd, hm⟩
  · obtain ⟨b, hb, hadded⟩ := Stride.added hm
    obtain rfl : b = false := by simpa [hb] using h
    obtain ⟨n, hn, hafter⟩ := hadded.eq_of_refused
    simp only [hm, step, Loop.add, newCallback, Option.some.injEq, Prod.mk.injEq] at hmade
    refine ⟨⟨n, hn.imp_right fun hn => ⟨⟨fd, i, hm, hn.1⟩, hn.2⟩, hafter⟩, ?_⟩
    rw [← hmade.1]
    exact ⟨rfl, rfl⟩
  · obtain ⟨b, hb, hremoved⟩ := Stride.removed hm
    obtain rfl : b = false := by simpa [hb] using h
    simp only [hm, step, Loop.remove, Option.some.injEq, Prod.mk.injEq] at hmade
    refine ⟨⟨_, .inl rfl, hremoved.eq_of_refused⟩, ?_⟩
    rw [← hmade.1]
    exact ⟨rfl, rfl⟩
  · obtain ⟨b, hb, hrequested⟩ := Stride.requested hm
    obtain rfl : b = false := by simpa [hb] using h
    simp only [hm, step, Option.some.injEq, Prod.mk.injEq] at hmade
    refine ⟨⟨_, .inl rfl, hrequested.eq_of_refused⟩, ?_⟩
    rw [← hmade.1]
    exact ⟨rfl, rfl⟩

/-- Nobody has a callback after a refused operation who had it not before. -/
lemma Stride.has_of_refused {s : Stride ι} (h : s.reply = .flag false) {callback : CallbackId}
    (hafter : s.after.Has callback) : s.before.Has callback := by
  obtain ⟨⟨n, -, hreactor⟩, hstage, hactive⟩ := Stride.after_of_refused h
  cases hafter with
  | registered handler =>
      rw [hreactor] at handler
      exact .registered handler
  | waiting wakeup =>
      rw [atHand, queued, hreactor, hstage] at wakeup
      exact .waiting wakeup
  | consuming consumer =>
      rw [hreactor] at consumer
      exact .consuming consumer
  | running active => exact .running (hactive ▸ active)

/-- A callback that is turned down is released. -/
lemma Stride.released_of_refused {s : Stride ι} (h : s.reply = .flag false) {fd : Fd}
    {i : Interest} (hm : s.move = .add fd i) : .released s.before.nextCallback ∈ s.notes := by
  have hmade := s.made
  simp only [hm, h, step, Loop.add, Option.some.injEq, Prod.mk.injEq, Reply.flag.injEq] at hmade
  obtain ⟨-, hreply, hnotes⟩ := hmade
  rw [← hnotes]
  split
  · next hadded => simp [hreply] at hadded
  · exact List.mem_append_right _ (List.mem_singleton.mpr rfl)

/-- No callback is started before it is handed over. -/
lemma not_starts_of_nextCallback_le {kernel : Kernel} {capacity : Nat} {ms : List (Move ι)}
    {s : Stride ι} (hs : s ∈ (start kernel capacity).strides ms) {callback : CallbackId}
    (h : ((start kernel capacity).after ms).nextCallback ≤ callback) (role : Role ι) :
    ¬s.Starts callback role := by
  intro hstarts
  obtain ⟨past, later, hcut⟩ := List.append_of_mem hs
  obtain ⟨ms₁, ms₂, -, hbefore, -, hafter⟩ := exists_moves_of_strides_eq hcut
  have hsound := sound_after (ι := ι) kernel capacity ms₁
  rw [hbefore] at hsound
  have hlt := lt_nextCallback_of_has kernel capacity ms₁ (hbefore.symm ▸ hstarts.has hsound)
  have hle := nextCallback_le_after s.after ms₂
  rw [hafter, s.nextCallback] at hle
  rw [hbefore] at hlt
  exact absurd (Nat.le_trans (Nat.le_trans (Nat.le_add_right _ _) hle) h) (Nat.not_le.mpr hlt)

/-- **Refused operations change nothing.** Whenever in a run an addition, a removal or a request to
write is refused, for whatever reason and whatever became of the files meanwhile, the reactor is
afterwards what it was, with all registrations, the index of the tokens and the watched set, and so
is the driver; only a token may have been drawn in vain, by an addition for a descriptor without a
registration. The callback of a refused addition is released at once, nobody has it from then on,
and the run starts it neither before nor after. -/
theorem refusals_change_nothing (kernel : Kernel) (capacity : Nat) (ms : List (Move ι))
    {past later : List (Stride ι)} {s : Stride ι}
    (hcut : (start kernel capacity).strides ms = past ++ s :: later)
    (refused : s.reply = .flag false) :
    (∃ n, (n = s.before.reactor.registry.nextToken ∨
        (∃ fd i, s.move = .add fd i ∧ s.before.reactor.registry.get? fd = none) ∧
          n = s.before.reactor.registry.nextToken + 1) ∧
      s.after.reactor =
        { s.before.reactor with
          registry := { s.before.reactor.registry with nextToken := n } }) ∧
    s.after.stage = s.before.stage ∧ s.after.active = s.before.active ∧
    ∀ fd i, s.move = .add fd i →
      .released s.before.nextCallback ∈ s.notes ∧
      (∀ ms', ¬(s.after.after ms').Has s.before.nextCallback) ∧
      ∀ t ∈ (start kernel capacity).strides ms, ∀ role, ¬t.Starts s.before.nextCallback role := by
  obtain ⟨hreactor, hstage, hactive⟩ := Stride.after_of_refused refused
  refine ⟨hreactor, hstage, hactive, fun fd i hm => ?_⟩
  obtain ⟨ms₁, ms₂, hpast, hbefore, hlater, -⟩ := exists_moves_of_strides_eq hcut
  have hsound := sound_after (ι := ι) kernel capacity ms₁
  rw [hbefore] at hsound
  have hsound' := (s.change.follows hsound).sound
  have hnext : s.before.nextCallback < s.after.nextCallback := by
    rw [s.nextCallback, hm]
    exact Nat.lt_succ_self _
  have hnone : ¬s.after.Has s.before.nextCallback := by
    intro h
    have hlt := lt_nextCallback_of_has kernel capacity ms₁
      (hbefore.symm ▸ Stride.has_of_refused refused h)
    rw [hbefore] at hlt
    exact Nat.lt_irrefl _ hlt
  refine ⟨Stride.released_of_refused refused hm, not_has_after hsound' hnext hnone, ?_⟩
  intro t ht role
  rw [hcut, List.mem_append, List.mem_cons, ← hpast, ← hlater] at ht
  rcases ht with ht | rfl | ht
  · exact not_starts_of_nextCallback_le ht (hbefore ▸ Nat.le_refl _) role
  · intro hstarts
    have hmove := hstarts.advance.1
    rw [hm] at hmove
    cases hmove
  · exact not_starts_of_not_has hsound' hnext hnone ht role

/-! ### A refusal by the kernel

A registered descriptor is closed and its number opened again on a file that cannot be watched, so
that an addition gets as far as the kernel and is refused there.
-/

namespace Reopened

def begin : List (Move Unit) :=
  [.file (.pair 100 101), .add 100 .readOnly, .file (.close 100), .file (.device 100)]

/-- The addition that the kernel refuses. -/
def adds : Stride Unit := stride ((start (.boot none) 64).after begin) (.add 100 .writeOnly) rfl

lemma cut : (start (.boot none) 64).strides (begin ++ [.add 100 .writeOnly]) =
    (start (.boot none) 64).strides begin ++ adds :: [] := rfl

end Reopened

/-- The addition is refused, and its callback, the second one, is released and never started. -/
theorem refusals_change_nothing_reopened :
    (start (.boot none) 64).strides (Reopened.begin ++ [.add 100 .writeOnly]) =
        (start (.boot none) 64).strides Reopened.begin ++ Reopened.adds :: [] ∧
      Reopened.adds.reply = .flag false ∧ Reopened.adds.move = .add 100 .writeOnly ∧
      .released 1 ∈ Reopened.adds.notes ∧
      ∀ role, ¬Reopened.adds.Starts 1 role := by
  have hall := refusals_change_nothing (.boot none) 64 (Reopened.begin ++ [.add 100 .writeOnly])
    Reopened.cut rfl
  obtain ⟨hreleased, -, hstarts⟩ := hall.2.2.2 100 .writeOnly rfl
  refine ⟨Reopened.cut, rfl, rfl, hreleased, ?_⟩
  exact hstarts Reopened.adds (Reopened.cut ▸ by simp)

end Loop

end EventLoop
