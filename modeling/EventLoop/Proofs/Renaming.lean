import EventLoop.Proofs.Sync
import Mathlib.Logic.Equiv.Basic

/-!
Tokens are names. What an operation does for a descriptor does not depend on the token that stands
for it, nor on what is registered or watched under other numbers.

* `Registration.retoken` and `Watch.retoken` put another token in the place of the one that is
  there.
* `Kernel.RenamedAt` and `Reactor.RenamedAt` say that two kernels or reactors are the same at one
  number but for such a renaming; `Kernel.SameAnswer` says so of two answers of the kernel.
* `Kernel.RenamedAt.sync` carries the renaming through what the kernel is told, and
  `Reactor.RenamedAt.add`, `RenamedAt.remove` and `RenamedAt.requestWrite` through the operations on
  registrations: they answer and note the same. Where a token is drawn, the renaming has to fit it.
-/

namespace EventLoop

/-! ### Other tokens -/

namespace Registration

variable {η : Type}

/-- The registration under the token that is put in the place of its own. -/
def retoken (σ : Equiv.Perm Token) (r : Registration η) : Registration η :=
  { r with token := σ r.token }

variable (σ : Equiv.Perm Token) (r : Registration η)

@[simp] lemma retoken_token : (r.retoken σ).token = σ r.token := rfl

@[simp] lemma retoken_read : (r.retoken σ).read = r.read := rfl

@[simp] lemma retoken_write : (r.retoken σ).write = r.write := rfl

@[simp] lemma retoken_armed : (r.retoken σ).armed = r.armed := rfl

@[simp] lemma retoken_active : (r.retoken σ).active = r.active := rfl

@[simp] lemma retoken_isEmpty : (r.retoken σ).isEmpty = r.isEmpty := rfl

@[simp] lemma retoken_overlaps (i : Interest) : (r.retoken σ).overlaps i = r.overlaps i := rfl

@[simp] lemma retoken_add (i : Interest) (handler : η) :
    (r.retoken σ).add i handler = (r.add i handler).retoken σ := rfl

@[simp] lemma retoken_drop (i : Interest) : (r.retoken σ).drop i = (r.drop i).retoken σ := rfl

lemma retoken_eq_self {σ : Equiv.Perm Token} {r : Registration η} (h : σ r.token = r.token) :
    r.retoken σ = r := by
  rw [retoken, h]

end Registration

namespace Watch

/-- The entry under the token that is put in the place of its own. -/
def retoken (σ : Equiv.Perm Token) (w : Watch) : Watch := { w with token := σ w.token }

variable {σ : Equiv.Perm Token}

lemma retoken_injective (σ : Equiv.Perm Token) : Function.Injective (retoken σ) := by
  rintro ⟨f, fd, i, t⟩ ⟨f', fd', i', t'⟩ h
  simpa [retoken] using h

lemma retoken_eq_self {w : Watch} (h : σ w.token = w.token) : w.retoken σ = w := by
  rw [retoken, h]

/-- An entry can be replaced before or after the renaming. -/
lemma map_replace_retoken (ws : List Watch) (old w : Watch) :
    (ws.map (retoken σ)).map (fun v => if v = old.retoken σ then w.retoken σ else v) =
      (ws.map fun v => if v = old then w else v).map (retoken σ) := by
  simp only [List.map_map]
  refine List.map_congr_left fun v _ => ?_
  simp only [Function.comp_apply, (retoken_injective σ).eq_iff]
  split <;> rfl

/-- So can it be removed. -/
lemma filter_remove_retoken (ws : List Watch) (old : Watch) :
    (ws.map (retoken σ)).filter (· ≠ old.retoken σ) =
      (ws.filter (· ≠ old)).map (retoken σ) := by
  rw [List.filter_map]
  congr 1
  refine List.filter_congr fun v _ => ?_
  simp only [Function.comp_apply, ne_eq, (retoken_injective σ).eq_iff]

end Watch

/-! ### What the kernel is told -/

namespace Kernel

/-- The two have the same files, and watch the same under a number but for the tokens. -/
structure RenamedAt (σ : Equiv.Perm Token) (fd : Fd) (k k' : Kernel) : Prop extends
    SameFiles k k' where
  watches : k'.watchesOf fd = (k.watchesOf fd).map (Watch.retoken σ)

/-- The two answers are the same but for the tokens under a number. -/
inductive SameAnswer (σ : Equiv.Perm Token) (fd : Fd) :
    Except OsError Kernel → Except OsError Kernel → Prop
  | refused (e : OsError) : SameAnswer σ fd (.error e) (.error e)
  | done {k k' : Kernel} (renamed : RenamedAt σ fd k k') : SameAnswer σ fd (.ok k) (.ok k')

variable {σ : Equiv.Perm Token} {fd : Fd} {k k' : Kernel}

lemma RenamedAt.watchable (h : RenamedAt σ fd k k') (x : Fd) :
    k'.watchable x = k.watchable x := by
  simp only [Kernel.watchable, h.fileOf?, h.canWatch, h.watchingBroken]

lemma RenamedAt.watch? (h : RenamedAt σ fd k k') (f : FileId) :
    k'.watch? f fd = (k.watch? f fd).map (Watch.retoken σ) := by
  rw [watch?_eq, watch?_eq, h.watches, List.find?_map]
  rfl

/-- Other entries are put in the place of those that are there. -/
lemma RenamedAt.put (h : RenamedAt σ fd k k') {ws ws' : List Watch} {ready ready' : List WatchKey}
    (watches : ws'.filter (·.fd == fd) = (ws.filter (·.fd == fd)).map (Watch.retoken σ)) :
    RenamedAt σ fd { k with watches := ws, ready := ready }
      { k' with watches := ws', ready := ready' } :=
  ⟨⟨h.files, h.descriptors, h.nextFile, h.inboxLimit, h.watchingBroken⟩, watches⟩

lemma RenamedAt.noteIfReady (h : RenamedAt σ fd k k') (w w' : Watch) :
    RenamedAt σ fd (k.noteIfReady w) (k'.noteIfReady w') := by
  have hk := k.sameWatching_noteIfReady w
  have hk' := k'.sameWatching_noteIfReady w'
  refine ⟨(hk.toSameFiles.symm.trans h.toSameFiles).trans hk'.toSameFiles, ?_⟩
  rw [watchesOf, hk'.watches, ← watchesOf, h.watches, watchesOf, watchesOf, hk.watches]

lemma RenamedAt.watch (h : RenamedAt σ fd k k') (token : Token) (i : Interest) :
    SameAnswer σ fd (k.watch fd token i) (k'.watch fd (σ token) i) := by
  rw [Kernel.watch, Kernel.watch, h.watchable]
  cases k.watchable fd with
  | error e => exact .refused e
  | ok f =>
      simp only [bind, Except.bind]
      rw [h.watch?]
      cases k.watch? f fd with
      | some old => exact .refused .alreadyExists
      | none =>
          refine .done (.noteIfReady (h.put ?_) _ _)
          rw [List.filter_cons_of_pos (by simp), List.filter_cons_of_pos (by simp)]
          exact congrArg _ h.watches

lemma RenamedAt.rewatch (h : RenamedAt σ fd k k') (token : Token) (i : Interest) :
    SameAnswer σ fd (k.rewatch fd token i) (k'.rewatch fd (σ token) i) := by
  rw [Kernel.rewatch, Kernel.rewatch, h.watchable]
  cases k.watchable fd with
  | error e => exact .refused e
  | ok f =>
      simp only [bind, Except.bind]
      rw [h.watch?]
      cases hold : k.watch? f fd with
      | none => exact .refused .notFound
      | some old =>
          obtain ⟨-, -, hfd⟩ := watch?_eq_some hold
          refine .done (.noteIfReady (h.put ?_) _ _)
          rw [filter_replace _ hfd.symm, filter_replace _ hfd.symm, ← watchesOf, ← watchesOf,
            h.watches]
          exact Watch.map_replace_retoken _ old ⟨f, fd, i, token⟩

lemma RenamedAt.unwatch (h : RenamedAt σ fd k k') :
    SameAnswer σ fd (k.unwatch fd) (k'.unwatch fd) := by
  rw [Kernel.unwatch, Kernel.unwatch, h.watchable]
  cases k.watchable fd with
  | error e => exact .refused e
  | ok f =>
      simp only [bind, Except.bind]
      rw [h.watch?]
      cases k.watch? f fd with
      | none => exact .refused .notFound
      | some old =>
          refine .done (h.put ?_)
          rw [filter_remove, filter_remove, ← watchesOf, ← watchesOf, h.watches]
          exact Watch.filter_remove_retoken _ old

/-- **What the kernel answers does not depend on tokens**, nor on what it watches under other
numbers. -/
theorem RenamedAt.sync (h : RenamedAt σ fd k k') (token : Token) (before after : Interest) :
    SameAnswer σ fd (Reactor.sync k fd token before after)
      (Reactor.sync k' fd (σ token) before after) := by
  rw [Reactor.sync, Reactor.sync]
  cases before.isEmpty <;> cases after.isEmpty
  · dsimp only
    split
    · exact .done h
    · exact h.rewatch token after
  · exact h.unwatch
  · exact h.watch token after
  · exact .done h

end Kernel

/-! ### The operations -/

namespace Reactor

variable {ι : Type}

/-- The two have the same registration for a number, and the same is watched under it, but for the
tokens. -/
structure RenamedAt (σ : Equiv.Perm Token) (fd : Fd) (r r' : Reactor ι) : Prop where
  kernel : r.kernel.RenamedAt σ fd r'.kernel
  entry : r'.registry.get? fd = (r.registry.get? fd).map (Registration.retoken σ)

variable {σ : Equiv.Perm Token} {fd : Fd} {r r' : Reactor ι}

/-- A registration that the number has already keeps its name, and a new one gets the next token. -/
lemma RenamedAt.currentOrFresh (h : RenamedAt σ fd r r')
    (drawn : r.registry.get? fd = none → r'.registry.nextToken = σ r.registry.nextToken) :
    (r'.registry.currentOrFresh fd).2 = (r.registry.currentOrFresh fd).2.retoken σ := by
  have hentry := h.entry
  cases hc : r.registry.get? fd with
  | none =>
      rw [hc] at hentry
      rw [Registry.currentOrFresh_of_none hc, Registry.currentOrFresh_of_none hentry, drawn hc]
      rfl
  | some current =>
      rw [hc] at hentry
      rw [Registry.currentOrFresh_of_some hc, Registry.currentOrFresh_of_some hentry]

lemma RenamedAt.add (h : RenamedAt σ fd r r') (i : Interest) (callback : CallbackId)
    (drawn : i.isEmpty = false → r.registry.get? fd = none →
      r'.registry.nextToken = σ r.registry.nextToken) :
    (r'.add fd i callback).2 = (r.add fd i callback).2 ∧
      RenamedAt σ fd (r.add fd i callback).1 (r'.add fd i callback).1 := by
  rw [Reactor.add, Reactor.add]
  split
  · exact ⟨rfl, h⟩
  · next hi =>
      dsimp only
      rw [h.currentOrFresh (drawn (by simpa using hi)), Registration.retoken_overlaps]
      split
      · exact ⟨rfl, h.kernel, by simpa using h.entry⟩
      · have hsync := h.kernel.sync ((r.registry.currentOrFresh fd).2.add i callback).token
          (r.registry.currentOrFresh fd).2.active
          ((r.registry.currentOrFresh fd).2.add i callback).active
        simp only [Registration.retoken_add, Registration.retoken_token,
          Registration.retoken_active]
        generalize Reactor.sync r.kernel fd _ _ _ = answer,
          Reactor.sync r'.kernel fd _ _ _ = answer' at hsync ⊢
        cases hsync with
        | refused e => exact ⟨rfl, h.kernel, by simpa using h.entry⟩
        | done renamed => exact ⟨rfl, renamed, by simp⟩

lemma dropped_retoken (registry registry' : Registry CallbackId)
    (next : Registration CallbackId) :
    (dropped registry' fd (next.retoken σ)).get? fd =
      ((dropped registry fd next).get? fd).map (Registration.retoken σ) := by
  rw [dropped_get?, dropped_get?, if_pos rfl, if_pos rfl, Registration.retoken_isEmpty]
  split <;> rfl

lemma RenamedAt.remove (h : RenamedAt σ fd r r') (i : Interest) :
    (r'.remove fd i).2 = (r.remove fd i).2 ∧
      RenamedAt σ fd (r.remove fd i).1 (r'.remove fd i).1 := by
  have hentry := h.entry
  rw [Reactor.remove, Reactor.remove, hentry]
  cases hc : r.registry.get? fd with
  | none => exact ⟨rfl, h⟩
  | some current =>
      dsimp only [Option.map_some]
      rw [Registration.retoken_overlaps]
      split
      · exact ⟨rfl, h⟩
      · have hsync := h.kernel.sync (current.drop i).token current.active (current.drop i).active
        rw [Registration.retoken_drop, Registration.retoken_token, Registration.retoken_active,
          Registration.retoken_active]
        generalize Reactor.sync r.kernel fd _ _ _ = answer,
          Reactor.sync r'.kernel fd _ _ _ = answer' at hsync ⊢
        cases hsync with
        | refused e =>
            dsimp only
            by_cases hgone : ((current.drop i).active.isEmpty && isGone e) = true
            · rw [if_pos hgone, if_pos hgone]
              exact ⟨rfl, h.kernel, dropped_retoken _ _ _⟩
            · rw [if_neg hgone, if_neg hgone]
              exact ⟨rfl, h⟩
        | done renamed => exact ⟨rfl, renamed, dropped_retoken _ _ _⟩

lemma RenamedAt.requestWrite (h : RenamedAt σ fd r r') :
    (r'.requestWrite fd).2 = (r.requestWrite fd).2 ∧
      RenamedAt σ fd (r.requestWrite fd).1 (r'.requestWrite fd).1 := by
  have hentry := h.entry
  rw [Reactor.requestWrite, Reactor.requestWrite, hentry]
  cases hc : r.registry.get? fd with
  | none => exact ⟨rfl, h⟩
  | some current =>
      dsimp only [Option.map_some]
      rw [Registration.retoken_token, Registration.retoken_read, Registration.retoken_write,
        Registration.retoken_armed, Registration.retoken_active]
      split
      · exact ⟨rfl, h⟩
      · split
        · exact ⟨rfl, h⟩
        · have hsync : Kernel.SameAnswer σ fd
              (sync r.kernel fd current.token current.active { current with armed := true }.active)
              (sync r'.kernel fd (σ current.token) current.active
                { current with token := σ current.token, armed := true }.active) :=
            h.kernel.sync _ _ _
          generalize Reactor.sync r.kernel fd _ _ _ = answer,
            Reactor.sync r'.kernel fd _ _ _ = answer' at hsync ⊢
          cases hsync with
          | refused e => exact ⟨rfl, h⟩
          | done renamed => exact ⟨rfl, renamed, by simp [hentry, hc, Registration.retoken]⟩

end Reactor

end EventLoop
