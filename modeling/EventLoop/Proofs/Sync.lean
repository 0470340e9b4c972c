import EventLoop.Proofs.Kernel.Watching
import EventLoop.Proofs.Operations

/-!
What the reactor tells the kernel about a descriptor, given what it told before.

* `Reactor.Synced` lists the outcomes; `synced_of_sync` says that there are no others.
* `Synced.watches` is the main statement here: where the descriptor was watched as the reactor
  thought, it is watched as the reactor wants afterwards, and nothing else changes.
* `sync_isOk` says when the kernel cannot refuse.
* `Reactor.Told` forgets what the kernel was told; with each outcome of an operation comes a lemma
  that the kernel was told something at most.
-/

namespace EventLoop.Reactor

/-- What comes of telling the kernel, when it does not refuse. -/
inductive Synced (k : Kernel) (fd : Fd) (token : Token) (before after : Interest) :
    Kernel → Prop
  | idle (nothing : before.isEmpty = true) (nothing' : after.isEmpty = true) :
      Synced k fd token before after k
  | watched {k' : Kernel} (nothing : before.isEmpty = true) (something : after.isEmpty = false)
      (asked : k.watch fd token after = .ok k') : Synced k fd token before after k'
  | unwatched {k' : Kernel} (something : before.isEmpty = false) (nothing : after.isEmpty = true)
      (asked : k.unwatch fd = .ok k') : Synced k fd token before after k'
  | same (eq : before = after) : Synced k fd token before after k
  | rewatched {k' : Kernel} (something : before.isEmpty = false)
      (something' : after.isEmpty = false) (asked : k.rewatch fd token after = .ok k') :
      Synced k fd token before after k'

variable {k k' : Kernel} {fd : Fd} {token : Token} {before after : Interest}

lemma synced_of_sync (h : sync k fd token before after = .ok k') :
    Synced k fd token before after k' := by
  rw [sync] at h
  split at h
  · next hb ha =>
      cases h
      exact .idle hb ha
  · next hb ha => exact .watched hb ha h
  · next hb ha => exact .unwatched hb ha h
  · next hb ha =>
      split at h
      · next heq =>
          cases h
          exact .same heq
      · exact .rewatched hb ha h

lemma Synced.sameFiles (h : Synced k fd token before after k') : k.SameFiles k' := by
  cases h with
  | idle _ _ => exact .refl k
  | watched _ _ asked =>
      obtain ⟨-, -, -, hsame, -⟩ := Kernel.watch_ok asked
      exact hsame
  | unwatched _ _ asked =>
      obtain ⟨-, -, -, -, hsame, -⟩ := Kernel.unwatch_ok asked
      exact hsame
  | same _ => exact .refl k
  | rewatched _ _ asked =>
      obtain ⟨-, -, -, -, hsame, -⟩ := Kernel.rewatch_ok asked
      exact hsame

/-- The wakeup counter has nothing to do with descriptors. -/
lemma Synced.wakeup (h : Synced k fd token before after k') : k'.wakeup = k.wakeup := by
  cases h with
  | idle _ _ => rfl
  | watched _ _ asked =>
      obtain ⟨f, -, -, -, rfl⟩ := Kernel.watch_eq_ok asked
      exact Kernel.noteIfReady_wakeup _ _
  | unwatched _ _ asked =>
      obtain ⟨f, old, -, -, rfl⟩ := Kernel.unwatch_eq_ok asked
      rfl
  | same _ => rfl
  | rewatched _ _ asked =>
      obtain ⟨f, old, -, -, rfl⟩ := Kernel.rewatch_eq_ok asked
      exact Kernel.noteIfReady_wakeup _ _

/-- Every entry was there before, or has the token that the kernel was told. -/
lemma Synced.mem_or_token_eq (h : Synced k fd token before after k') :
    ∀ w ∈ k'.watches, w ∈ k.watches ∨ w.token = token := by
  intro w hw
  cases h with
  | idle _ _ => exact .inl hw
  | watched _ _ asked =>
      obtain ⟨f, -, -, -, hwatches⟩ := Kernel.watch_ok asked
      rw [hwatches, List.mem_cons] at hw
      rcases hw with rfl | hw
      · exact .inr rfl
      · exact .inl hw
  | unwatched _ _ asked =>
      obtain ⟨f, old, -, -, -, hwatches⟩ := Kernel.unwatch_ok asked
      rw [hwatches, List.mem_filter] at hw
      exact .inl hw.1
  | same _ => exact .inl hw
  | rewatched _ _ asked =>
      obtain ⟨f, old, -, -, -, hwatches⟩ := Kernel.rewatch_ok asked
      rw [hwatches, List.mem_map] at hw
      obtain ⟨v, hv, rfl⟩ := hw
      split
      · exact .inr rfl
      · exact .inl hv

/-- Nothing about other descriptors changes, whatever the kernel watches. -/
lemma Synced.watchesOf_of_ne (h : Synced k fd token before after k') {other : Fd}
    (hne : other ≠ fd) : k'.watchesOf other = k.watchesOf other := by
  cases h with
  | idle _ _ => rfl
  | watched _ _ asked =>
      obtain ⟨-, -, -, -, hothers⟩ := Kernel.watch_watchesOf asked
      exact hothers other hne
  | unwatched _ _ asked =>
      obtain ⟨-, -, -, -, -, -, hothers⟩ := Kernel.unwatch_watchesOf asked
      exact hothers other hne
  | same _ => rfl
  | rewatched _ _ asked =>
      obtain ⟨-, -, -, -, -, -, hothers⟩ := Kernel.rewatch_watchesOf asked
      exact hothers other hne

/-- **The kernel watches what it is told to watch**, and nothing about other descriptors changes. -/
theorem Synced.watches (h : Synced k fd token before after k') (hk : k.Watches fd token before) :
    k'.Watches fd token after ∧ ∀ other, other ≠ fd → k'.watchesOf other = k.watchesOf other := by
  refine ⟨?_, fun other hne => h.watchesOf_of_ne hne⟩
  cases h with
  | idle nothing nothing' =>
      exact Kernel.watches_of_isEmpty nothing' (Kernel.watchesOf_eq_nil hk nothing) token
  | watched nothing something asked =>
      exact Kernel.watch_watches asked something (Kernel.watchesOf_eq_nil hk nothing)
  | unwatched something nothing asked =>
      exact Kernel.watches_of_isEmpty nothing (Kernel.unwatch_watches asked something hk) token
  | same eq => exact eq ▸ hk
  | rewatched something something' asked =>
      exact Kernel.rewatch_watches asked something' something hk

/-- A descriptor that is watched can be watched otherwise or not at all, as long as its file is open
and the watched set is not broken. -/
lemma sync_isOk (hk : k.Watches fd token before) (hbefore : before.isEmpty = false)
    (hfile : ∀ w ∈ k.watches, k.canWatch w.file = true) (hbroken : k.watchingBroken = false) :
    ∃ k', sync k fd token before after = .ok k' := by
  obtain ⟨f, hf, hof, hwatch⟩ := hk.entry hbefore
  have hmem : ⟨f, fd, before, token⟩ ∈ k.watches := (Kernel.watch?_eq_some hwatch).1
  have hend := hfile _ hmem
  rw [sync]
  split
  · next hb _ => simp [hbefore] at hb
  · next hb _ => simp [hbefore] at hb
  · exact Kernel.unwatch_isOk hf hend hbroken hwatch
  · split
    · exact ⟨k, rfl⟩
    · exact Kernel.rewatch_isOk token after hf hend hbroken hwatch

/-- Where nothing was watched and nothing is to be watched, there is nothing to refuse. -/
lemma sync_of_isEmpty (hbefore : before.isEmpty = true) (hafter : after.isEmpty = true) :
    sync k fd token before after = .ok k := by
  rw [sync]
  rw [hbefore, hafter]

/-! ### What the operations tell the kernel -/

/-- The kernel was told something about a descriptor, or nothing. -/
def Told (k k' : Kernel) : Prop := ∃ fd token before after, Synced k fd token before after k'

lemma Told.refl (k : Kernel) : Told k k := ⟨0, 0, .none, .none, .same rfl⟩

lemma told_of_sync (h : sync k fd token before after = .ok k') : Told k k' :=
  ⟨fd, token, before, after, synced_of_sync h⟩

lemma Told.wakeup (h : Told k k') : k'.wakeup = k.wakeup := by
  obtain ⟨fd, token, before, after, hsynced⟩ := h
  exact hsynced.wakeup

/-- Telling the kernel about a descriptor does nothing to the files. -/
lemma Told.sameFiles (h : Told k k') : k.SameFiles k' := by
  obtain ⟨fd, token, before, after, hsynced⟩ := h
  exact hsynced.sameFiles

lemma Told.watchingBroken (h : Told k k') : k'.watchingBroken = k.watchingBroken :=
  h.sameFiles.watchingBroken

variable {ι : Type} {r r' : Reactor ι} {i : Interest} {b : Bool}

lemma Added.tells {callback : CallbackId} (h : Added r fd i callback r' b) :
    Told r.kernel r'.kernel := by
  cases h with
  | refused _ => exact .refl _
  | added _ _ synced => exact told_of_sync synced

lemma Removed.tells (h : Removed r fd i r' b) : Told r.kernel r'.kernel := by
  cases h with
  | refused => exact .refl _
  | removed _ _ synced => exact told_of_sync synced
  | gone _ _ _ _ _ => exact .refl _

lemma Requested.tells (h : Requested r fd r' b) : Told r.kernel r'.kernel := by
  cases h with
  | refused => exact .refl _
  | already _ _ _ => exact .refl _
  | armed _ _ _ synced => exact told_of_sync synced

lemma Taken.tells {current : Registration CallbackId} (h : Taken r fd current r') :
    Told r.kernel r'.kernel := by
  cases h with
  | told synced => exact told_of_sync synced
  | untold _ => exact .refl _

end EventLoop.Reactor
