import EventLoop.Proofs.Kernel.Files
import EventLoop.Proofs.Sync
import EventLoop.Proofs.Tokens

/-!
The table of registrations and the watched set of the kernel agree: what a registration asks for at
present is watched under its token, and nothing else is watched.

* `Reactor.InStep` is this agreement.
* `Reactor.Agreed` is what carries it from move to move: the table is sound, and the files of the
  watched entries are still there, so that no change of the watched set is refused halfway.
* `Agreed.synced` says that a registration and its entry change together; each outcome of an
  operation, and each use of files, is an instance.
* `agreed_of_unbroken` says that only the end of a registered number can spoil it, as long as the
  watched set is not broken.
* `in_step_after` is the main statement here.
-/

namespace EventLoop

namespace Reactor

variable {ι : Type}

/-- The watched set holds exactly one entry for every descriptor whose registration asks for
something at present, with what it asks for, its token and the file that the descriptor stands for;
and it holds nothing else. -/
structure InStep (r : Reactor ι) : Prop where
  watched : ∀ fd current, r.registry.get? fd = some current → current.active.isEmpty = false →
    ∃ f, r.kernel.fileOf? fd = some f ∧
      r.kernel.watches.filter (·.fd == fd) = [⟨f, fd, current.active, current.token⟩]
  nothingElse : ∀ w ∈ r.kernel.watches, ∃ current, r.registry.get? w.fd = some current ∧
    current.active.isEmpty = false

/-- The agreement with all that it rests on. -/
structure Agreed (r : Reactor ι) : Prop where
  sound : r.registry.Sound
  anchored : r.kernel.Anchored
  unbroken : r.kernel.watchingBroken = false
  watches : ∀ fd current, r.registry.get? fd = some current →
    r.kernel.Watches fd current.token current.active
  nothing : ∀ fd, r.registry.get? fd = none → r.kernel.watchesOf fd = []

lemma Agreed.inStep {r : Reactor ι} (h : Agreed r) : r.InStep where
  watched fd current hc hactive := by
    have hwatches := h.watches fd current hc
    rwa [Kernel.Watches, if_neg (by simp [hactive])] at hwatches
  nothingElse w hw := by
    have hmem := Kernel.mem_watchesOf hw
    cases hc : r.registry.get? w.fd with
    | none =>
        rw [h.nothing _ hc] at hmem
        cases hmem
    | some current =>
        refine ⟨current, rfl, ?_⟩
        by_contra hactive
        rw [Bool.not_eq_false] at hactive
        rw [Kernel.watchesOf_eq_nil (h.watches _ current hc) hactive] at hmem
        cases hmem

lemma agreed_boot (limit : Option Nat) (capacity : Nat) :
    Agreed (start (.boot limit) capacity : Reactor ι) where
  sound := Registry.sound_empty
  anchored := ⟨fun f hf => by simp [start, Kernel.boot] at hf, nofun, nofun⟩
  unbroken := rfl
  watches fd current hc := by simp [start] at hc
  nothing fd _ := rfl

/-! ### A registration and its entry change together -/

lemma Synced.anchored {k k' : Kernel} {fd : Fd} {token : Token} {before after : Interest}
    (h : Synced k fd token before after k') (hk : k.Anchored) : k'.Anchored := by
  have hsame := h.sameFiles
  -- an entry of the new set is an old one, or is about an open file that can be watched
  have hentry : ∀ w ∈ k'.watches, k.fileOf? w.fd = some w.file ∧ k.canWatch w.file = true := by
    intro w hw
    have hold : w ∈ k.watches → k.fileOf? w.fd = some w.file ∧ k.canWatch w.file = true :=
      fun hw => ⟨hk.fileOf? w hw, hk.canWatch w hw⟩
    cases h with
    | idle _ _ => exact hold hw
    | same _ => exact hold hw
    | watched _ _ asked =>
        obtain ⟨f, hf, he, -, hwatches⟩ := Kernel.watch_ok asked
        rw [hwatches, List.mem_cons] at hw
        rcases hw with rfl | hw
        · exact ⟨hf, he⟩
        · exact hold hw
    | unwatched _ _ asked =>
        obtain ⟨f, old, -, -, -, hwatches⟩ := Kernel.unwatch_ok asked
        rw [hwatches, List.mem_filter] at hw
        exact hold hw.1
    | rewatched _ _ asked =>
        obtain ⟨f, old, hf, ho, -, hwatches⟩ := Kernel.rewatch_ok asked
        obtain ⟨hmem, hfile, -⟩ := Kernel.watch?_eq_some ho
        rw [hwatches, List.mem_map] at hw
        obtain ⟨v, hv, rfl⟩ := hw
        split
        · exact ⟨hf, hfile ▸ hk.canWatch old hmem⟩
        · exact ⟨hk.fileOf? v hv, hk.canWatch v hv⟩
  exact
    { fresh := fun f hf => by
        rw [hsame.nextFile]
        exact hk.fresh f (by rwa [← hsame.files])
      fileOf? := fun w hw => by
        rw [hsame.fileOf?]
        exact (hentry w hw).1
      canWatch := fun w hw => by
        rw [hsame.canWatch]
        exact (hentry w hw).2 }

/-- A descriptor goes on with what the kernel was told, and the others as they were. -/
lemma Agreed.synced {r r' : Reactor ι} (h : Agreed r) {fd : Fd} {token : Token}
    {before after : Interest} (hsound : r'.registry.Sound)
    (hsynced : Synced r.kernel fd token before after r'.kernel)
    (hbefore : r.kernel.Watches fd token before)
    (hsome : ∀ next, r'.registry.get? fd = some next → next.token = token ∧ next.active = after)
    (hnone : r'.registry.get? fd = none → after.isEmpty = true)
    (hothers : ∀ x, x ≠ fd → r'.registry.get? x = r.registry.get? x) : Agreed r' := by
  have hanchored := hsynced.anchored h.anchored
  obtain ⟨hafter, hkept⟩ := hsynced.watches hbefore
  refine ⟨hsound, hanchored, ?_, fun x next hx => ?_, fun x hx => ?_⟩
  · rw [hsynced.sameFiles.watchingBroken, h.unbroken]
  · by_cases hfd : x = fd
    · subst hfd
      obtain ⟨rfl, rfl⟩ := hsome next hx
      exact hafter
    · rw [hothers x hfd] at hx
      exact hanchored.watches (h.watches x next hx) (hkept x hfd)
  · by_cases hfd : x = fd
    · subst hfd
      exact Kernel.watchesOf_eq_nil hafter (hnone hx)
    · rw [hothers x hfd] at hx
      rw [hkept x hfd]
      exact h.nothing x hx

/-- Where neither the registrations nor the entries change. -/
lemma Agreed.of_same {r r' : Reactor ι} (h : Agreed r) (hsound : r'.registry.Sound)
    (hanchored : r'.kernel.Anchored) (hbroken : r'.kernel.watchingBroken = r.kernel.watchingBroken)
    (hentries : ∀ x, r'.registry.get? x = r.registry.get? x)
    (hwatches : r'.kernel.watches = r.kernel.watches) : Agreed r' where
  sound := hsound
  anchored := hanchored
  unbroken := hbroken.trans h.unbroken
  watches fd current hc := by
    rw [hentries] at hc
    refine hanchored.watches (h.watches fd current hc) ?_
    rw [Kernel.watchesOf, Kernel.watchesOf, hwatches]
  nothing fd hfd := by
    rw [hentries] at hfd
    rw [Kernel.watchesOf, hwatches]
    exact h.nothing fd hfd

/-- What the kernel watches fits the registration that an operation goes on with. -/
lemma Agreed.watches_currentOrFresh {r : Reactor ι} (h : Agreed r) (fd : Fd) :
    r.kernel.Watches fd (r.registry.currentOrFresh fd).2.token
      (r.registry.currentOrFresh fd).2.active := by
  cases hc : r.registry.get? fd with
  | none =>
      rw [Registry.currentOrFresh_of_none hc]
      exact Kernel.watches_of_isEmpty rfl (h.nothing fd hc) _
  | some current =>
      rw [Registry.currentOrFresh_of_some hc]
      exact h.watches fd current hc

/-- What is watched can be changed: the kernel does not refuse, nor where there is nothing to do. -/
lemma Agreed.sync_isOk {r : Reactor ι} (h : Agreed r) {fd : Fd}
    {current : Registration CallbackId} {after : Interest}
    (entry : r.registry.get? fd = some current)
    (hafter : current.active.isEmpty = true → after.isEmpty = true) :
    ∃ k, sync r.kernel fd current.token current.active after = .ok k := by
  cases hactive : current.active.isEmpty with
  | true => exact ⟨_, sync_of_isEmpty hactive (hafter hactive)⟩
  | false =>
      exact Reactor.sync_isOk (h.watches fd current entry) hactive h.anchored.canWatch h.unbroken

/-- A callback for an open file that can be watched is not turned down, where it does not overlap
another one. -/
lemma Agreed.add_isOk {r : Reactor ι} (h : Agreed r) {fd : Fd} {f : FileId} {i : Interest}
    (callback : CallbackId) (hf : r.kernel.fileOf? fd = some f)
    (he : r.kernel.canWatch f = true) (asked : i.isEmpty = false)
    (apart : (r.registry.currentOrFresh fd).2.overlaps i = false) :
    (r.add fd i callback).2.1 = true := by
  have hwatches := h.watches_currentOrFresh fd
  obtain ⟨k, hk⟩ : ∃ k, sync r.kernel fd ((r.registry.currentOrFresh fd).2.add i callback).token
      (r.registry.currentOrFresh fd).2.active
      ((r.registry.currentOrFresh fd).2.add i callback).active = .ok k := by
    cases hactive : (r.registry.currentOrFresh fd).2.active.isEmpty with
    | false => exact Reactor.sync_isOk hwatches hactive h.anchored.canWatch h.unbroken
    | true =>
        have hnone : r.kernel.watch? f fd = none := by
          rw [Kernel.watch?_eq, Kernel.watchesOf_eq_nil hwatches hactive, List.find?_nil]
        have hsome : ((r.registry.currentOrFresh fd).2.add i callback).active.isEmpty = false := by
          rcases i with ⟨_ | _, _ | _⟩ <;>
            simp_all [Registration.add, Registration.active, Interest.isEmpty]
        rw [sync, hactive, hsome]
        exact Kernel.watch_isOk _ _ hf he h.unbroken hnone
  rw [add, asked]
  simp only [Bool.false_eq_true, if_false]
  rw [apart]
  simp only [Bool.false_eq_true, if_false, hk]

/-! ### The operations -/

lemma Added.agreed {r r' : Reactor ι} {fd : Fd} {i : Interest} {callback : CallbackId} {b : Bool}
    (h : Added r fd i callback r' b) (hr : Agreed r) : Agreed r' := by
  have hsound := (h.follows hr.sound).sound
  cases h with
  | refused kept =>
      refine hr.of_same hsound hr.anchored rfl (fun x => ?_) rfl
      rcases kept with rfl | rfl <;> simp
  | added _ _ synced =>
      refine hr.synced hsound (synced_of_sync synced) (hr.watches_currentOrFresh fd)
        (fun next hn => ?_) (fun hn => ?_) (fun x hx => ?_)
      · simp only [Registry.get?_insert, if_true, Option.some.injEq] at hn
        exact hn ▸ ⟨rfl, rfl⟩
      · simp at hn
      · simp [Ne.symm hx]

lemma active_isEmpty_of_isEmpty {current : Registration CallbackId} (h : current.isEmpty = true) :
    current.active.isEmpty = true := by
  rcases current with ⟨_, _ | _, _ | _, _⟩ <;>
    simp_all [Registration.isEmpty, Registration.interest, Registration.active, Interest.isEmpty]

lemma Removed.agreed {r r' : Reactor ι} {fd : Fd} {i : Interest} {b : Bool}
    (h : Removed r fd i r' b) (hr : Agreed r) : Agreed r' := by
  have hsound := (h.follows hr.sound).sound
  cases h with
  | refused => exact hr
  | removed entry _ synced =>
      refine hr.synced hsound (synced_of_sync synced) (hr.watches fd _ entry)
        (fun next hn => ?_) (fun hn => ?_) (fun x hx => ?_)
      · rw [dropped_get?, if_pos rfl] at hn
        split at hn
        · cases hn
        · cases hn
          exact ⟨rfl, rfl⟩
      · rw [dropped_get?, if_pos rfl] at hn
        split at hn
        · next he => exact active_isEmpty_of_isEmpty he
        · cases hn
      · rw [dropped_get?, if_neg (Ne.symm hx)]
  | gone entry _ synced inactive _ =>
      -- the kernel does not forget what it watches
      obtain ⟨k, hk⟩ := hr.sync_isOk entry fun _ => inactive
      rw [hk] at synced
      cases synced

/-- Arming and disarming. -/
lemma Agreed.modify {r r' : Reactor ι} (h : Agreed r) {fd : Fd}
    {current : Registration CallbackId} {armed : Bool} (entry : r.registry.get? fd = some current)
    (hregistry : r'.registry = r.registry.modify fd fun _ => { current with armed })
    (hsound : r'.registry.Sound)
    (synced : sync r.kernel fd current.token current.active { current with armed }.active =
      .ok r'.kernel) : Agreed r' := by
  refine h.synced hsound (synced_of_sync synced) (h.watches fd current entry) ?_ ?_ ?_
  · intro reg hreg
    rw [hregistry, Registry.get?_modify, if_pos rfl, entry] at hreg
    cases hreg
    exact ⟨rfl, rfl⟩
  · intro hnone
    rw [hregistry, Registry.get?_modify, if_pos rfl, entry] at hnone
    cases hnone
  · intro x hx
    rw [hregistry, Registry.get?_modify, if_neg (Ne.symm hx)]

lemma Requested.agreed {r r' : Reactor ι} {fd : Fd} {b : Bool} (h : Requested r fd r' b)
    (hr : Agreed r) : Agreed r' := by
  have hsound := (h.follows hr.sound).sound
  cases h with
  | refused => exact hr
  | already _ _ _ => exact hr
  | armed entry _ _ synced => exact hr.modify entry rfl hsound synced

lemma Taken.agreed {r r' : Reactor ι} {fd : Fd} {current : Registration CallbackId}
    {callback : CallbackId} (h : Taken r fd current r')
    (entry : r.registry.get? fd = some current) (armed : current.armed = true)
    (handler : current.write = some callback) (hr : Agreed r) : Agreed r' := by
  have hsound := (h.follows entry hr.sound).sound
  cases h with
  | told synced => exact hr.modify entry rfl hsound synced
  | untold synced =>
      -- an armed write callback is watched for, so the kernel does not refuse to be told
      have hactive : current.active.isEmpty = false := by
        simp [Registration.active, Interest.isEmpty, armed, handler]
      obtain ⟨k, hk⟩ := hr.sync_isOk entry fun h => by simp [hactive] at h
      rw [hk] at synced
      cases synced

end Reactor

namespace Loop

variable {ι : Type}

/-- Moves after which the watched set may be another one than the reactor knows of. -/
def Move.endangers : Move ι → Bool
  | .breakWatching | .file (.close _) => true
  | _ => false

/-- The move closes no number that has a registration, and leaves the kernel able to watch. -/
def Stride.Spares (s : Stride ι) : Prop :=
  s.move ≠ .breakWatching ∧
    ∀ fd, s.move = .file (.close fd) → s.before.reactor.registry.get? fd = none

lemma Stride.spares_of_harmless {s : Stride ι} (h : s.move.endangers = false) : s.Spares := by
  refine ⟨fun hm => ?_, fun fd hm => ?_⟩
  · simp [hm, Move.endangers] at h
  · simp [hm, Move.endangers] at h

lemma spares_of_moves {l : Loop ι} {ms : List (Move ι)} (h : ∀ m ∈ ms, m.endangers = false) :
    ∀ s ∈ l.strides ms, s.Spares := fun s hs => Stride.spares_of_harmless (h s.move (move_mem hs))

lemma Stride.agreed {s : Stride ι} (hs : s.Spares) (h : s.before.reactor.Agreed) :
    s.after.reactor.Agreed := by
  obtain ⟨hbreak, hclose⟩ := hs
  have hchange := s.change
  generalize s.move = m, s.reply = reply, s.after.reactor = r at hchange hbreak hclose
  cases hchange with
  | add fd i => exact (s.before.reactor.added fd i s.before.nextCallback).agreed h
  | remove fd i => exact (s.before.reactor.removed fd i).agreed h
  | requestWrite fd => exact (s.before.reactor.requested fd).agreed h
  | takeWrite found armed handler =>
      have entry := (h.sound.resolve_eq_found.mp found).1
      exact (s.before.reactor.taken _ armed handler).agreed entry armed handler h
  | file acted =>
      -- a number that is closed has no registration, so nothing is watched under it
      obtain ⟨hanchored, hwatches⟩ := h.anchored.act acted fun fd hfd w hw hwfd => by
        subst hfd
        have hmem := Kernel.mem_watchesOf hw
        rw [hwfd, h.nothing fd (hclose fd rfl)] at hmem
        cases hmem
      exact h.of_same h.sound hanchored (Kernel.act_kept acted).2 (fun _ => rfl) hwatches
  | breakWatching => exact absurd rfl hbreak
  | same _ registrations =>
      refine h.of_same ?_ (registrations.watching.anchored h.anchored)
        registrations.watching.watchingBroken (fun x => ?_) registrations.watching.watches
      · rw [registrations.registry]
        exact h.sound
      · rw [registrations.registry]

lemma agreed_after {l : Loop ι} (hl : l.reactor.Agreed) {ms : List (Move ι)}
    (spares : ∀ s ∈ l.strides ms, s.Spares) : (l.after ms).reactor.Agreed :=
  after_of_stride (P := fun l => l.reactor.Agreed) (fun _ hs h => Stride.agreed hs h) hl spares

/-- A broken watched set stays broken. -/
lemma Stride.unbroken {s : Stride ι} (h : s.after.reactor.kernel.watchingBroken = false) :
    s.move ≠ .breakWatching ∧ s.before.reactor.kernel.watchingBroken = false := by
  have hchange := s.change
  generalize s.move = m, s.reply = reply, s.after.reactor = r at hchange h
  cases hchange with
  | add fd i =>
      refine ⟨nofun, ?_⟩
      rwa [← (s.before.reactor.added fd i s.before.nextCallback).tells.watchingBroken]
  | remove fd i =>
      refine ⟨nofun, ?_⟩
      rwa [← (s.before.reactor.removed fd i).tells.watchingBroken]
  | requestWrite fd =>
      refine ⟨nofun, ?_⟩
      rwa [← (s.before.reactor.requested fd).tells.watchingBroken]
  | takeWrite _ armed handler =>
      refine ⟨nofun, ?_⟩
      rwa [← (s.before.reactor.taken _ armed handler).tells.watchingBroken]
  | file acted =>
      refine ⟨nofun, ?_⟩
      rwa [← (Kernel.act_kept acted).2]
  | breakWatching => cases h
  | same other registrations =>
      refine ⟨fun hm => ?_, ?_⟩
      · rw [hm] at other
        cases other
      · rwa [← registrations.watching.watchingBroken]

/-- As long as no number with a registration was closed, the table and the kernel agree if the
watched set is not broken. -/
lemma agreed_of_unbroken (limit : Option Nat) (capacity : Nat) (ms : List (Move ι))
    (kept : ∀ s ∈ (start (.boot limit) capacity).strides ms, ∀ fd,
      s.move = .file (.close fd) → s.before.reactor.registry.get? fd = none)
    (unbroken : ((start (.boot limit) capacity).after ms).reactor.kernel.watchingBroken = false) :
    ((start (.boot limit) capacity).after ms).reactor.Agreed := by
  refine history_rec (l := start (.boot limit) capacity)
    (P := fun past l => (∀ s ∈ past, ∀ fd, s.move = .file (.close fd) →
        s.before.reactor.registry.get? fd = none) →
      l.reactor.kernel.watchingBroken = false → l.reactor.Agreed) ?_ ?_ ms kept unbroken
  · intro _ _
    exact Reactor.agreed_boot limit capacity
  · intro past s ih hkept hunbroken
    obtain ⟨hbreak, hbefore⟩ := s.unbroken hunbroken
    exact s.agreed ⟨hbreak, hkept s (by simp)⟩ (ih (fun t ht => hkept t (by simp [ht])) hbefore)

/-- **The table and the kernel agree after every move** of every run that closes no number with a
registration, whatever the moves are and whether they succeed. -/
theorem in_step_after (limit : Option Nat) (capacity : Nat) (ms : List (Move ι))
    (spares : ∀ s ∈ (start (.boot limit) capacity).strides ms, s.Spares) :
    ((start (.boot limit) capacity).after ms).reactor.InStep := by
  have h := after_of_stride (P := fun l => l.reactor.Agreed) (fun s hs h => s.agreed hs h)
    (Reactor.agreed_boot limit capacity) spares
  exact h.inStep

/-- A write callback is started and so disarmed, gives up reading from its descriptor, and panics.
An end of another connection was closed before. -/
def panicking : List (Move Unit) :=
  [.file (.pair 100 101), .file (.pair 102 103), .add 100 .both, .file (.close 102), .enter,
    .advance, .advance, .advance, .remove 100 .readOnly, .unwind]

lemma panicking_spares : ∀ s ∈ (start (.boot none) 64).strides panicking, s.Spares := by
  have hplain : ∀ s : Stride Unit, s.move.endangers = false → s.Spares :=
    fun _ => Stride.spares_of_harmless
  refine List.forall_iff_forall_mem.mp ?_
  refine ⟨hplain _ rfl, hplain _ rfl, hplain _ rfl, ⟨nofun, fun fd hm => ?_⟩, hplain _ rfl,
    hplain _ rfl, hplain _ rfl, hplain _ rfl, hplain _ rfl, hplain _ rfl⟩
  cases hm
  rfl

/-- After the panic, the descriptor has a disarmed write callback and nothing is watched. -/
theorem in_step_after_panicking :
    (∀ s ∈ (start (.boot none) 64).strides panicking, s.Spares) ∧
      ((start (.boot none) 64).after panicking).reactor.InStep ∧
      ((start (.boot none) 64).after panicking).reactor.registry.get? 100 =
        some ⟨0, none, some 0, false⟩ ∧
      ((start (.boot none) 64).after panicking).reactor.kernel.watches = [] :=
  ⟨panicking_spares, in_step_after none 64 panicking panicking_spares, rfl, rfl⟩

end Loop

end EventLoop
