import EventLoop.Poller
import Mathlib.Tactic.Lemma

/-!
What the operations of the system on the watched set do, told once for each of them.

* `Kernel.watchesOf` are the watched entries under one number, and `Kernel.Watches` says that they
  are exactly the one entry that an interest asks for, or none if it asks for nothing.
* `Kernel.SameFiles` says that no file, no number and no part of the watching was touched but the
  entries, `Kernel.SameWatching` that the entries were not touched either.
* `watch_ok`, `rewatch_ok` and `unwatch_ok` say what a change that succeeds does, `watch_isOk`,
  `rewatch_isOk` and `unwatch_isOk` when a change cannot be refused.
* `collect_reported` and `collect_reports_eq` say what going through the queue reports,
  `collect_sublist` and `mem_of_report?` that it loses nothing; `poll_ok` says where the events of a
  poll come from.
* `Kernel.Signalled` lists what becomes of the kernel when neither files nor entries are changed.
-/

namespace EventLoop.Kernel

/-- The watched entries that were made under a descriptor number. -/
def watchesOf (k : Kernel) (fd : Fd) : List Watch := k.watches.filter (·.fd == fd)

/-- A number is watched as an interest asks: under it there is exactly one entry, for the file that
the number stands for now, and none if the interest is empty. -/
def Watches (k : Kernel) (fd : Fd) (token : Token) (i : Interest) : Prop :=
  if i.isEmpty then k.watchesOf fd = []
  else ∃ f, k.fileOf? fd = some f ∧ k.watchesOf fd = [⟨f, fd, i, token⟩]

/-- Every entry is among those of its number. -/
lemma mem_watchesOf {k : Kernel} {w : Watch} (hw : w ∈ k.watches) : w ∈ k.watchesOf w.fd :=
  List.mem_filter.mpr ⟨hw, by simp⟩

/-- The watched set is made up of the entries under each number. -/
lemma perm_of_watchesOf {k : Kernel} {ws : List Watch}
    (h : ∀ fd, ws.filter (·.fd == fd) = k.watchesOf fd) : ws.Perm k.watches := by
  refine List.perm_iff_count.mpr fun w => ?_
  have hcount : ∀ l : List Watch, (l.filter (·.fd == w.fd)).count w = l.count w :=
    fun l => List.count_filter (by simp)
  rw [← hcount ws, ← hcount k.watches, h, watchesOf]

/-- The two have the same files under the same numbers. -/
structure SameFiles (k k' : Kernel) : Prop where
  files : k'.files = k.files
  descriptors : k'.descriptors = k.descriptors
  nextFile : k'.nextFile = k.nextFile
  inboxLimit : k'.inboxLimit = k.inboxLimit
  watchingBroken : k'.watchingBroken = k.watchingBroken

/-- The two differ in the queue of what may be ready and in the wakeup counter at most. -/
structure SameWatching (k k' : Kernel) : Prop extends SameFiles k k' where
  watches : k'.watches = k.watches

lemma SameFiles.refl (k : Kernel) : SameFiles k k := ⟨rfl, rfl, rfl, rfl, rfl⟩

lemma SameWatching.refl (k : Kernel) : SameWatching k k := ⟨.refl k, rfl⟩

lemma SameFiles.symm {k k' : Kernel} (h : SameFiles k k') : SameFiles k' k :=
  ⟨h.files.symm, h.descriptors.symm, h.nextFile.symm, h.inboxLimit.symm, h.watchingBroken.symm⟩

lemma SameFiles.trans {k k' k'' : Kernel} (h : SameFiles k k') (h' : SameFiles k' k'') :
    SameFiles k k'' :=
  ⟨h'.files.trans h.files, h'.descriptors.trans h.descriptors, h'.nextFile.trans h.nextFile,
    h'.inboxLimit.trans h.inboxLimit, h'.watchingBroken.trans h.watchingBroken⟩

lemma SameWatching.trans {k k' k'' : Kernel} (h : SameWatching k k') (h' : SameWatching k' k'') :
    SameWatching k k'' :=
  ⟨h.toSameFiles.trans h'.toSameFiles, h'.watches.trans h.watches⟩

lemma SameFiles.fileOf? {k k' : Kernel} (h : SameFiles k k') (fd : Fd) :
    k'.fileOf? fd = k.fileOf? fd := by
  rw [Kernel.fileOf?, Kernel.fileOf?, h.descriptors]

lemma SameFiles.endpoint? {k k' : Kernel} (h : SameFiles k k') (f : FileId) :
    k'.endpoint? f = k.endpoint? f := by
  rw [Kernel.endpoint?, Kernel.endpoint?, h.files]

lemma SameFiles.source? {k k' : Kernel} (h : SameFiles k k') (f : FileId) :
    k'.source? f = k.source? f := by
  rw [Kernel.source?, Kernel.source?, h.files]

lemma SameFiles.canWatch {k k' : Kernel} (h : SameFiles k k') (f : FileId) :
    k'.canWatch f = k.canWatch f := by
  rw [Kernel.canWatch, Kernel.canWatch, h.endpoint?, h.source?]

lemma SameFiles.watchReadiness {k k' : Kernel} (h : SameFiles k k') (w : Watch) :
    k'.watchReadiness w = k.watchReadiness w := by
  simp only [Kernel.watchReadiness, readiness, hasRoom, room, h.endpoint?, h.source?, h.inboxLimit]

/-! ### What leaves the watched set alone -/

lemma sameWatching_enqueue (k : Kernel) (keys : List WatchKey) :
    SameWatching k (k.enqueue keys) := ⟨⟨rfl, rfl, rfl, rfl, rfl⟩, rfl⟩

lemma sameWatching_noteIfReady (k : Kernel) (w : Watch) : SameWatching k (k.noteIfReady w) := by
  rw [noteIfReady]
  split
  · exact k.sameWatching_enqueue _
  · exact .refl k

@[simp] lemma noteIfReady_wakeup (k : Kernel) (w : Watch) :
    (k.noteIfReady w).wakeup = k.wakeup := by
  rw [noteIfReady]
  split <;> rfl

lemma sameWatching_breakWakeup (k : Kernel) : SameWatching k k.breakWakeup :=
  ⟨⟨rfl, rfl, rfl, rfl, rfl⟩, rfl⟩

/-- A wake puts one more into the counter, and the counter into the queue. -/
lemma wake_eq_ok {k k' : Kernel} (h : k.wake = .ok k') :
    ∃ c, k.wakeup.wake = .ok c ∧ k' = { k with wakeup := c }.enqueue [.wakeup] := by
  rw [wake] at h
  cases hc : k.wakeup.wake with
  | error e => simp [hc, bind, Except.bind] at h
  | ok c =>
      simp only [hc, bind, Except.bind, pure, Except.pure, Except.ok.injEq] at h
      exact ⟨c, rfl, h.symm⟩

lemma sameWatching_of_wake {k k' : Kernel} (h : k.wake = .ok k') : SameWatching k k' := by
  obtain ⟨c, -, rfl⟩ := wake_eq_ok h
  exact ⟨⟨rfl, rfl, rfl, rfl, rfl⟩, rfl⟩

/-! ### Changes of the watched set -/

lemma watchable_eq_ok {k : Kernel} {fd : Fd} {f : FileId} :
    k.watchable fd = .ok f ↔
      k.fileOf? fd = some f ∧ k.canWatch f = true ∧ k.watchingBroken = false := by
  constructor
  · intro h
    rw [watchable] at h
    split at h
    · cases h
    · next g hg =>
        split at h
        · cases h
        · next hwatch =>
            split at h
            · cases h
            · next hb =>
                cases h
                exact ⟨hg, by simpa using hwatch, by simpa using hb⟩
  · rintro ⟨hf, hwatch, hb⟩
    simp [watchable, hf, hwatch, hb]

lemma watch?_eq (k : Kernel) (f : FileId) (fd : Fd) :
    k.watch? f fd = (k.watchesOf fd).find? (·.file == f) := by
  rw [watch?, watchesOf, List.find?_filter]
  congr 1
  funext w
  rw [Bool.decide_and, Bool.decide_eq_true, Bool.decide_eq_true, Bool.and_comm]

lemma watch?_eq_some {k : Kernel} {f : FileId} {fd : Fd} {w : Watch} (h : k.watch? f fd = some w) :
    w ∈ k.watches ∧ w.file = f ∧ w.fd = fd := by
  have hp := List.find?_some h
  simp only [Bool.and_eq_true, beq_iff_eq] at hp
  exact ⟨List.mem_of_find?_eq_some h, hp⟩

/-- What adding an entry makes of the kernel, when it succeeds. -/
lemma watch_eq_ok {k k' : Kernel} {fd : Fd} {token : Token} {i : Interest}
    (h : k.watch fd token i = .ok k') :
    ∃ f, k.fileOf? fd = some f ∧ k.canWatch f = true ∧ k.watch? f fd = none ∧
      k' = { k with watches := ⟨f, fd, i, token⟩ :: k.watches }.noteIfReady
        ⟨f, fd, i, token⟩ := by
  rw [watch] at h
  cases hw : k.watchable fd with
  | error e => simp [hw, bind, Except.bind] at h
  | ok f =>
      obtain ⟨hf, he, -⟩ := watchable_eq_ok.mp hw
      simp only [hw, bind, Except.bind] at h
      split at h
      · cases h
      · next hn =>
          simp only [pure, Except.pure, Except.ok.injEq] at h
          exact ⟨f, hf, he, hn, h.symm⟩

/-- What changing an entry makes of the kernel, when it succeeds. -/
lemma rewatch_eq_ok {k k' : Kernel} {fd : Fd} {token : Token} {i : Interest}
    (h : k.rewatch fd token i = .ok k') :
    ∃ f old, k.fileOf? fd = some f ∧ k.watch? f fd = some old ∧
      k' = { k with
        watches := k.watches.map fun v => if v = old then ⟨f, fd, i, token⟩ else v }.noteIfReady
          ⟨f, fd, i, token⟩ := by
  rw [rewatch] at h
  cases hw : k.watchable fd with
  | error e => simp [hw, bind, Except.bind] at h
  | ok f =>
      obtain ⟨hf, -, -⟩ := watchable_eq_ok.mp hw
      simp only [hw, bind, Except.bind] at h
      split at h
      · cases h
      · next old ho =>
          simp only [pure, Except.pure, Except.ok.injEq] at h
          exact ⟨f, old, hf, ho, h.symm⟩

/-- What removing an entry makes of the kernel, when it succeeds. -/
lemma unwatch_eq_ok {k k' : Kernel} {fd : Fd} (h : k.unwatch fd = .ok k') :
    ∃ f old, k.fileOf? fd = some f ∧ k.watch? f fd = some old ∧
      k' = { k with
        watches := k.watches.filter (· ≠ old)
        ready := k.ready.filter (· ≠ old.key) } := by
  rw [unwatch] at h
  cases hw : k.watchable fd with
  | error e => simp [hw, bind, Except.bind] at h
  | ok f =>
      obtain ⟨hf, -, -⟩ := watchable_eq_ok.mp hw
      simp only [hw, bind, Except.bind] at h
      split at h
      · cases h
      · next old ho =>
          simp only [pure, Except.pure, Except.ok.injEq] at h
          exact ⟨f, old, hf, ho, h.symm⟩

/-- Adding an entry that succeeds. -/
lemma watch_ok {k k' : Kernel} {fd : Fd} {token : Token} {i : Interest}
    (h : k.watch fd token i = .ok k') :
    ∃ f, k.fileOf? fd = some f ∧ k.canWatch f = true ∧ SameFiles k k' ∧
      k'.watches = ⟨f, fd, i, token⟩ :: k.watches := by
  obtain ⟨f, hf, he, -, rfl⟩ := watch_eq_ok h
  have hn := sameWatching_noteIfReady { k with watches := ⟨f, fd, i, token⟩ :: k.watches }
    ⟨f, fd, i, token⟩
  exact ⟨f, hf, he, ⟨hn.files, hn.descriptors, hn.nextFile, hn.inboxLimit, hn.watchingBroken⟩,
    hn.watches⟩

/-- Changing an entry that succeeds. -/
lemma rewatch_ok {k k' : Kernel} {fd : Fd} {token : Token} {i : Interest}
    (h : k.rewatch fd token i = .ok k') :
    ∃ f old, k.fileOf? fd = some f ∧ k.watch? f fd = some old ∧ SameFiles k k' ∧
      k'.watches = k.watches.map fun v => if v = old then ⟨f, fd, i, token⟩ else v := by
  obtain ⟨f, old, hf, ho, rfl⟩ := rewatch_eq_ok h
  have hn := sameWatching_noteIfReady { k with
    watches := k.watches.map fun v => if v = old then ⟨f, fd, i, token⟩ else v }
    ⟨f, fd, i, token⟩
  exact ⟨f, old, hf, ho,
    ⟨hn.files, hn.descriptors, hn.nextFile, hn.inboxLimit, hn.watchingBroken⟩, hn.watches⟩

/-- Removing an entry that succeeds. -/
lemma unwatch_ok {k k' : Kernel} {fd : Fd} (h : k.unwatch fd = .ok k') :
    ∃ f old, k.fileOf? fd = some f ∧ k.watch? f fd = some old ∧ SameFiles k k' ∧
      k'.watches = k.watches.filter (· ≠ old) := by
  obtain ⟨f, old, hf, ho, rfl⟩ := unwatch_eq_ok h
  exact ⟨f, old, hf, ho, ⟨rfl, rfl, rfl, rfl, rfl⟩, rfl⟩

/-! ### What a change does to the entries under each number -/

lemma watchesOf_eq_nil {k : Kernel} {fd : Fd} {token : Token} {i : Interest}
    (h : k.Watches fd token i) (hi : i.isEmpty = true) : k.watchesOf fd = [] := by
  rwa [Watches, if_pos hi] at h

lemma watches_of_isEmpty {k : Kernel} {fd : Fd} {i : Interest} (hi : i.isEmpty = true)
    (h : k.watchesOf fd = []) (token : Token) : k.Watches fd token i := by
  rwa [Watches, if_pos hi]

/-- The entry that an interest asks for, while it asks for something. -/
lemma Watches.entry {k : Kernel} {fd : Fd} {token : Token} {i : Interest}
    (h : k.Watches fd token i) (hi : i.isEmpty = false) :
    ∃ f, k.fileOf? fd = some f ∧ k.watchesOf fd = [⟨f, fd, i, token⟩] ∧
      k.watch? f fd = some ⟨f, fd, i, token⟩ := by
  rw [Watches, if_neg (by simp [hi])] at h
  obtain ⟨f, hf, hw⟩ := h
  exact ⟨f, hf, hw, by simp [watch?_eq, hw]⟩

lemma watch_watchesOf {k k' : Kernel} {fd : Fd} {token : Token} {i : Interest}
    (h : k.watch fd token i = .ok k') :
    ∃ f, k.fileOf? fd = some f ∧ SameFiles k k' ∧
      k'.watchesOf fd = ⟨f, fd, i, token⟩ :: k.watchesOf fd ∧
      ∀ other, other ≠ fd → k'.watchesOf other = k.watchesOf other := by
  obtain ⟨f, hf, -, hs, hw⟩ := watch_ok h
  refine ⟨f, hf, hs, ?_, fun other ho => ?_⟩
  · rw [watchesOf, hw, List.filter_cons_of_pos (by simp)]
    rfl
  · rw [watchesOf, hw, List.filter_cons_of_neg (by simpa using ho.symm)]
    rfl

/-- Replacing an entry under its number can be done after selecting a number. -/
lemma filter_replace (ws : List Watch) {old w : Watch} (hfd : w.fd = old.fd) (fd : Fd) :
    (ws.map fun v => if v = old then w else v).filter (·.fd == fd) =
      (ws.filter (·.fd == fd)).map fun v => if v = old then w else v := by
  rw [List.filter_map]
  congr 2
  funext v
  by_cases hv : v = old <;> simp [hv, hfd]

/-- So can removing an entry. -/
lemma filter_remove (ws : List Watch) (old : Watch) (fd : Fd) :
    (ws.filter (· ≠ old)).filter (·.fd == fd) = (ws.filter (·.fd == fd)).filter (· ≠ old) := by
  rw [List.filter_filter, List.filter_filter]
  exact List.filter_congr fun v _ => Bool.and_comm _ _

lemma rewatch_watchesOf {k k' : Kernel} {fd : Fd} {token : Token} {i : Interest}
    (h : k.rewatch fd token i = .ok k') :
    ∃ f old, k.fileOf? fd = some f ∧ k.watch? f fd = some old ∧ SameFiles k k' ∧
      k'.watchesOf fd =
        (k.watchesOf fd).map (fun v => if v = old then ⟨f, fd, i, token⟩ else v) ∧
      ∀ other, other ≠ fd → k'.watchesOf other = k.watchesOf other := by
  obtain ⟨f, old, hf, ho, hs, hw⟩ := rewatch_ok h
  obtain ⟨-, -, hfd⟩ := watch?_eq_some ho
  have hsel : ∀ x, k'.watchesOf x = (k.watchesOf x).map fun v =>
      if v = old then ⟨f, fd, i, token⟩ else v := by
    intro x
    rw [watchesOf, watchesOf, hw, filter_replace k.watches hfd.symm]
  refine ⟨f, old, hf, ho, hs, hsel fd, fun other hother => ?_⟩
  have hid : ∀ v ∈ k.watchesOf other, (if v = old then ⟨f, fd, i, token⟩ else v) = v := by
    intro v hv
    refine if_neg ?_
    rintro rfl
    simp only [watchesOf, List.mem_filter, beq_iff_eq] at hv
    exact hother (hv.2.symm.trans hfd)
  rw [hsel, List.map_congr_left hid, List.map_id']

lemma unwatch_watchesOf {k k' : Kernel} {fd : Fd} (h : k.unwatch fd = .ok k') :
    ∃ f old, k.fileOf? fd = some f ∧ k.watch? f fd = some old ∧ SameFiles k k' ∧
      k'.watchesOf fd = (k.watchesOf fd).filter (· ≠ old) ∧
      ∀ other, other ≠ fd → k'.watchesOf other = k.watchesOf other := by
  obtain ⟨f, old, hf, ho, hs, hw⟩ := unwatch_ok h
  obtain ⟨-, -, hfd⟩ := watch?_eq_some ho
  have hsel : ∀ x, k'.watchesOf x = (k.watchesOf x).filter (· ≠ old) := by
    intro x
    rw [watchesOf, watchesOf, hw, filter_remove]
  refine ⟨f, old, hf, ho, hs, hsel fd, fun other hother => ?_⟩
  rw [hsel, List.filter_eq_self]
  intro v hv
  simp only [watchesOf, List.mem_filter, beq_iff_eq] at hv
  simp only [ne_eq, decide_not, Bool.not_eq_true', decide_eq_false_iff_not]
  rintro rfl
  exact hother (hv.2.symm.trans hfd)

lemma watch_watches {k k' : Kernel} {fd : Fd} {token : Token} {i : Interest}
    (h : k.watch fd token i = .ok k') (hi : i.isEmpty = false) (hk : k.watchesOf fd = []) :
    k'.Watches fd token i := by
  obtain ⟨f, hf, hs, hw, -⟩ := watch_watchesOf h
  rw [Watches, if_neg (by simp [hi])]
  exact ⟨f, by rw [hs.fileOf?, hf], by rw [hw, hk]⟩

lemma rewatch_watches {k k' : Kernel} {fd : Fd} {token : Token} {i before : Interest}
    (h : k.rewatch fd token i = .ok k') (hi : i.isEmpty = false) (hb : before.isEmpty = false)
    (hk : k.Watches fd token before) : k'.Watches fd token i := by
  obtain ⟨f, old, hf, ho, hs, hw, -⟩ := rewatch_watchesOf h
  obtain ⟨g, hg, he, hwatch⟩ := hk.entry hb
  obtain rfl : f = g := by simpa [hf] using hg
  obtain rfl : old = ⟨f, fd, before, token⟩ := by simpa [ho] using hwatch
  rw [Watches, if_neg (by simp [hi])]
  exact ⟨f, by rw [hs.fileOf?, hf], by simp [hw, he]⟩

lemma unwatch_watches {k k' : Kernel} {fd : Fd} {token : Token} {before : Interest}
    (h : k.unwatch fd = .ok k') (hb : before.isEmpty = false) (hk : k.Watches fd token before) :
    k'.watchesOf fd = [] := by
  obtain ⟨f, old, hf, ho, -, hw, -⟩ := unwatch_watchesOf h
  obtain ⟨g, hg, he, hwatch⟩ := hk.entry hb
  obtain rfl : f = g := by simpa [hf] using hg
  obtain rfl : old = ⟨f, fd, before, token⟩ := by simpa [ho] using hwatch
  simp [hw, he]

/-! ### Changes that cannot be refused -/

/-- An open number that has no entry can get one, as long as the watched set is not broken. -/
lemma watch_isOk {k : Kernel} {fd : Fd} {f : FileId} (token : Token) (i : Interest)
    (hf : k.fileOf? fd = some f) (he : k.canWatch f = true) (hb : k.watchingBroken = false)
    (hn : k.watch? f fd = none) : ∃ k', k.watch fd token i = .ok k' := by
  rw [watch]
  rw [watchable_eq_ok.mpr ⟨hf, he, hb⟩]
  simp [bind, Except.bind, hn, pure, Except.pure]

/-- An entry under an open number can be changed, as long as the watched set is not broken. -/
lemma rewatch_isOk {k : Kernel} {fd : Fd} {f : FileId} {old : Watch} (token : Token) (i : Interest)
    (hf : k.fileOf? fd = some f) (he : k.canWatch f = true) (hb : k.watchingBroken = false)
    (ho : k.watch? f fd = some old) : ∃ k', k.rewatch fd token i = .ok k' := by
  rw [rewatch]
  rw [watchable_eq_ok.mpr ⟨hf, he, hb⟩]
  simp [bind, Except.bind, ho, pure, Except.pure]

/-- An entry under an open number can be removed, as long as the watched set is not broken. -/
lemma unwatch_isOk {k : Kernel} {fd : Fd} {f : FileId} {old : Watch}
    (hf : k.fileOf? fd = some f) (he : k.canWatch f = true) (hb : k.watchingBroken = false)
    (ho : k.watch? f fd = some old) : ∃ k', k.unwatch fd = .ok k' := by
  rw [unwatch]
  rw [watchable_eq_ok.mpr ⟨hf, he, hb⟩]
  simp [bind, Except.bind, ho, pure, Except.pure]

/-! ### Waiting -/

/-- A report under a token other than the wakeup counter's is about an entry with that token. -/
lemma report?_eq_some {k : Kernel} {key : WatchKey} {r : Report} (h : k.report? key = some r)
    (ht : r.token ≠ .wakeup) : ∃ w ∈ k.watches, w.token = r.token := by
  cases key with
  | wakeup =>
      simp only [report?, Option.ite_none_right_eq_some, Option.some.injEq] at h
      exact absurd (by rw [← h.2]) ht
  | entry f fd =>
      simp only [report?] at h
      split at h
      · cases h
      · next w hw =>
          simp only [Option.ite_none_right_eq_some, Option.some.injEq] at h
          exact ⟨w, (watch?_eq_some hw).1, by rw [← h.2]⟩

/-- The entries that are reported are the first ones with something to report. -/
lemma collect_reported (k : Kernel) (most : Nat) (keys : List WatchKey) :
    (k.collect most keys).reported = (keys.filter fun key => (k.report? key).isSome).take most := by
  fun_induction collect k most keys with
  | case1 => simp
  | case2 => simp
  | case3 most key keys hnone ih => simpa [hnone] using ih
  | case4 most key keys report hsome hrest ih => simpa [hsome] using ih

/-- What is reported is what there is to report about these entries, in their order. -/
lemma collect_reports_eq (k : Kernel) (most : Nat) (keys : List WatchKey) :
    (k.collect most keys).reports = (k.collect most keys).reported.filterMap k.report? := by
  fun_induction collect k most keys with
  | case1 => rfl
  | case2 => rfl
  | case3 most key keys hnone ih => exact ih
  | case4 most key keys report hsome hrest ih => simpa [hsome] using ih

/-- Nothing is put into the queue, and the order stays. -/
lemma collect_sublist (k : Kernel) (most : Nat) (keys : List WatchKey) :
    ((k.collect most keys).reported ++ (k.collect most keys).untouched).Sublist keys := by
  fun_induction collect k most keys with
  | case1 => exact List.Sublist.refl _
  | case2 => exact List.Sublist.refl _
  | case3 most key keys hnone ih => exact ih.cons key
  | case4 most key keys report hsome hrest ih => exact ih.cons_cons key

/-- An entry with something to report stays in the queue. -/
lemma mem_of_report? {k : Kernel} {key : WatchKey} {keys : List WatchKey} (hkey : key ∈ keys)
    (h : (k.report? key).isSome) (most : Nat) :
    key ∈ (k.collect most keys).reported ∨ key ∈ (k.collect most keys).untouched := by
  fun_induction collect k most keys with
  | case1 => cases hkey
  | case2 => exact .inr hkey
  | case3 most first keys hnone ih =>
      rcases List.mem_cons.mp hkey with rfl | hkey
      · rw [hnone] at h
        cases h
      · exact ih hkey
  | case4 most first keys report hsome hrest ih =>
      rcases List.mem_cons.mp hkey with rfl | hkey
      · exact .inl (List.mem_cons_self ..)
      · rcases ih hkey with hreported | huntouched
        · exact .inl (List.mem_cons_of_mem _ hreported)
        · exact .inr huntouched

/-- Where there is something to report, something is reported. -/
lemma reports_ne_nil {k : Kernel} {key : WatchKey} {keys : List WatchKey} (hkey : key ∈ keys)
    (h : (k.report? key).isSome) {most : Nat} (hmost : 0 < most) :
    (k.collect most keys).reports ≠ [] := by
  fun_induction collect k most keys with
  | case1 => cases hkey
  | case2 => cases hmost
  | case3 most first keys hnone ih =>
      rcases List.mem_cons.mp hkey with rfl | hkey
      · rw [hnone] at h
        cases h
      · exact ih hkey hmost
  | case4 most first keys report hsome hrest ih => exact List.cons_ne_nil _ _

lemma wait_eq_ok {k k' : Kernel} {most : Nat} {reports : List Report}
    (h : k.wait most = .ok (k', reports)) :
    k.watchingBroken = false ∧ 0 < most ∧ reports = (k.collect most k.ready).reports ∧
      k' = { k with
        ready := (k.collect most k.ready).untouched ++ (k.collect most k.ready).reported } := by
  rw [wait] at h
  split at h
  · cases h
  · next hbad =>
      cases h
      simp only [Bool.or_eq_true, not_or, Bool.not_eq_true, beq_eq_false_iff_ne] at hbad
      exact ⟨hbad.1.1, Nat.pos_of_ne_zero hbad.1.2, rfl, rfl⟩

lemma poll_eq_ok {k k' : Kernel} {most : Nat} {batch : Batch}
    (h : k.poll most = .ok (k', batch)) :
    ∃ k₁ reports, k.wait most = .ok (k₁, reports) ∧ batch = .ofReports reports ∧
      k' = if batch.woken then k₁.drain else k₁ := by
  rw [poll] at h
  cases hw : k.wait most with
  | error e => simp [hw, bind, Except.bind] at h
  | ok p =>
      simp only [hw, bind, Except.bind, pure, Except.pure, Except.ok.injEq, Prod.mk.injEq] at h
      obtain ⟨rfl, rfl⟩ := h
      exact ⟨p.1, p.2, rfl, rfl, rfl⟩

/-- A poll leaves the watched set alone, and each event that it brings carries the token of an entry
of the watched set. -/
lemma poll_ok {k k' : Kernel} {most : Nat} {batch : Batch} (h : k.poll most = .ok (k', batch)) :
    SameWatching k k' ∧ ∀ e ∈ batch.events, ∃ w ∈ k.watches, w.token = e.token := by
  obtain ⟨k₁, reports, hwait, rfl, rfl⟩ := poll_eq_ok h
  obtain ⟨-, -, rfl, rfl⟩ := wait_eq_ok hwait
  refine ⟨?_, fun e he => ?_⟩
  · split <;> exact ⟨⟨rfl, rfl, rfl, rfl, rfl⟩, rfl⟩
  · simp only [Batch.ofReports, List.mem_map, List.mem_filter, bne_iff_ne] at he
    obtain ⟨r, ⟨hr, ht⟩, rfl⟩ := he
    rw [collect_reports_eq, List.mem_filterMap] at hr
    obtain ⟨key, -, hkey⟩ := hr
    exact report?_eq_some hkey ht

/-- A poll that reports the wakeup counter drains it, and one that does not leaves it as it was. -/
lemma poll_wakeup {k k' : Kernel} {most : Nat} {batch : Batch}
    (h : k.poll most = .ok (k', batch)) :
    k'.wakeup = if batch.woken then k.wakeup.drain else k.wakeup := by
  obtain ⟨k₁, reports, hwait, -, rfl⟩ := poll_eq_ok h
  obtain ⟨-, -, -, rfl⟩ := wait_eq_ok hwait
  split <;> rfl

/-! ### What is not about files or entries -/

/-- What becomes of the kernel when neither files are used nor entries are changed: nothing, a wake,
a poll, or the end of the wakeup counter. -/
inductive Signalled (k : Kernel) : Kernel → Prop
  | idle : Signalled k k
  | woken {k' : Kernel} (woke : k.wake = .ok k') : Signalled k k'
  | polled {k' : Kernel} {most : Nat} {batch : Batch} (poll : k.poll most = .ok (k', batch)) :
      Signalled k k'
  | broken : Signalled k k.breakWakeup

lemma Signalled.sameWatching {k k' : Kernel} (h : Signalled k k') : SameWatching k k' := by
  cases h with
  | idle => exact .refl k
  | woken woke => exact sameWatching_of_wake woke
  | polled poll => exact (poll_ok poll).1
  | broken => exact k.sameWatching_breakWakeup

end EventLoop.Kernel
