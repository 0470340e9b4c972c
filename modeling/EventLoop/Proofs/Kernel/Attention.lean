import EventLoop.Proofs.Kernel.Files

/-!
No entry that is ready is missed. Whatever may make a watched entry ready puts it into the queue of
those that may be ready, and a wait takes only those out that are not.

* `Kernel.Attentive` says that every entry that is ready is queued, with what this rests on;
  `Attentive.watched`, `Attentive.rewatched`, `Attentive.unwatched`, `Attentive.act` and
  `Attentive.signalled` say that nothing changes this.
* `ready_of_erased` says which entries become ready by the end of a file.
* `Kernel.Blocks` says that a wait would block; `Attentive.not_blocks` is why waking helps.
-/

namespace EventLoop.Kernel

/-- Every entry that is ready is queued, and so is a raised wakeup counter. -/
structure Attentive (k : Kernel) : Prop where
  paired : k.Paired
  present : ∀ w ∈ k.watches, k.canWatch w.file = true
  keys : (k.watches.map Watch.key).Nodup
  nodup : k.ready.Nodup
  heard : k.wakeup.isRaised = true → .wakeup ∈ k.ready
  queued : ∀ w ∈ k.watches, (k.watchReadiness w).any = true → w.key ∈ k.ready

lemma attentive_boot (limit : Option Nat) : (boot limit).Attentive where
  paired := ⟨fun f hf => by simp [boot] at hf, fun f e he => by simp [boot, endpoint?] at he,
    fun f e p he => by simp [boot, endpoint?] at he⟩
  present := nofun
  keys := .nil
  nodup := .nil
  heard h := by cases h
  queued := nofun

/-- No two entries share a key. -/
lemma Attentive.eq_of_key_eq {k : Kernel} (hk : k.Attentive) {v w : Watch} (hv : v ∈ k.watches)
    (hw : w ∈ k.watches) (h : v.key = w.key) : v = w :=
  List.inj_on_of_nodup_map hk.keys hv hw h

lemma Attentive.watch?_eq {k : Kernel} (hk : k.Attentive) {w : Watch} (hw : w ∈ k.watches) :
    k.watch? w.file w.fd = some w := by
  have hsome : (k.watch? w.file w.fd).isSome := by
    rw [watch?, List.find?_isSome]
    exact ⟨w, hw, by simp⟩
  obtain ⟨v, hv⟩ := Option.isSome_iff_exists.mp hsome
  obtain ⟨hmem, hfile, hfd⟩ := watch?_eq_some hv
  have hkey : v.key = w.key := by rw [Watch.key, Watch.key, hfile, hfd]
  rw [hv, hk.eq_of_key_eq hmem hw hkey]

/-! ### Changes of the watched set -/

lemma SameFiles.paired {k k' : Kernel} (h : SameFiles k k') (hk : k.Paired) : k'.Paired where
  fresh f hf := by
    rw [h.nextFile]
    exact hk.fresh f (by rwa [← h.files])
  drawn f e he := by
    rw [h.nextFile]
    exact hk.drawn f e (by rwa [← h.endpoint?])
  answers f e p he hp := by
    rw [h.endpoint?] at he hp
    exact hk.answers f e p he hp

/-- Where the files stay, it is enough to look at the entries and the queue. -/
lemma Attentive.of_sameFiles {k k' : Kernel} (hk : k.Attentive) (h : SameFiles k k')
    (hpresent : ∀ w ∈ k'.watches, k.canWatch w.file = true)
    (hkeys : (k'.watches.map Watch.key).Nodup) (hnodup : k'.ready.Nodup)
    (hheard : k'.wakeup.isRaised = true → .wakeup ∈ k'.ready)
    (hqueued : ∀ w ∈ k'.watches, (k.watchReadiness w).any = true → w.key ∈ k'.ready) :
    k'.Attentive where
  paired := h.paired hk.paired
  present w hw := by
    rw [h.canWatch]
    exact hpresent w hw
  keys := hkeys
  nodup := hnodup
  heard := hheard
  queued w hw hready := by
    rw [h.watchReadiness] at hready
    exact hqueued w hw hready

/-- An entry that is new or changed is queued if it is ready at once. -/
lemma Attentive.noted {k : Kernel} (hk : k.Attentive) {watches : List Watch} {w : Watch}
    (hw : k.canWatch w.file = true) (hkeys : (watches.map Watch.key).Nodup)
    (hmem : ∀ v ∈ watches, v ∈ k.watches ∨ v = w) :
    ({ k with watches }.noteIfReady w).Attentive := by
  have hsame := sameWatching_noteIfReady { k with watches } w
  have hfiles : SameFiles k ({ k with watches }.noteIfReady w) :=
    ⟨hsame.files, hsame.descriptors, hsame.nextFile, hsame.inboxLimit, hsame.watchingBroken⟩
  have hready : k.ready ⊆ ({ k with watches }.noteIfReady w).ready := by
    rw [noteIfReady]
    split
    · exact fun key hkey => mem_enqueue.mpr (.inl hkey)
    · exact List.Subset.refl _
  refine hk.of_sameFiles hfiles (fun v hv => ?_) ?_ ?_ (fun h => ?_) (fun v hv h => ?_)
  · rw [hsame.watches] at hv
    rcases hmem v hv with hv | rfl
    · exact hk.present v hv
    · exact hw
  · rwa [hsame.watches]
  · rw [noteIfReady]
    split
    · exact nodup_enqueue (k := { k with watches }) hk.nodup _
    · exact hk.nodup
  · rw [noteIfReady_wakeup] at h
    exact hready (hk.heard h)
  · rw [hsame.watches] at hv
    rcases hmem v hv with hv | rfl
    · exact hready (hk.queued v hv h)
    · have hnote : { k with watches }.noteIfReady v = { k with watches }.enqueue [v.key] :=
        if_pos h
      rw [hnote]
      exact mem_enqueue.mpr (.inr (List.mem_singleton.mpr rfl))

lemma Attentive.watched {k k' : Kernel} (hk : k.Attentive) {fd : Fd} {token : Token}
    {i : Interest} (h : k.watch fd token i = .ok k') : k'.Attentive := by
  obtain ⟨f, -, he, hnone, rfl⟩ := watch_eq_ok h
  refine hk.noted he ?_ fun v hv => ?_
  · rw [List.map_cons, List.nodup_cons]
    refine ⟨fun hmem => ?_, hk.keys⟩
    obtain ⟨v, hv, hkey⟩ := List.mem_map.mp hmem
    simp only [Watch.key, WatchKey.entry.injEq] at hkey
    have hfound := hk.watch?_eq hv
    rw [hkey.1, hkey.2, hnone] at hfound
    cases hfound
  · exact (List.mem_cons.mp hv).symm

lemma Attentive.rewatched {k k' : Kernel} (hk : k.Attentive) {fd : Fd} {token : Token}
    {i : Interest} (h : k.rewatch fd token i = .ok k') : k'.Attentive := by
  obtain ⟨f, old, -, ho, rfl⟩ := rewatch_eq_ok h
  obtain ⟨hmem, rfl, rfl⟩ := watch?_eq_some ho
  refine hk.noted (hk.present old hmem) ?_ fun v hv => ?_
  · have hkeys : (k.watches.map fun v => if v = old then ⟨old.file, old.fd, i, token⟩ else v).map
        Watch.key = k.watches.map Watch.key := by
      rw [List.map_map]
      refine List.map_congr_left fun v _ => ?_
      by_cases hv : v = old
      · simp [hv, Watch.key]
      · simp [hv]
    rw [hkeys]
    exact hk.keys
  · obtain ⟨u, hu, rfl⟩ := List.mem_map.mp hv
    split
    · exact .inr rfl
    · exact .inl hu

lemma Attentive.unwatched {k k' : Kernel} (hk : k.Attentive) {fd : Fd}
    (h : k.unwatch fd = .ok k') : k'.Attentive := by
  obtain ⟨f, old, -, ho, rfl⟩ := unwatch_eq_ok h
  obtain ⟨hmem, -, -⟩ := watch?_eq_some ho
  have hleft {w : Watch} (hw : w ∈ k.watches.filter (· ≠ old)) : w ∈ k.watches ∧ w ≠ old := by
    simpa using hw
  refine hk.of_sameFiles ⟨rfl, rfl, rfl, rfl, rfl⟩ (fun w hw => hk.present w (hleft hw).1) ?_ ?_
    (fun h => ?_) (fun w hw h => ?_)
  · exact hk.keys.sublist (List.filter_sublist.map _)
  · exact hk.nodup.filter _
  · refine List.mem_filter.mpr ⟨hk.heard h, ?_⟩
    simp [Watch.key]
  · obtain ⟨hw, hne⟩ := hleft hw
    refine List.mem_filter.mpr ⟨hk.queued w hw h, ?_⟩
    simpa using fun hkey => hne (hk.eq_of_key_eq hw hmem hkey)

/-! ### The use of files -/

lemma Stirred.attentive {k k' : Kernel} (h : Stirred k k') (hk : k.Attentive) : k'.Attentive where
  paired := h.paired hk.paired
  present w hw := by
    rw [h.canWatch]
    exact hk.present w (h.watches ▸ hw)
  keys := by
    rw [h.watches]
    exact hk.keys
  nodup := h.nodup hk.nodup
  heard hraised := by
    rw [h.wakeup] at hraised
    exact h.ready (hk.heard hraised)
  queued w hw hready := by
    rw [h.watches] at hw
    rcases h.heeds hk.paired w hw hready with hbefore | hqueued
    · exact h.ready (hk.queued w hw hbefore)
    · exact hqueued

/-- Opening numbers for files that are new or go on as they were. -/
lemma Attentive.of_grown {k k' : Kernel} (hk : k.Attentive) (hpaired : k'.Paired)
    (hwatches : k'.watches = k.watches) (hready : k'.ready = k.ready)
    (hwakeup : k'.wakeup = k.wakeup) (hlimit : k'.inboxLimit = k.inboxLimit)
    (hfiles : ∀ f : FileId, f < k.nextFile → k'.files[f]? = k.files[f]?) : k'.Attentive := by
  have hold {w : Watch} (hw : w ∈ k.watches) : k'.files[w.file]? = k.files[w.file]? :=
    hfiles _ (hk.paired.fresh _ (isSome_files_of_canWatch (hk.present w hw)))
  -- what an entry is ready for depends on its file and on the peer of this, which are old
  have hsame : ∀ w ∈ k.watches, k'.watchReadiness w = k.watchReadiness w := by
    intro w hw
    have hend := endpoint?_congr (hold hw)
    simp only [watchReadiness, readiness, hend, source?_congr (hold hw)]
    cases he : k.endpoint? w.file with
    | none => rfl
    | some e =>
        have hpeer := endpoint?_congr (hfiles e.peer (hk.paired.drawn _ e he))
        simp only [hasRoom, room, hpeer, hlimit]
  refine ⟨hpaired, fun w hw => ?_, ?_, ?_, ?_, fun w hw h => ?_⟩
  · rw [hwatches] at hw
    rw [canWatch_congr (hold hw)]
    exact hk.present w hw
  · rw [hwatches]
    exact hk.keys
  · rw [hready]
    exact hk.nodup
  · rw [hready, hwakeup]
    exact hk.heard
  · rw [hwatches] at hw
    rw [hsame w hw] at h
    rw [hready]
    exact hk.queued w hw h

lemma endpoint?_openPair (k : Kernel) (a b : Fd) (f : FileId) :
    (k.openPair a b).endpoint? f =
      if f = k.nextFile then some (.connectedTo (k.nextFile + 1))
      else if f = k.nextFile + 1 then some (.connectedTo k.nextFile)
      else k.endpoint? f := by
  simp only [openPair, endpoint?, Std.ExtTreeMap.getElem?_insert, Std.compare_eq_iff_eq]
  by_cases hf : f = k.nextFile
  · subst hf
    simp
  · by_cases hg : f = k.nextFile + 1
    · subst hg
      simp
    · simp [hf, hg, Ne.symm hf, Ne.symm hg]

lemma Attentive.openPair {k : Kernel} (hk : k.Attentive) (a b : Fd) :
    (k.openPair a b).Attentive := by
  have hdrawn := hk.paired.drawn
  have hends := endpoint?_openPair k a b
  have hold {f : FileId} (hf : f < k.nextFile) :
      (k.openPair a b).endpoint? f = k.endpoint? f := endpoint?_congr (files_openPair a b hf)
  -- an endpoint of the new kernel is one of the two that are opened, or an old one
  have hcases {f : FileId} {e : Endpoint} (he : (k.openPair a b).endpoint? f = some e) :
      f = k.nextFile ∧ e.peer = k.nextFile + 1 ∨ f = k.nextFile + 1 ∧ e.peer = k.nextFile ∨
        e.peer < k.nextFile ∧ k.endpoint? f = some e := by
    rw [hends] at he
    split at he
    · next hf =>
        cases he
        exact .inl ⟨hf, rfl⟩
    · split at he
      · next hf =>
          cases he
          exact .inr (.inl ⟨hf, rfl⟩)
      · exact .inr (.inr ⟨hdrawn f e he, he⟩)
  refine hk.of_grown ⟨fresh_openPair hk.paired.fresh a b, fun f e he => ?_, fun f e p he hp => ?_⟩
    rfl rfl rfl rfl fun f hf => files_openPair a b hf
  · show e.peer < k.nextFile + 2
    rcases hcases he with ⟨-, hpeer⟩ | ⟨-, hpeer⟩ | ⟨hlt, -⟩
    · exact hpeer ▸ Nat.lt_succ_self _
    · exact hpeer ▸ Nat.lt_succ_of_lt (Nat.lt_succ_self _)
    · exact Nat.lt_succ_of_lt (Nat.lt_succ_of_lt hlt)
  · rcases hcases he with ⟨hf, hpeer⟩ | ⟨hf, hpeer⟩ | ⟨hlt, he⟩
    · rw [hpeer, hends, if_neg (Nat.succ_ne_self _), if_pos rfl] at hp
      cases hp
      exact hf.symm
    · rw [hpeer, hends, if_pos rfl] at hp
      cases hp
      exact hf.symm
    · rw [hold hlt] at hp
      exact hk.paired.answers f e p he hp

lemma endpoint?_openFile (k : Kernel) (fd : Fd) {file : File} (hfile : ∀ e, file ≠ .endpoint e)
    (f : FileId) :
    (k.openFile fd file).endpoint? f = if f = k.nextFile then none else k.endpoint? f := by
  by_cases hf : f = k.nextFile
  · cases file with
    | endpoint e => exact absurd rfl (hfile e)
    | _ => simp [openFile, endpoint?, hf]
  · simp [openFile, endpoint?, Std.ExtTreeMap.getElem?_insert, hf, Ne.symm hf]

lemma Attentive.openFile {k : Kernel} (hk : k.Attentive) (fd : Fd) {file : File}
    (hfile : ∀ e, file ≠ .endpoint e) : (k.openFile fd file).Attentive := by
  have hends := endpoint?_openFile k fd hfile
  refine hk.of_grown
    ⟨fresh_openFile hk.paired.fresh fd file, fun f e he => ?_, fun f e p he hp => ?_⟩
    rfl rfl rfl rfl fun f hf => files_openFile fd file hf
  · rw [hends] at he
    split at he
    · cases he
    · exact Nat.lt_succ_of_lt (hk.paired.drawn f e he)
  · rw [hends] at he hp
    split at he
    · cases he
    · split at hp
      · cases hp
      · exact hk.paired.answers f e p he hp

lemma Attentive.duplicate {k : Kernel} (hk : k.Attentive) (source target : Fd) :
    (k.duplicate source target).Attentive := by
  rw [Kernel.duplicate]
  split
  · exact hk
  · exact hk.of_grown ⟨hk.paired.fresh, hk.paired.drawn, hk.paired.answers⟩ rfl rfl rfl rfl
      fun _ _ => rfl

/-- The entries of an endpoint are queued when its peer goes. -/
lemma mem_orphan {k : Kernel} {f : FileId} {w : Watch} (hw : w ∈ k.watches) (hfile : w.file = f)
    (hend : (k.endpoint? f).isSome) (unread : Bool) : w.key ∈ (k.orphan f unread).ready := by
  obtain ⟨e, he⟩ := Option.isSome_iff_exists.mp hend
  rw [orphan, he]
  exact mem_alert (k := k.setEndpoint f _) hw hfile rfl

lemma endpoint?_erased (k : Kernel) (f g : FileId) :
    (k.erased f).endpoint? g = if g = f then none else k.endpoint? g := by
  by_cases hg : g = f
  · simp [erased, endpoint?, hg]
  · simp [erased, endpoint?, Std.ExtTreeMap.getElem?_erase, hg, Ne.symm hg]

lemma files_erased {k : Kernel} {f g : FileId} (hg : g ≠ f) :
    (k.erased f).files[g]? = k.files[g]? := by
  simp [erased, Std.ExtTreeMap.getElem?_erase, hg.symm]

/-- The end of a file does not make the entry of a source ready. -/
lemma any_of_erased_source {k : Kernel} {f : FileId} {w : Watch}
    (hsource : (k.erased f).endpoint? w.file = none)
    (h : ((k.erased f).watchReadiness w).any = true) : (k.watchReadiness w).any = true := by
  rw [watchReadiness_of_source hsource] at h
  by_cases hfile : w.file = f
  · have hgone : (k.erased f).source? w.file = none := by
      simp [erased, source?, hfile]
    rw [hgone] at h
    simp [Readiness.nothing, Readiness.masked, Readiness.any] at h
  · have hsame := files_erased (k := k) hfile
    rw [endpoint?_congr hsame] at hsource
    rwa [watchReadiness_of_source hsource, ← source?_congr hsame]

/-- The end of a file makes entries ready only by taking away the peer whose inbox was full. -/
lemma ready_of_erased {k : Kernel} {f : FileId} {w : Watch}
    (h : ((k.erased f).watchReadiness w).any = true) :
    (k.watchReadiness w).any = true ∨
      ∃ e p, k.endpoint? w.file = some e ∧ e.peer = f ∧ k.endpoint? f = some p := by
  by_cases hsource : (k.erased f).endpoint? w.file = none
  · exact .inl (any_of_erased_source hsource h)
  obtain ⟨e, he⟩ := Option.ne_none_iff_exists'.mp hsource
  have hready := (watchReadiness_any_iff he).mp h
  have hold : k.endpoint? w.file = some e := by
    rw [endpoint?_erased] at he
    split at he
    · cases he
    · exact he
  cases hp : k.endpoint? f with
  | some p =>
      by_cases hpeer : e.peer = f
      · exact .inr ⟨e, p, hold, hpeer, rfl⟩
      · have hroom : (k.erased f).hasRoom e.peer = k.hasRoom e.peer := by
          simp only [hasRoom, room, endpoint?_erased, if_neg hpeer]
          rfl
        rw [hroom] at hready
        exact .inl ((watchReadiness_any_iff hold).mpr hready)
  | none =>
      have hends : (k.erased f).endpoint? e.peer = k.endpoint? e.peer := by
        rw [endpoint?_erased]
        split
        · next hpeer => rw [hpeer, hp]
        · rfl
      have hroom : (k.erased f).hasRoom e.peer = k.hasRoom e.peer := by
        simp only [hasRoom, room, hends]
        rfl
      rw [hroom] at hready
      exact .inl ((watchReadiness_any_iff hold).mpr hready)

lemma Paired.erased {k : Kernel} (hk : k.Paired) (f : FileId) : (k.erased f).Paired where
  fresh g hg := by
    refine hk.fresh g ?_
    simp only [Kernel.erased, Std.ExtTreeMap.getElem?_erase] at hg
    grind
  drawn g e he := by
    rw [endpoint?_erased] at he
    split at he
    · cases he
    · exact hk.drawn g e he
  answers g e p he hp := by
    rw [endpoint?_erased] at he hp
    split at he
    · cases he
    · split at hp
      · cases hp
      · exact hk.answers g e p he hp

/-- The end of a file: its peer, if it had one, is alerted. -/
lemma Attentive.release {k : Kernel} (hk : k.Attentive) (f : FileId) :
    (k.release f).Attentive := by
  have hpaired := hk.paired.erased f
  have hleft {w : Watch} (hw : w ∈ (k.erased f).watches) :
      w ∈ k.watches ∧ (k.erased f).files[w.file]? = k.files[w.file]? := by
    obtain ⟨hw, hfile⟩ := List.mem_filter.mp hw
    exact ⟨hw, files_erased (by simpa using hfile)⟩
  have hpresent : ∀ w ∈ (k.erased f).watches, (k.erased f).canWatch w.file = true := by
    intro w hw
    rw [canWatch_congr (hleft hw).2]
    exact hk.present w (hleft hw).1
  have hkeys : ((k.erased f).watches.map Watch.key).Nodup :=
    hk.keys.sublist (List.filter_sublist.map _)
  have hnodup : (k.erased f).ready.Nodup := hk.nodup.filter _
  have hheard : (k.erased f).wakeup.isRaised = true → .wakeup ∈ (k.erased f).ready :=
    fun h => List.mem_filter.mpr ⟨hk.heard h, rfl⟩
  have hqueued : ∀ w ∈ (k.erased f).watches, (k.watchReadiness w).any = true →
      w.key ∈ (k.erased f).ready := by
    intro w hw h
    obtain ⟨hw, hfile⟩ := List.mem_filter.mp hw
    exact List.mem_filter.mpr ⟨hk.queued w hw h, hfile⟩
  rw [release_eq]
  cases hp : k.endpoint? f with
  | none =>
      refine ⟨hpaired, hpresent, hkeys, hnodup, hheard, fun w hw h => ?_⟩
      rcases ready_of_erased h with hbefore | ⟨-, p, -, -, hp'⟩
      · exact hqueued w hw hbefore
      · rw [hp] at hp'
        cases hp'
  | some p =>
      show ((k.erased f).orphan p.peer (!p.inbox.isEmpty)).Attentive
      have hstirred := stirred_orphan (k.erased f) p.peer (!p.inbox.isEmpty)
      refine ⟨hstirred.paired hpaired, fun w hw => ?_, ?_, hstirred.nodup hnodup, fun h => ?_,
        fun w hw h => ?_⟩
      · rw [hstirred.canWatch]
        exact hpresent w (hstirred.watches ▸ hw)
      · rw [hstirred.watches]
        exact hkeys
      · rw [hstirred.wakeup] at h
        exact hstirred.ready (hheard h)
      · rw [hstirred.watches] at hw
        rcases hstirred.heeds hpaired w hw h with hbefore | hmem
        · rcases ready_of_erased hbefore with hbefore | ⟨e, p', he, hpeer, hp'⟩
          · exact hstirred.ready (hqueued w hw hbefore)
          · -- the entry is about the peer of the file that ends
            obtain rfl : p = p' := by simpa [hp] using hp'
            have hfile : p.peer = w.file := hk.paired.answers w.file e p he (hpeer ▸ hp)
            have hend := endpoint?_congr (hleft hw).2
            rw [hfile]
            exact mem_orphan hw rfl (by rw [hend, he]; rfl) _
        · exact hmem

lemma Attentive.close {k : Kernel} (hk : k.Attentive) (fd : Fd) : (k.close fd).Attentive := by
  rw [Kernel.close]
  split
  · exact hk
  · have hleft : Attentive { k with descriptors := k.descriptors.erase fd } :=
      hk.of_grown ⟨hk.paired.fresh, hk.paired.drawn, hk.paired.answers⟩ rfl rfl rfl rfl
        fun _ _ => rfl
    dsimp only
    split
    · exact hleft
    · exact hleft.release _

/-- **No use of files makes an entry ready unheard.** -/
theorem Attentive.act {k k' : Kernel} {action : Action} {answer : Answer} (hk : k.Attentive)
    (h : k.act action = some (k', answer)) : k'.Attentive := by
  cases acted_of_act h with
  | moved stirred => exact stirred.attentive hk
  | paired _ _ => exact hk.openPair _ _
  | opened _ single => exact hk.openFile _ single
  | duplicated _ => exact hk.duplicate _ _
  | closed fd => exact hk.close fd

/-! ### Waiting and waking -/

variable {k : Kernel}

/-- There is something to report about an entry that is ready. -/
lemma Attentive.report?_eq (hk : k.Attentive) {w : Watch} (hw : w ∈ k.watches) :
    k.report? w.key =
      if (k.watchReadiness w).any then some ⟨w.token, k.watchReadiness w⟩ else none := by
  simp only [report?, Watch.key, hk.watch?_eq hw]

lemma Attentive.polled (hk : k.Attentive) {k' : Kernel} {most : Nat} {batch : Batch}
    (h : k.poll most = .ok (k', batch)) : k'.Attentive := by
  obtain ⟨k₁, reports, hwait, rfl, rfl⟩ := poll_eq_ok h
  obtain ⟨-, -, -, rfl⟩ := wait_eq_ok hwait
  have hkept {key : WatchKey} (hkey : key ∈ k.ready) (h : (k.report? key).isSome) :
      key ∈ (k.collect most k.ready).untouched ++ (k.collect most k.ready).reported :=
    List.mem_append.mpr (mem_of_report? hkey h most).symm
  have hattentive : Attentive { k with
      ready := (k.collect most k.ready).untouched ++ (k.collect most k.ready).reported } := by
    refine hk.of_sameFiles ⟨rfl, rfl, rfl, rfl, rfl⟩ hk.present hk.keys ?_ (fun h => ?_)
      (fun w hw h => ?_)
    · exact List.nodup_append_comm.mp (hk.nodup.sublist (collect_sublist k most k.ready))
    · refine hkept (hk.heard h) ?_
      rw [report?, if_pos h]
      rfl
    · refine hkept (hk.queued w hw h) ?_
      rw [hk.report?_eq hw, if_pos h]
      rfl
  split
  · exact hattentive.of_sameFiles ⟨rfl, rfl, rfl, rfl, rfl⟩ hattentive.present hattentive.keys
      hattentive.nodup (fun h => absurd h Bool.false_ne_true) hattentive.queued
  · exact hattentive

lemma Attentive.woken (hk : k.Attentive) {k' : Kernel} (h : k.wake = .ok k') : k'.Attentive := by
  obtain ⟨c, -, rfl⟩ := wake_eq_ok h
  refine hk.of_sameFiles ⟨rfl, rfl, rfl, rfl, rfl⟩ hk.present hk.keys
    (nodup_enqueue (k := { k with wakeup := c }) hk.nodup _) (fun _ => ?_) (fun w hw h => ?_)
  · exact mem_enqueue.mpr (.inr (List.mem_singleton.mpr rfl))
  · exact mem_enqueue.mpr (.inl (hk.queued w hw h))

lemma Attentive.breakWakeup (hk : k.Attentive) : k.breakWakeup.Attentive := by
  refine hk.of_sameFiles ⟨rfl, rfl, rfl, rfl, rfl⟩ hk.present hk.keys (hk.nodup.filter _) nofun
    (fun w hw h => ?_)
  exact List.mem_filter.mpr ⟨hk.queued w hw h, by simp [Watch.key]⟩

lemma Attentive.breakWatching (hk : k.Attentive) : k.breakWatching.Attentive :=
  ⟨⟨hk.paired.fresh, hk.paired.drawn, hk.paired.answers⟩, hk.present, hk.keys, hk.nodup, hk.heard,
    hk.queued⟩

lemma Attentive.signalled (hk : k.Attentive) {k' : Kernel} (h : Signalled k k') :
    k'.Attentive := by
  cases h with
  | idle => exact hk
  | woken woke => exact hk.woken woke
  | polled poll => exact hk.polled poll
  | broken => exact hk.breakWakeup

/-- A wait for so many entries would block: there is nothing to report. -/
def Blocks (k : Kernel) (most : Nat) : Prop := ∃ k', k.wait most = .ok (k', [])

/-- No wait blocks while the wakeup counter is raised. -/
lemma Attentive.not_blocks (hk : k.Attentive) (h : k.wakeup.isRaised = true) (most : Nat) :
    ¬k.Blocks most := by
  rintro ⟨k', hwait⟩
  obtain ⟨-, hmost, hreports, -⟩ := wait_eq_ok hwait
  have hreport : (k.report? .wakeup).isSome := by
    rw [report?, if_pos h]
    rfl
  exact reports_ne_nil (hk.heard h) hreport hmost hreports.symm

end EventLoop.Kernel
