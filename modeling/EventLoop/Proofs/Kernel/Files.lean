import EventLoop.Kernel.Actions
import EventLoop.Proofs.Kernel.Readiness
import EventLoop.Proofs.Kernel.Watching
import EventLoop.Proofs.Map

/-!
What the use of files does to the watched set. Only the end of a file takes entries out of it.

* `Kernel.SameShape` says that the same numbers stand for the same files of the same kinds, and
  `Kernel.Stirred` that the entries that become ready are queued besides; moving bytes and shutting
  directions do no more than this.
* `Kernel.Anchored` says that every watched entry is about a file that its number still stands for
  and that can be watched; `Anchored.act` is the main statement here: as long as no watched number
  is closed, the use of files keeps this, and every watched entry with it.
* `act_watches_subset` says that no use of files adds entries, closed numbers or not, and `act_kept`
  that none touches the wakeup counter or breaks the watched set.
-/

namespace EventLoop.Kernel

/-- The same numbers stand for the same files, the same files are sources or endpoints with the same
peers, and the same entries are watched. -/
structure SameShape (k k' : Kernel) : Prop where
  descriptors : k'.descriptors = k.descriptors
  nextFile : k'.nextFile = k.nextFile
  watches : k'.watches = k.watches
  watchingBroken : k'.watchingBroken = k.watchingBroken
  wakeup : k'.wakeup = k.wakeup
  files : ∀ f : FileId, k'.files[f]?.isSome = k.files[f]?.isSome
  peers : ∀ f, (k'.endpoint? f).map Endpoint.peer = (k.endpoint? f).map Endpoint.peer
  sources : ∀ f, (k'.source? f).isSome = (k.source? f).isSome

/-- What moving bytes and shutting directions do: the shape stays, and the entries that become ready
are put into the queue of those that may be ready. -/
structure Stirred (k k' : Kernel) : Prop extends SameShape k k' where
  ready : k.ready ⊆ k'.ready
  nodup : k.ready.Nodup → k'.ready.Nodup
  heeds : k.Paired → ∀ w ∈ k.watches, (k'.watchReadiness w).any = true →
    (k.watchReadiness w).any = true ∨ w.key ∈ k'.ready

/-- Every watched entry is about a file that its number still stands for and that can be watched,
and files get numbers that no file had. -/
structure Anchored (k : Kernel) : Prop where
  fresh : ∀ f : FileId, k.files[f]?.isSome → f < k.nextFile
  fileOf? : ∀ w ∈ k.watches, k.fileOf? w.fd = some w.file
  canWatch : ∀ w ∈ k.watches, k.canWatch w.file = true

lemma SameShape.refl (k : Kernel) : SameShape k k :=
  ⟨rfl, rfl, rfl, rfl, rfl, fun _ => rfl, fun _ => rfl, fun _ => rfl⟩

lemma SameShape.trans {k k' k'' : Kernel} (h : SameShape k k') (h' : SameShape k' k'') :
    SameShape k k'' :=
  ⟨h'.descriptors.trans h.descriptors, h'.nextFile.trans h.nextFile, h'.watches.trans h.watches,
    h'.watchingBroken.trans h.watchingBroken, h'.wakeup.trans h.wakeup,
    fun f => (h'.files f).trans (h.files f), fun f => (h'.peers f).trans (h.peers f),
    fun f => (h'.sources f).trans (h.sources f)⟩

lemma SameShape.endpoint? {k k' : Kernel} (h : SameShape k k') (f : FileId) :
    (k'.endpoint? f).isSome = (k.endpoint? f).isSome := by
  have hpeers := congrArg Option.isSome (h.peers f)
  rwa [Option.isSome_map, Option.isSome_map] at hpeers

lemma SameShape.canWatch {k k' : Kernel} (h : SameShape k k') (f : FileId) :
    k'.canWatch f = k.canWatch f := by
  rw [Kernel.canWatch, Kernel.canWatch, h.endpoint?, h.sources]

/-- An endpoint of the one has a counterpart in the other, with the same peer. -/
lemma SameShape.exists_endpoint? {k k' : Kernel} (h : SameShape k k') {f : FileId} {e : Endpoint}
    (he : k'.endpoint? f = some e) : ∃ old, k.endpoint? f = some old ∧ old.peer = e.peer := by
  have hpeers := h.peers f
  rw [he, Option.map_some, eq_comm, Option.map_eq_some_iff] at hpeers
  exact hpeers

lemma SameShape.paired {k k' : Kernel} (h : SameShape k k') (hk : k.Paired) : k'.Paired where
  fresh f hf := by
    rw [h.nextFile]
    exact hk.fresh f (by rwa [← h.files f])
  drawn f e he := by
    obtain ⟨old, hold, hpeer⟩ := h.exists_endpoint? he
    rw [h.nextFile, ← hpeer]
    exact hk.drawn f old hold
  answers f e p he hp := by
    obtain ⟨old, hold, hpeer⟩ := h.exists_endpoint? he
    obtain ⟨oldPeer, holdPeer, hback⟩ := h.exists_endpoint? hp
    rw [← hpeer] at holdPeer
    rw [← hback]
    exact hk.answers f old oldPeer hold holdPeer

lemma Stirred.refl (k : Kernel) : Stirred k k where
  toSameShape := .refl k
  ready := List.Subset.refl _
  nodup := id
  heeds _ _ _ hready := .inl hready

lemma Stirred.trans {k k' k'' : Kernel} (h : Stirred k k') (h' : Stirred k' k'') :
    Stirred k k'' where
  toSameShape := h.toSameShape.trans h'.toSameShape
  ready := List.Subset.trans h.ready h'.ready
  nodup hk := h'.nodup (h.nodup hk)
  heeds hk w hw hready := by
    rcases h'.heeds (h.paired hk) w (h.watches ▸ hw) hready with hbefore | hqueued
    · rcases h.heeds hk w hw hbefore with hbefore | hqueued
      · exact .inl hbefore
      · exact .inr (h'.ready hqueued)
    · exact .inr hqueued

lemma SameShape.anchored {k k' : Kernel} (h : SameShape k k') (hk : k.Anchored) : k'.Anchored where
  fresh f hf := by
    rw [h.nextFile]
    exact hk.fresh f (by rwa [← h.files f])
  fileOf? w hw := by
    rw [Kernel.fileOf?, h.descriptors]
    exact hk.fileOf? w (h.watches ▸ hw)
  canWatch w hw := by
    rw [h.canWatch]
    exact hk.canWatch w (h.watches ▸ hw)

lemma SameWatching.anchored {k k' : Kernel} (h : SameWatching k k') (hk : k.Anchored) :
    k'.Anchored where
  fresh f hf := by
    rw [h.nextFile]
    exact hk.fresh f (by rwa [← h.files])
  fileOf? w hw := by
    rw [h.fileOf?]
    exact hk.fileOf? w (h.watches ▸ hw)
  canWatch w hw := by
    rw [h.canWatch]
    exact hk.canWatch w (h.watches ▸ hw)

/-- The file of an entry is the one that its number stands for, so the entries alone say whether a
number is watched as an interest asks. -/
lemma Anchored.watches {k k' : Kernel} (h : k'.Anchored) {fd : Fd} {token : Token} {i : Interest}
    (hk : k.Watches fd token i) (hw : k'.watchesOf fd = k.watchesOf fd) :
    k'.Watches fd token i := by
  rw [Watches] at hk ⊢
  rw [hw]
  split
  · next hi => rwa [if_pos hi] at hk
  · next hi =>
      rw [if_neg hi] at hk
      obtain ⟨f, -, hwatches⟩ := hk
      have hmem : ⟨f, fd, i, token⟩ ∈ k'.watchesOf fd := by rw [hw, hwatches]; simp
      exact ⟨f, h.fileOf? _ (List.mem_of_mem_filter hmem), hwatches⟩

/-! ### Moving bytes and shutting directions -/

lemma isSome_files_of_endpoint? {k : Kernel} {f : FileId} (h : (k.endpoint? f).isSome) :
    k.files[f]?.isSome := by
  rw [endpoint?] at h
  split at h
  · next e he => rw [he]; rfl
  · cases h

/-- What can be watched is open. -/
lemma isSome_files_of_canWatch {k : Kernel} {f : FileId} (h : k.canWatch f = true) :
    k.files[f]?.isSome := by
  rw [Kernel.canWatch, Bool.or_eq_true] at h
  rcases h with h | h
  · exact isSome_files_of_endpoint? h
  · rw [source?] at h
    split at h
    · next state hstate => rw [hstate]; rfl
    · cases h

lemma sameShape_setEndpoint {k : Kernel} {f : FileId} {e e' : Endpoint}
    (he : k.endpoint? f = some e) (hpeer : e'.peer = e.peer) :
    SameShape k (k.setEndpoint f e') where
  descriptors := rfl
  nextFile := rfl
  watches := rfl
  watchingBroken := rfl
  wakeup := rfl
  files g := by
    by_cases hg : f = g
    · subst hg
      simp [setEndpoint, isSome_files_of_endpoint? (k := k) (f := f) (by simp [he])]
    · simp [setEndpoint, Std.ExtTreeMap.getElem?_insert, hg]
  peers g := by
    rw [endpoint?_setEndpoint]
    split
    · next hg =>
        subst hg
        rw [he, Option.map_some, Option.map_some, hpeer]
    · rfl
  sources g := by
    rw [source?_setEndpoint]
    split
    · next hg => rw [← hg, source?_of_endpoint he]
    · rfl

/-- A change of an endpoint that makes no entry ready needs no alert. -/
lemma stirred_setEndpoint {k : Kernel} {f : FileId} {e e' : Endpoint}
    (he : k.endpoint? f = some e) (hpeer : e'.peer = e.peer)
    (hready : ∀ w ∈ k.watches, ((k.setEndpoint f e').watchReadiness w).any = true →
      (k.watchReadiness w).any = true) : Stirred k (k.setEndpoint f e') where
  toSameShape := sameShape_setEndpoint he hpeer
  ready := List.Subset.refl _
  nodup := id
  heeds _ w hw h := .inl (hready w hw h)

/-- A change of an endpoint with an alert for the entries that it makes ready. -/
lemma stirred_alert {k : Kernel} {f g : FileId} {e e' : Endpoint} {picks : Watch → Bool}
    (he : k.endpoint? f = some e) (hpeer : e'.peer = e.peer)
    (hready : k.Paired → ∀ w ∈ k.watches, ((k.setEndpoint f e').watchReadiness w).any = true →
      (k.watchReadiness w).any = true ∨ w.file = g ∧ picks w = true) :
    Stirred k ((k.setEndpoint f e').alert g picks) where
  toSameShape :=
    have h := sameShape_setEndpoint he hpeer
    ⟨h.descriptors, h.nextFile, h.watches, h.watchingBroken, h.wakeup, h.files, h.peers, h.sources⟩
  ready _ hkey := mem_enqueue.mpr (.inl hkey)
  nodup hk := nodup_enqueue hk _
  heeds hk w hw h := by
    rcases hready hk w hw h with hbefore | ⟨hfile, hpicks⟩
    · exact .inl hbefore
    · exact .inr (mem_alert hw hfile hpicks)

/-- A change that leaves the inbox alone makes entries of the changed endpoint ready at most. -/
lemma stirred_alert_all {k : Kernel} {f : FileId} {e e' : Endpoint}
    (he : k.endpoint? f = some e) (hpeer : e'.peer = e.peer) (hinbox : e'.inbox = e.inbox) :
    Stirred k ((k.setEndpoint f e').alert f fun _ => true) := by
  refine stirred_alert he hpeer fun _ w _ h => ?_
  rcases ready_of_setEndpoint he h hpeer with hbefore | ⟨hfile, -⟩ | ⟨-, hless, -⟩
  · exact .inl hbefore
  · exact .inr ⟨hfile, rfl⟩
  · rw [hinbox] at hless
    exact absurd hless (Nat.lt_irrefl _)

lemma stirred_orphan (k : Kernel) (f : FileId) (unread : Bool) :
    Stirred k (k.orphan f unread) := by
  rw [orphan]
  split
  · exact .refl k
  · next e he => exact stirred_alert_all he rfl rfl

lemma endpointOf_eq_ok {k : Kernel} {fd : Fd} {f : FileId} {e : Endpoint}
    (h : k.endpointOf fd = .ok (f, e)) : k.endpoint? f = some e := by
  rw [endpointOf] at h
  split at h
  · cases h
  · split at h
    · cases h
    · next e' he =>
        cases h
        exact he

/-- How much the next sends take makes nothing ready. -/
lemma stirred_portions (k : Kernel) (portions : List Nat) : Stirred k { k with portions } where
  toSameShape :=
    ⟨rfl, rfl, rfl, rfl, rfl, fun _ => rfl, fun _ => rfl, fun _ => rfl⟩
  ready := List.Subset.refl _
  nodup := id
  heeds _ _ _ hready := .inl hready

/-- What arrives at an endpoint is for those who want to read. -/
lemma stirred_arrival {k : Kernel} {f : FileId} {e : Endpoint} (he : k.endpoint? f = some e)
    (bytes : List UInt8) :
    Stirred k ((k.setEndpoint f { e with inbox := e.inbox ++ bytes }).alert f
      (·.interest.read)) := by
  refine stirred_alert he rfl fun _ w _ h => ?_
  rcases ready_of_setEndpoint he h rfl with hbefore | ⟨hfile, hnow⟩ | ⟨-, hless, -⟩
  · exact .inl hbefore
  · rcases hnow with ⟨hread, -⟩ | hnow
    · exact .inr ⟨hfile, hread⟩
    · have hend : k.endpoint? w.file = some e := by rw [hfile, he]
      exact .inl ((watchReadiness_any_iff hend).mpr (.inr (.inr hnow)))
  · rw [List.length_append] at hless
    omega

lemma stirred_send {k k' : Kernel} {fd : Fd} {data : List UInt8} {n : Nat}
    (h : k.send fd data = .ok (k', n)) : Stirred k k' := by
  rw [send] at h
  cases he : k.endpointOf fd with
  | error e => simp [he, bind, Except.bind] at h
  | ok p =>
      simp only [he, bind, Except.bind, throw, throwThe, MonadExceptOf.throw, pure,
        Except.pure] at h
      split at h
      · cases h
      · split at h
        · cases h
          exact .refl k
        · split at h
          · cases h
          · next q hq =>
              split at h
              · cases h
              · cases h
                exact (stirred_portions k k.portions.tail).trans
                  (stirred_arrival (k := { k with portions := k.portions.tail }) hq _)

/-- What is taken out of an inbox that was full is for the peer, who waits for room. -/
lemma stirred_departure {k : Kernel} {f : FileId} {e : Endpoint} (he : k.endpoint? f = some e)
    (n : Nat) :
    Stirred k (if !k.hasRoom f then
        (k.setEndpoint f { e with inbox := e.inbox.drop n }).alert e.peer (·.interest.write)
      else k.setEndpoint f { e with inbox := e.inbox.drop n }) := by
  -- what is left to read, a hang-up and a break were there before
  have hleft : ∀ w : Watch, w.file = f →
      w.interest.read = true ∧ (e.inbox.drop n ≠ [] ∨ e.inputShut = true) ∨
        e.inputShut = true ∧ e.outputShut = true ∨ e.broken = true →
      (k.watchReadiness w).any = true := by
    intro w hfile hnow
    refine (watchReadiness_any_iff (hfile ▸ he)).mpr ?_
    rcases hnow with ⟨hread, hinbox | hshut⟩ | hnow
    · refine .inl ⟨hread, .inl fun hnil => hinbox ?_⟩
      rw [hnil, List.drop_nil]
    · exact .inl ⟨hread, .inr hshut⟩
    · exact .inr (.inr hnow)
  split
  · refine stirred_alert he rfl fun hk w _ h => ?_
    rcases ready_of_setEndpoint he h rfl with hbefore | ⟨hfile, hnow⟩ | ⟨hwrite, -, -, hx⟩
    · exact .inl hbefore
    · exact .inl (hleft w hfile hnow)
    · obtain ⟨x, hx, hpeer⟩ := hx
      exact .inr ⟨(hk.answers w.file x e hx (hpeer ▸ he)).symm, hwrite⟩
  · next hroom =>
      refine stirred_setEndpoint he rfl fun w _ h => ?_
      rcases ready_of_setEndpoint he h rfl with hbefore | ⟨hfile, hnow⟩ | ⟨-, -, hfull, -⟩
      · exact hbefore
      · exact hleft w hfile hnow
      · simp [hfull] at hroom

lemma stirred_receive (k : Kernel) (fd : Fd) (most : Nat) : Stirred k (k.receive fd most).1 := by
  rw [receive]
  split
  · exact .refl k
  · next f e h =>
      have he := endpointOf_eq_ok h
      split
      · split
        · refine stirred_setEndpoint he rfl fun w _ h => ?_
          rcases ready_of_setEndpoint he h rfl with hbefore | ⟨hfile, hnow⟩ | ⟨-, hless, -⟩
          · exact hbefore
          · refine (watchReadiness_any_iff (hfile ▸ he)).mpr ?_
            rcases hnow with hread | hshut | hbroken
            · exact .inl hread
            · exact .inr (.inr (.inl hshut))
            · cases hbroken
          · exact absurd hless (Nat.lt_irrefl _)
        · split <;> exact .refl k
      · exact stirred_departure he most

lemma stirred_receiveAll (k : Kernel) (fd : Fd) (most : Option Nat) :
    Stirred k (k.receiveAll fd most).1 := by
  have h := stirred_receive k fd (most.getD (k.arrived fd + 1))
  unfold receiveAll
  dsimp only
  split
  · next hr => rwa [hr] at h
  · next hr => rwa [hr] at h
  · next k' bytes _ hr =>
      rw [hr] at h
      split
      · exact h
      · have h' := stirred_receive k' fd (most.getD (k.arrived fd + 1) - bytes.length)
        split
        · next hr' => exact h.trans (by rwa [hr'] at h')
        · next hr' => exact h.trans (by rwa [hr'] at h')

lemma stirred_shut (k : Kernel) (fd : Fd) (output input : Bool) :
    Stirred k (k.shut fd output input) := by
  rw [shut]
  split
  · exact .refl k
  · next f e h =>
      have h₁ : Stirred k ((k.setEndpoint f { e with
          outputShut := e.outputShut || output, inputShut := e.inputShut || input }).alert f
            fun _ => true) := stirred_alert_all (endpointOf_eq_ok h) rfl rfl
      dsimp only
      split
      · exact h₁
      · next p hp => exact h₁.trans (stirred_alert_all hp rfl rfl)

lemma sameShape_setSource {k : Kernel} {f : FileId} {old : Readiness}
    (hsource : k.source? f = some old) (state : Readiness) :
    SameShape k (k.setSource f state) where
  descriptors := rfl
  nextFile := rfl
  watches := rfl
  watchingBroken := rfl
  wakeup := rfl
  files g := by
    by_cases hg : f = g
    · subst hg
      simp [setSource, isSome_files_of_canWatch (k := k) (f := f) (by simp [canWatch, hsource])]
    · simp [setSource, Std.ExtTreeMap.getElem?_insert, hg]
  peers g := by rw [endpoint?_setSource hsource]
  sources g := by
    rw [source?_setSource]
    split
    · next hg => rw [← hg, hsource, Option.isSome_some, Option.isSome_some]
    · rfl

/-- What others make of a source is heard by its entries. -/
lemma stirred_become (k : Kernel) (fd : Fd) (state : Readiness) :
    Stirred k (k.become fd state) := by
  rw [become]
  split
  · exact .refl k
  · next f _ =>
      split
      · exact .refl k
      · next old hsource =>
          have hshape := sameShape_setSource hsource state
          refine ⟨⟨hshape.descriptors, hshape.nextFile, hshape.watches, hshape.watchingBroken,
            hshape.wakeup, hshape.files, hshape.peers, hshape.sources⟩,
            fun _ hkey => mem_enqueue.mpr (.inl hkey), fun hk => nodup_enqueue hk _,
            fun _ w hw h => ?_⟩
          by_cases hfile : w.file = f
          · exact .inr (mem_alert (k := k.setSource f state) hw hfile rfl)
          · have hsame := watchReadiness_setSource hsource state hfile
            exact .inl (hsame ▸ h)

/-! ### Opening and closing numbers -/

/-- Opening numbers that were not open, for files that are new or go on as they were, leaves every
watched entry anchored. -/
lemma Anchored.of_grown {k k' : Kernel} (hk : k.Anchored) (hwatches : k'.watches = k.watches)
    (hfresh : ∀ f : FileId, k'.files[f]?.isSome → f < k'.nextFile)
    (hnumbers : ∀ fd f, k.fileOf? fd = some f → k'.fileOf? fd = some f)
    (hfiles : ∀ f : FileId, f < k.nextFile → k'.files[f]? = k.files[f]?) : k'.Anchored where
  fresh := hfresh
  fileOf? w hw := hnumbers _ _ (hk.fileOf? w (hwatches ▸ hw))
  canWatch w hw := by
    have hwatch := hk.canWatch w (hwatches ▸ hw)
    rwa [canWatch_congr (hfiles _ (hk.fresh _ (isSome_files_of_canWatch hwatch)))]

lemma fresh_openPair {k : Kernel} (h : ∀ f : FileId, k.files[f]?.isSome → f < k.nextFile)
    (a b : Fd) :
    ∀ f : FileId, (k.openPair a b).files[f]?.isSome → f < (k.openPair a b).nextFile := by
  intro f hf
  have hold := h f
  simp only [openPair, Std.ExtTreeMap.getElem?_insert] at hf ⊢
  grind

lemma fresh_openFile {k : Kernel} (h : ∀ f : FileId, k.files[f]?.isSome → f < k.nextFile)
    (fd : Fd) (file : File) :
    ∀ f : FileId, (k.openFile fd file).files[f]?.isSome → f < (k.openFile fd file).nextFile := by
  intro f hf
  have hold := h f
  simp only [openFile, Std.ExtTreeMap.getElem?_insert] at hf ⊢
  grind

/-- A file that was opened before is as it was. -/
lemma files_openPair {k : Kernel} (a b : Fd) {f : FileId} (hf : f < k.nextFile) :
    (k.openPair a b).files[f]? = k.files[f]? := by
  have h₁ : k.nextFile ≠ f := Nat.ne_of_gt hf
  have h₂ : k.nextFile + 1 ≠ f := Nat.ne_of_gt (Nat.lt_succ_of_lt hf)
  simp [openPair, Std.ExtTreeMap.getElem?_insert, h₁, h₂]

lemma files_openFile {k : Kernel} (fd : Fd) (file : File) {f : FileId} (hf : f < k.nextFile) :
    (k.openFile fd file).files[f]? = k.files[f]? := by
  have h₁ : k.nextFile ≠ f := Nat.ne_of_gt hf
  simp [openFile, Std.ExtTreeMap.getElem?_insert, h₁]

lemma Anchored.openPair {k : Kernel} (hk : k.Anchored) {a b : Fd} (ha : k.fileOf? a = none)
    (hb : k.fileOf? b = none) : (k.openPair a b).Anchored := by
  refine hk.of_grown rfl (fresh_openPair hk.fresh a b) (fun fd f hf => ?_) (fun f hf => ?_)
  · have hne : ∀ x, k.fileOf? x = none → x ≠ fd := fun x hx h => by simp [← h, hx] at hf
    simp only [Kernel.openPair, Kernel.fileOf?, Std.ExtTreeMap.getElem?_insert] at hf ⊢
    simpa [hne a ha, hne b hb] using hf
  · exact files_openPair a b hf

lemma Anchored.openFile {k : Kernel} (hk : k.Anchored) {fd : Fd} (hfd : k.fileOf? fd = none)
    (file : File) : (k.openFile fd file).Anchored := by
  refine hk.of_grown rfl (fresh_openFile hk.fresh fd file) (fun x f hf => ?_)
    fun f hf => files_openFile fd file hf
  have hne : fd ≠ x := fun h => by simp [← h, hfd] at hf
  simp only [Kernel.openFile, Kernel.fileOf?, Std.ExtTreeMap.getElem?_insert] at hf ⊢
  simpa [hne] using hf

lemma Anchored.duplicate {k : Kernel} (hk : k.Anchored) {source target : Fd}
    (ht : k.fileOf? target = none) : (k.duplicate source target).Anchored := by
  rw [Kernel.duplicate]
  split
  · exact hk
  · refine hk.of_grown rfl hk.fresh (fun x f hf => ?_) (fun f _ => rfl)
    have hne : target ≠ x := fun h => by simp [← h, ht] at hf
    simp only [Kernel.fileOf?, Std.ExtTreeMap.getElem?_insert] at hf ⊢
    simpa [hne] using hf

/-- What is left when a file is gone, before its peer learns of it. -/
def erased (k : Kernel) (f : FileId) : Kernel :=
  { k with
    files := k.files.erase f
    watches := k.watches.filter (·.file != f)
    ready := k.ready.filter fun
      | .wakeup => true
      | .entry g _ => g != f }

lemma release_eq (k : Kernel) (f : FileId) :
    k.release f =
      match k.endpoint? f with
      | none => k.erased f
      | some e => (k.erased f).orphan e.peer (!e.inbox.isEmpty) := rfl

lemma release_watches (k : Kernel) (f : FileId) :
    (k.release f).watches = k.watches.filter (·.file != f) := by
  rw [release_eq]
  split
  · rfl
  · exact (stirred_orphan _ _ _).watches

/-- The end of a file that nobody watches. -/
lemma Anchored.release {k : Kernel} (hk : k.Anchored) {f : FileId}
    (hf : ∀ w ∈ k.watches, w.file ≠ f) : (k.release f).Anchored := by
  have hwatches : (k.erased f).watches = k.watches :=
    List.filter_eq_self.mpr fun w hw => by simpa using hf w hw
  have hleft : (k.erased f).Anchored := by
    refine ⟨fun g hg => hk.fresh g ?_, fun w hw => ?_, fun w hw => ?_⟩
    · simp only [erased, Std.ExtTreeMap.getElem?_erase] at hg
      grind
    · rw [hwatches] at hw
      exact hk.fileOf? w hw
    · rw [hwatches] at hw
      have hsame : (k.erased f).files[w.file]? = k.files[w.file]? := by
        simp [Kernel.erased, Std.ExtTreeMap.getElem?_erase, (hf w hw).symm]
      rw [canWatch_congr hsame]
      exact hk.canWatch w hw
  rw [release_eq]
  split
  · exact hleft
  · exact (stirred_orphan _ _ _).anchored hleft

/-- Closing a number that nobody watches takes no entry with it: a watched file has another number
left. -/
lemma Anchored.close {k : Kernel} (hk : k.Anchored) {fd : Fd} (hfd : ∀ w ∈ k.watches, w.fd ≠ fd) :
    (k.close fd).Anchored ∧ (k.close fd).watches = k.watches := by
  rw [Kernel.close]
  split
  · exact ⟨hk, rfl⟩
  · next f _ =>
      have hleft : Anchored { k with descriptors := k.descriptors.erase fd } := by
        refine ⟨hk.fresh, fun w hw => ?_, hk.canWatch⟩
        have hw' := hk.fileOf? w hw
        simpa [Kernel.fileOf?, Std.ExtTreeMap.getElem?_erase, (hfd w hw).symm] using hw'
      dsimp only
      split
      · exact ⟨hleft, rfl⟩
      · next hnone =>
          have hf : ∀ w ∈ k.watches, w.file ≠ f := by
            intro w hw hwf
            refine hnone (Map.any_eq_true_iff.mpr ?_)
            exact ⟨w.fd, w.file, hleft.fileOf? w hw, by simp [hwf]⟩
          refine ⟨hleft.release hf, ?_⟩
          rw [release_watches]
          exact List.filter_eq_self.mpr fun w hw => by simpa using hf w hw

lemma close_watches_subset (k : Kernel) (fd : Fd) : (k.close fd).watches ⊆ k.watches := by
  rw [Kernel.close]
  split
  · exact List.Subset.refl _
  · dsimp only
    split
    · exact List.Subset.refl _
    · rw [release_watches]
      exact List.filter_sublist.subset

/-! ### All uses of files -/

/-- What an action with files comes to. -/
inductive Acted (k : Kernel) : Action → Kernel → Prop
  | moved {action : Action} {k' : Kernel} (stirred : Stirred k k') : Acted k action k'
  | paired {a b : Fd} (ha : k.fileOf? a = none) (hb : k.fileOf? b = none) :
      Acted k (.pair a b) (k.openPair a b)
  | opened {action : Action} {fd : Fd} {file : File} (free : k.fileOf? fd = none)
      (single : ∀ e, file ≠ .endpoint e) : Acted k action (k.openFile fd file)
  | duplicated {source target : Fd} (free : k.fileOf? target = none) :
      Acted k (.duplicate source target) (k.duplicate source target)
  | closed (fd : Fd) : Acted k (.close fd) (k.close fd)

lemma isOpen_eq_false {k : Kernel} {fd : Fd} : k.isOpen fd = false ↔ k.fileOf? fd = none := by
  simp [isOpen]

lemma acted_of_act {k k' : Kernel} {action : Action} {answer : Answer}
    (h : k.act action = some (k', answer)) : Acted k action k' := by
  cases action with
  | pair a b =>
      simp only [act, Option.ite_none_right_eq_some, Option.some.injEq, Prod.mk.injEq,
        Bool.and_eq_true, Bool.not_eq_true', isOpen_eq_false] at h
      obtain ⟨⟨⟨ha, hb⟩, -⟩, rfl, -⟩ := h
      exact .paired ha hb
  | device fd =>
      simp only [act, Option.ite_none_left_eq_some, Option.some.injEq, Prod.mk.injEq,
        Bool.not_eq_true, isOpen_eq_false] at h
      obtain ⟨hfree, rfl, -⟩ := h
      exact .opened hfree nofun
  | source fd state =>
      simp only [act, Option.ite_none_left_eq_some, Option.some.injEq, Prod.mk.injEq,
        Bool.not_eq_true, isOpen_eq_false] at h
      obtain ⟨hfree, rfl, -⟩ := h
      exact .opened hfree nofun
  | become fd state =>
      simp only [act, Option.ite_none_right_eq_some, Option.some.injEq, Prod.mk.injEq] at h
      obtain ⟨-, rfl, -⟩ := h
      exact .moved (stirred_become k fd state)
  | duplicate source target =>
      simp only [act, Option.ite_none_right_eq_some, Option.some.injEq, Prod.mk.injEq,
        Bool.and_eq_true, Bool.not_eq_true', isOpen_eq_false] at h
      obtain ⟨⟨-, hfree⟩, rfl, -⟩ := h
      exact .duplicated hfree
  | close fd =>
      simp only [act, Option.ite_none_right_eq_some, Option.some.injEq, Prod.mk.injEq] at h
      obtain ⟨-, rfl, -⟩ := h
      exact .closed fd
  | ration portions =>
      simp only [act, Option.some.injEq, Prod.mk.injEq] at h
      obtain ⟨rfl, -⟩ := h
      exact .moved (stirred_portions k portions)
  | write fd data =>
      simp only [act, Option.ite_none_left_eq_some] at h
      obtain ⟨-, h⟩ := h
      split at h
      · next hsent =>
          cases h
          exact .moved (stirred_send hsent)
      · cases h
        exact .moved (.refl k)
  | read fd most =>
      simp only [act, Option.ite_none_left_eq_some, Option.some.injEq, Prod.mk.injEq] at h
      obtain ⟨-, rfl, -⟩ := h
      exact .moved (stirred_receiveAll k fd most)
  | shut fd =>
      simp only [act, Option.ite_none_right_eq_some, Option.some.injEq, Prod.mk.injEq] at h
      obtain ⟨-, rfl, -⟩ := h
      exact .moved (stirred_shut k fd true false)

/-- **The use of files keeps every watched entry**, and the entries anchored, as long as no watched
number is closed. -/
theorem Anchored.act {k k' : Kernel} {action : Action} {answer : Answer} (hk : k.Anchored)
    (h : k.act action = some (k', answer))
    (hclose : ∀ fd, action = .close fd → ∀ w ∈ k.watches, w.fd ≠ fd) :
    k'.Anchored ∧ k'.watches = k.watches := by
  cases acted_of_act h with
  | moved hs => exact ⟨hs.anchored hk, hs.watches⟩
  | paired ha hb => exact ⟨hk.openPair ha hb, rfl⟩
  | opened hfree _ => exact ⟨hk.openFile hfree _, rfl⟩
  | duplicated hfree =>
      refine ⟨hk.duplicate hfree, ?_⟩
      rw [Kernel.duplicate]
      split <;> rfl
  | closed fd => exact hk.close (hclose fd rfl)

lemma release_kept (k : Kernel) (f : FileId) :
    (k.release f).wakeup = k.wakeup ∧ (k.release f).watchingBroken = k.watchingBroken := by
  rw [release_eq]
  split
  · exact ⟨rfl, rfl⟩
  · exact ⟨(stirred_orphan _ _ _).wakeup, (stirred_orphan _ _ _).watchingBroken⟩

/-- No use of files touches the wakeup counter, nor breaks or mends the watched set. -/
lemma act_kept {k k' : Kernel} {action : Action} {answer : Answer}
    (h : k.act action = some (k', answer)) :
    k'.wakeup = k.wakeup ∧ k'.watchingBroken = k.watchingBroken := by
  cases acted_of_act h with
  | moved hs => exact ⟨hs.wakeup, hs.watchingBroken⟩
  | paired ha hb => exact ⟨rfl, rfl⟩
  | opened _ _ => exact ⟨rfl, rfl⟩
  | duplicated hfree =>
      rw [Kernel.duplicate]
      split <;> exact ⟨rfl, rfl⟩
  | closed fd =>
      rw [Kernel.close]
      split
      · exact ⟨rfl, rfl⟩
      · dsimp only
        split
        · exact ⟨rfl, rfl⟩
        · exact release_kept _ _

/-- No use of files adds an entry to the watched set. -/
lemma act_watches_subset {k k' : Kernel} {action : Action} {answer : Answer}
    (h : k.act action = some (k', answer)) : k'.watches ⊆ k.watches := by
  cases acted_of_act h with
  | moved hs => rw [hs.watches]; exact List.Subset.refl _
  | paired ha hb => exact List.Subset.refl _
  | opened _ _ => exact List.Subset.refl _
  | duplicated hfree =>
      rw [Kernel.duplicate]
      split <;> exact List.Subset.refl _
  | closed fd => exact k.close_watches_subset fd

end EventLoop.Kernel
