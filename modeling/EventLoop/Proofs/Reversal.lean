import EventLoop.Proofs.Removal
import EventLoop.Proofs.Routing

/-!
Giving up what was asked for. A callback that is added and removed again leaves no trace but a token
that was drawn, and giving up both directions at once is the same as giving up one after the other,
although the kernel is told other things on each of these ways.

* `Reactor.Alike` says that two reactors differ in the next token and in the queue of what may be
  ready at most. Where table and kernel agree, the registrations decide the rest, so
  `Agreed.alike` asks for the same registrations only.
* `Agreed.remove_eq` is a removal that cannot be refused; `Added.unbroken` says that a callback is
  never added to a broken watched set.
* `Added.undone` and `Agreed.remove_by_turns` are the two statements about one reactor, and
  `removal_undoes_addition` is the main statement here.
-/

namespace EventLoop

/-! ### Dropping what was added -/

@[simp] lemma Interest.covers_union (i j : Interest) (d : Reactor.Direction) :
    (i.union j).covers d = (i.covers d || j.covers d) := by
  cases d <;> rfl

namespace Registration

variable {η : Type} {r : Registration η} {i : Interest}

lemma overlaps_add (hi : i.isEmpty = false) (handler : η) :
    (r.add i handler).overlaps i = true := by
  rcases i with ⟨_ | _, _ | _⟩ <;> simp_all [add, overlaps, Interest.isEmpty]

/-- A registration without the handler that was added for an interest that it did not have. -/
lemma drop_add (hr : r.Armable) (apart : r.overlaps i = false) (handler : η) :
    (r.add i handler).drop i = r := by
  rcases r with ⟨token, _ | read, _ | write, _ | _⟩ <;> rcases i with ⟨_ | _, _ | _⟩ <;>
    simp_all [add, drop, overlaps, Armable]

lemma drop_drop (r : Registration η) (i j : Interest) :
    (r.drop i).drop j = r.drop (i.union j) := by
  rcases i with ⟨_ | _, _ | _⟩ <;> rcases j with ⟨_ | _, _ | _⟩ <;> simp [drop, Interest.union]

/-- A registration is not empty while it has a handler in some direction. -/
lemma isEmpty_eq_false {d : Reactor.Direction} (h : r.handler d ≠ none) : r.isEmpty = false := by
  rw [← Bool.not_eq_true, isEmpty_iff]
  exact fun hnone => h (hnone d)

/-- A registration asks for no more when it loses handlers. -/
lemma active_drop_isEmpty (hr : r.active.isEmpty = true) (i : Interest) :
    (r.drop i).active.isEmpty = true := by
  rcases r with ⟨token, _ | read, _ | write, _ | _⟩ <;> rcases i with ⟨_ | _, _ | _⟩ <;>
    simp_all [drop, active, Interest.isEmpty]

/-- An addition changes what is asked for: a new write handler is armed. -/
lemma active_add_ne (hi : i.isEmpty = false) (apart : r.overlaps i = false) (handler : η) :
    r.active ≠ (r.add i handler).active := by
  rcases r with ⟨token, _ | read, _ | write, _ | _⟩ <;> rcases i with ⟨_ | _, _ | _⟩ <;>
    simp_all [add, active, overlaps, Interest.isEmpty]

end Registration

/-- The index of a sound table is decided by its registrations. -/
lemma Registry.Sound.eq_of_get? {η : Type} {r r' : Registry η} (h : r.Sound) (h' : r'.Sound)
    (same : ∀ fd, r'.get? fd = r.get? fd) : r'.entries = r.entries ∧ r'.tokens = r.tokens := by
  refine ⟨Std.ExtTreeMap.ext_getElem? same, Std.ExtTreeMap.ext_getElem? fun t => ?_⟩
  refine Option.ext fun fd => ?_
  rw [h'.tokens, h.tokens, same]

/-- What is watched under a number is decided by the file behind the number, the token and the
interest. -/
lemma Kernel.Watches.watchesOf_eq {k k' : Kernel} {fd : Fd} {token : Token} {i : Interest}
    (h : k.Watches fd token i) (h' : k'.Watches fd token i) (files : k.SameFiles k') :
    k'.watchesOf fd = k.watchesOf fd := by
  cases hi : i.isEmpty with
  | true => rw [watchesOf_eq_nil h hi, watchesOf_eq_nil h' hi]
  | false =>
      obtain ⟨f, hf, hwatches, -⟩ := h.entry hi
      obtain ⟨f', hf', hwatches', -⟩ := h'.entry hi
      rw [files.fileOf?, hf, Option.some.injEq] at hf'
      rw [hwatches, hwatches', hf']

namespace Reactor

variable {ι : Type} {r r' : Reactor ι} {fd : Fd} {i : Interest}

/-- The two have the same registrations under the same tokens, watch the same and have the same to
do; they may differ in the next token and in the queue of what may be ready. -/
structure Alike (r r' : Reactor ι) : Prop extends SameWork r r' where
  entries : r'.registry.entries = r.registry.entries
  tokens : r'.registry.tokens = r.registry.tokens
  files : r.kernel.SameFiles r'.kernel
  watches : r'.kernel.watches.Perm r.kernel.watches
  wakeup : r'.kernel.wakeup = r.kernel.wakeup

/-- Where table and kernel agree, the registrations decide what is watched. -/
lemma Agreed.watchesOf_eq (h : Agreed r) (h' : Agreed r') (files : r.kernel.SameFiles r'.kernel)
    (same : ∀ x, r'.registry.get? x = r.registry.get? x) (x : Fd) :
    r'.kernel.watchesOf x = r.kernel.watchesOf x := by
  cases hc : r.registry.get? x with
  | none => rw [h.nothing x hc, h'.nothing x ((same x).trans hc)]
  | some current =>
      exact (h.watches x current hc).watchesOf_eq (h'.watches x current ((same x).trans hc)) files

lemma Agreed.alike (h : Agreed r) (h' : Agreed r') (work : SameWork r r')
    (files : r.kernel.SameFiles r'.kernel) (wakeup : r'.kernel.wakeup = r.kernel.wakeup)
    (same : ∀ x, r'.registry.get? x = r.registry.get? x) : Alike r r' := by
  obtain ⟨hentries, htokens⟩ := h.sound.eq_of_get? h'.sound same
  exact ⟨work, hentries, htokens, files,
    Kernel.perm_of_watchesOf (h.watchesOf_eq h' files same), wakeup⟩

/-! ### Removals that cannot be refused -/

/-- Where table and kernel agree, callbacks that are there can be removed. -/
lemma Agreed.remove_eq (h : Agreed r) {current : Registration CallbackId}
    (entry : r.registry.get? fd = some current) (overlaps : current.overlaps i = true) :
    (r.remove fd i).2.1 = true ∧
      (r.remove fd i).1.registry = dropped r.registry fd (current.drop i) := by
  obtain ⟨k, hk⟩ := h.sync_isOk entry fun hactive => Registration.active_drop_isEmpty hactive i
  rw [remove, entry]
  simp only [overlaps, Bool.not_true, Bool.false_eq_true, if_false]
  rw [show (current.drop i).token = current.token from rfl, hk]
  exact ⟨rfl, rfl⟩

/-! ### Adding and removing -/

/-- A broken watched set cannot be told anything new. -/
lemma unbroken_of_sync {k k' : Kernel} {token : Token} {before after : Interest}
    (h : sync k fd token before after = .ok k') (hne : before ≠ after) :
    k.watchingBroken = false := by
  have hwatchable : ∀ {next : FileId → Except OsError Kernel},
      (k.watchable fd >>= next) = .ok k' → k.watchingBroken = false := by
    intro next hnext
    cases hw : k.watchable fd with
    | error e => simp [hw, bind, Except.bind] at hnext
    | ok f => exact (Kernel.watchable_eq_ok.mp hw).2.2
  cases synced_of_sync h with
  | idle nothing nothing' =>
      rw [Interest.isEmpty_iff.mp nothing, Interest.isEmpty_iff.mp nothing'] at hne
      exact absurd rfl hne
  | watched _ _ asked => exact hwatchable asked
  | unwatched _ _ asked => exact hwatchable asked
  | same eq => exact absurd eq hne
  | rewatched _ _ asked => exact hwatchable asked

lemma Added.unbroken {callback : CallbackId} (h : Added r fd i callback r' true) :
    r.kernel.watchingBroken = false := by
  cases h with
  | added asked apart synced =>
      exact unbroken_of_sync synced (Registration.active_add_ne asked apart callback)

/-- A registration that comes out of the table is put back as it was. -/
lemma dropped_insert_get? (registry : Registry CallbackId)
    (filled : ∀ current, registry.get? fd = some current → current.isEmpty = false)
    (next : Registration CallbackId) (x : Fd) :
    (dropped ((registry.currentOrFresh fd).1.insert fd next) fd
      (registry.currentOrFresh fd).2).get? x = registry.get? x := by
  rw [dropped_get?]
  split
  · next hx =>
      subst hx
      cases hc : registry.get? fd with
      | none =>
          rw [Registry.currentOrFresh_of_none hc]
          rfl
      | some current =>
          rw [Registry.currentOrFresh_of_some hc]
          simp [filled current hc]
  · next hx => simp [hx]

lemma Added.nextToken {callback : CallbackId} (h : Added r fd i callback r' true) :
    r'.registry.nextToken = (r.registry.currentOrFresh fd).1.nextToken := by
  cases h with
  | added _ _ _ => rfl

/-- **A callback that was added is removed without a trace.** -/
theorem Added.undone {callback : CallbackId} (h : Added r fd i callback r' true) (hr : Agreed r)
    (armable : r.registry.Armable) :
    (r'.remove fd i).2.1 = true ∧ Alike r (r'.remove fd i).1 ∧
      (r'.remove fd i).1.registry.nextToken =
        (r.registry.currentOrFresh fd).1.nextToken := by
  have hr' := h.agreed hr
  have hremoved := r'.removed fd i
  have hentry : r'.registry.get? fd =
      some ((r.registry.currentOrFresh fd).2.add i callback) := by
    cases h with
    | added _ _ _ => simp
  have hdropped : ((r.registry.currentOrFresh fd).2.add i callback).drop i =
      (r.registry.currentOrFresh fd).2 := by
    cases h with
    | added _ apart _ =>
        exact Registration.drop_add (armable_currentOrFresh armable fd) apart callback
  obtain ⟨hanswer, hregistry⟩ := hr'.remove_eq hentry (Registration.overlaps_add h.asked callback)
  refine ⟨hanswer, hr.alike (hremoved.agreed hr') ?_ ?_ ?_ fun x => ?_, ?_⟩
  · exact h.sameWork.trans hremoved.sameWork
  · exact h.tells.sameFiles.trans hremoved.tells.sameFiles
  · rw [hremoved.tells.wakeup, h.tells.wakeup]
  · rw [hregistry, hdropped]
    cases h with
    | added _ _ _ => exact dropped_insert_get? _ (hr.sound.filled fd) _ x
  · rw [hremoved.nextToken, h.nextToken]

/-! ### Removing both directions at once and by turns -/

/-- What is left after two removals is what is left after one of both. -/
lemma dropped_dropped_get? (registry : Registry CallbackId) (current : Registration CallbackId)
    (i j : Interest) (x : Fd) :
    (dropped (dropped registry fd (current.drop i)) fd ((current.drop i).drop j)).get? x =
      (dropped registry fd (current.drop (i.union j))).get? x := by
  rw [dropped_get?, dropped_get?, dropped_get?, Registration.drop_drop]
  split <;> rfl

/-- **Callbacks are removed at once as by turns**, as long as the first turn leaves one. -/
theorem Agreed.remove_by_turns (h : Agreed r) {current : Registration CallbackId} {i j : Interest}
    {d d' : Direction} (entry : r.registry.get? fd = some current)
    (handler : current.handler d ≠ none) (covers : i.covers d = true)
    (handler' : current.handler d' ≠ none) (spares : i.covers d' = false)
    (covers' : j.covers d' = true) :
    (r.remove fd i).2.1 = true ∧ ((r.remove fd i).1.remove fd j).2.1 = true ∧
      Alike (r.remove fd (i.union j)).1 ((r.remove fd i).1.remove fd j).1 ∧
      ((r.remove fd i).1.remove fd j).1.registry.nextToken =
        (r.remove fd (i.union j)).1.registry.nextToken := by
  have hleft : (current.drop i).handler d' ≠ none := by simpa [spares] using handler'
  have hcovers : (i.union j).covers d = true := by simp [covers]
  have hfirst := r.removed fd i
  have hsecond := (r.remove fd i).1.removed fd j
  have hwhole := r.removed fd (i.union j)
  obtain ⟨hanswer, hregistry⟩ := h.remove_eq entry (Registration.overlaps_of_covers covers handler)
  have hentry : (r.remove fd i).1.registry.get? fd = some (current.drop i) := by
    rw [hregistry, dropped_get?]
    simp [Registration.isEmpty_eq_false hleft]
  have hagreed := hfirst.agreed h
  obtain ⟨hanswer', hregistry'⟩ := hagreed.remove_eq hentry
    (Registration.overlaps_of_covers covers' hleft)
  obtain ⟨-, hregistry''⟩ := h.remove_eq entry
    (Registration.overlaps_of_covers hcovers handler)
  refine ⟨hanswer, hanswer', ?_, ?_⟩
  · refine (hwhole.agreed h).alike (hsecond.agreed hagreed) ?_ ?_ ?_ fun x => ?_
    · exact hwhole.sameWork.symm.trans (hfirst.sameWork.trans hsecond.sameWork)
    · exact hwhole.tells.sameFiles.symm.trans
        (hfirst.tells.sameFiles.trans hsecond.tells.sameFiles)
    · rw [hsecond.tells.wakeup, hfirst.tells.wakeup, hwhole.tells.wakeup]
    · rw [hregistry', hregistry'', hregistry]
      exact dropped_dropped_get? _ current i j x
  · rw [hsecond.nextToken, hfirst.nextToken, hwhole.nextToken]

end Reactor

namespace Loop

variable {ι : Type}

/-- **Removing undoes adding.** At any time of a run that closes no number with a registration,
whatever a descriptor has by then: if a callback is added for it, then removing the same interest at
once succeeds, and all is as before but for the token that a descriptor without a registration drew.
And if a descriptor has both callbacks, then removing both at once succeeds, and so does removing
one after the other in either order, to the same effect. That the watched set is not broken need be
asked for the latter only: nothing can be added for a broken one. -/
theorem removal_undoes_addition (limit : Option Nat) (capacity : Nat) (ms : List (Move ι))
    (kept : ∀ s ∈ (start (.boot limit) capacity).strides ms, ∀ fd, s.move = .file (.close fd) →
      s.before.reactor.registry.get? fd = none)
    {r : Reactor ι} (reached : ((start (.boot limit) capacity).after ms).reactor = r) (fd : Fd) :
    (∀ i callback r' notes, r.add fd i callback = (r', true, notes) →
      ∃ r'' notes', r'.remove fd i = (r'', true, notes') ∧ r.Alike r'' ∧
        r''.registry.nextToken = (r.registry.currentOrFresh fd).1.nextToken) ∧
    (∀ current, r.registry.get? fd = some current → (∀ d, current.handler d ≠ none) →
      r.kernel.watchingBroken = false →
      ∃ whole notes, r.remove fd .both = (whole, true, notes) ∧
        ∀ i j, (i, j) = (.readOnly, .writeOnly) ∨ (i, j) = (.writeOnly, .readOnly) →
          ∃ first notes₁ last notes₂, r.remove fd i = (first, true, notes₁) ∧
            first.remove fd j = (last, true, notes₂) ∧ whole.Alike last ∧
            last.registry.nextToken = whole.registry.nextToken) := by
  have hagreed : r.kernel.watchingBroken = false → r.Agreed := by
    subst reached
    exact agreed_of_unbroken limit capacity ms kept
  have harmable : r.registry.Armable := reached ▸ armable_after (.boot limit) capacity ms
  refine ⟨fun i callback r' notes hadd => ?_, fun current entry handlers unbroken => ?_⟩
  · have hadded := r.added fd i callback
    rw [hadd] at hadded
    obtain ⟨hanswer, halike, hnext⟩ := hadded.undone (hagreed hadded.unbroken) harmable
    exact ⟨_, _, Prod.ext rfl (Prod.ext hanswer rfl), halike, hnext⟩
  · have hboth := (hagreed unbroken).remove_eq (i := .both) entry
      (Registration.overlaps_of_covers (d := .reading) rfl (handlers .reading))
    refine ⟨_, _, Prod.ext rfl (Prod.ext hboth.1 rfl), fun i j hij => ?_⟩
    obtain ⟨d, d', covers, spares, covers', hunion⟩ : ∃ d d', i.covers d = true ∧
        i.covers d' = false ∧ j.covers d' = true ∧ i.union j = .both := by
      rcases hij with hij | hij
      · obtain ⟨rfl, rfl⟩ := Prod.mk.inj hij
        exact ⟨.reading, .writing, rfl, rfl, rfl, rfl⟩
      · obtain ⟨rfl, rfl⟩ := Prod.mk.inj hij
        exact ⟨.writing, .reading, rfl, rfl, rfl, rfl⟩
    obtain ⟨hanswer, hanswer', halike, hnext⟩ := (hagreed unbroken).remove_by_turns entry
      (handlers d) covers (handlers d') spares covers'
    rw [hunion] at halike hnext
    exact ⟨_, _, _, _, Prod.ext rfl (Prod.ext hanswer rfl), Prod.ext rfl (Prod.ext hanswer' rfl),
      halike, hnext⟩

/-! ### Inside a write callback

The write callbacks of two descriptors were started and so disarmed, and the second one of them
looks on. One descriptor has nothing else, so that nothing is watched for it; the other one is
watched for reading.
-/

namespace Spent

def begin : List (Move Unit) :=
  [.file (.pair 100 101), .file (.pair 102 103), .file (.pair 104 105), .file (.close 104),
    .add 100 .writeOnly, .add 102 .both, .enter, .advance, .advance, .advance, .finish, .advance,
    .advance]

def reactor : Reactor Unit := ((start (.boot none) 64).after begin).reactor

/-- The reactor with a read callback next to the disarmed write callback. -/
def grown : Reactor Unit := (reactor.add 100 .readOnly 7).1

lemma kept : ∀ s ∈ (start (.boot none) 64).strides begin, ∀ fd, s.move = .file (.close fd) →
    s.before.reactor.registry.get? fd = none := by
  refine List.forall_iff_forall_mem.mp ?_
  refine ⟨nofun, nofun, nofun, fun fd hm => ?_, nofun, nofun, nofun, nofun, nofun, nofun, nofun,
    nofun, nofun⟩
  cases hm
  rfl

end Spent

/-- A disarmed write callback stays disarmed while its descriptor is watched for reading and not
watched again, and both callbacks of the other descriptor go in any order. -/
theorem removal_undoes_addition_spent :
    (∀ s ∈ (start (.boot none) 64).strides Spent.begin, ∀ fd, s.move = .file (.close fd) →
        s.before.reactor.registry.get? fd = none) ∧
      Spent.reactor.registry.get? 100 = some ⟨0, none, some 0, false⟩ ∧
      Spent.reactor.registry.get? 102 = some ⟨1, some 1, some 1, false⟩ ∧
      Spent.reactor.add 100 .readOnly 7 = (Spent.grown, true, [.registered 100 .readOnly 7]) ∧
      (∃ r'' notes', Spent.grown.remove 100 .readOnly = (r'', true, notes') ∧
        Spent.reactor.Alike r'' ∧ r''.registry.nextToken = 2) ∧
      Spent.reactor.kernel.watchingBroken = false ∧
      ∃ whole notes, Spent.reactor.remove 102 .both = (whole, true, notes) ∧
        ∀ i j, (i, j) = (.readOnly, .writeOnly) ∨ (i, j) = (.writeOnly, .readOnly) →
          ∃ first notes₁ last notes₂, Spent.reactor.remove 102 i = (first, true, notes₁) ∧
            first.remove 102 j = (last, true, notes₂) ∧ whole.Alike last ∧
            last.registry.nextToken = whole.registry.nextToken := by
  have hentry : Spent.reactor.registry.get? 102 = some ⟨1, some 1, some 1, false⟩ := rfl
  have hadd : Spent.reactor.add 100 .readOnly 7 =
      (Spent.grown, true, [.registered 100 .readOnly 7]) := rfl
  have hundone := removal_undoes_addition none 64 Spent.begin Spent.kept (r := Spent.reactor) rfl
  refine ⟨Spent.kept, rfl, hentry, hadd, (hundone 100).1 _ _ _ _ hadd, rfl, ?_⟩
  exact (hundone 102).2 _ hentry (fun d => by cases d <;> exact nofun) rfl

end Loop

end EventLoop
