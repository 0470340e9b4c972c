import EventLoop.Proofs.Kernel.Attention

/-!
A connection that nobody else can reach: its two ends, each under a number of its own, and what is
under way to each of them.

* `Kernel.Line` says that there is such a connection, with both directions open. What one end sends
  is appended to what is under way to the other one, and received there in the same order:
  `Line.send`, `Line.receive` and `Line.receiveAll`.
* `Kernel.Beside` says that nothing was done to two files, and `Line.beside` that a line between
  them stays as it is.
* `Line.act` is the main statement here: whatever others do with other numbers does nothing to the
  line.
* `Kernel.Numbered` says that a file that comes only now has no number yet; so `line_openPair` makes
  a line.
-/

namespace EventLoop.Kernel

/-- Two files are the ends of a connection, each open under one number, with both directions open
and some bytes under way to each of them. -/
structure Line (k : Kernel) (limit : Option Nat) (a b : Fd) (f g : FileId)
    (forA forB : List UInt8) : Prop where
  limit : k.inboxLimit = limit
  apart : f ≠ g
  fileA : k.fileOf? a = some f
  fileB : k.fileOf? b = some g
  onlyA : ∀ fd, k.fileOf? fd = some f → fd = a
  onlyB : ∀ fd, k.fileOf? fd = some g → fd = b
  endA : k.endpoint? f = some ⟨g, forA, false, false, false⟩
  endB : k.endpoint? g = some ⟨f, forB, false, false, false⟩

variable {k k' : Kernel} {limit : Option Nat} {a b : Fd} {f g : FileId} {forA forB : List UInt8}

lemma Line.symm (h : Line k limit a b f g forA forB) : Line k limit b a g f forB forA :=
  ⟨h.limit, h.apart.symm, h.fileB, h.fileA, h.onlyB, h.onlyA, h.endB, h.endA⟩

lemma Line.endpointOf (h : Line k limit a b f g forA forB) :
    k.endpointOf a = .ok (f, ⟨g, forA, false, false, false⟩) := by
  simp [Kernel.endpointOf, h.fileA, h.endA]

lemma Line.arrived (h : Line k limit a b f g forA forB) : k.arrived a = forA.length := by
  simp [Kernel.arrived, h.endpointOf]

/-- What has arrived at a number and was not read yet. -/
def inbox (k : Kernel) (fd : Fd) : List UInt8 :=
  match k.endpointOf fd with
  | .error _ => []
  | .ok (_, e) => e.inbox

lemma Line.inbox (h : Line k limit a b f g forA forB) : k.inbox a = forA := by
  rw [Kernel.inbox, h.endpointOf]

/-- What is under way changes at one end. -/
lemma Line.setEndpoint (h : Line k limit a b f g forA forB) {bytes : List UInt8}
    (hends : ∀ x, k'.endpoint? x =
      (k.setEndpoint f ⟨g, bytes, false, false, false⟩).endpoint? x)
    (hnumbers : k'.descriptors = k.descriptors) (hlimit : k'.inboxLimit = k.inboxLimit) :
    Line k' limit a b f g bytes forB := by
  have hfiles : ∀ fd, k'.fileOf? fd = k.fileOf? fd := fun fd => by
    rw [Kernel.fileOf?, Kernel.fileOf?, hnumbers]
  refine ⟨hlimit.trans h.limit, h.apart, ?_, ?_, fun fd => ?_, fun fd => ?_, ?_, ?_⟩
  · rw [hfiles, h.fileA]
  · rw [hfiles, h.fileB]
  · rw [hfiles]
    exact h.onlyA fd
  · rw [hfiles]
    exact h.onlyB fd
  · rw [hends, endpoint?_setEndpoint, if_pos rfl]
  · rw [hends, endpoint?_setEndpoint, if_neg h.apart, h.endB]

/-! ### Moving bytes -/

/-- What a send takes is a beginning of the bytes. -/
lemma portion_prefix (k : Kernel) (f : FileId) (data : List UInt8) : k.portion f data <+: data := by
  have hfitting : k.fitting f data <+: data := by
    rw [fitting]
    split
    · exact List.prefix_rfl
    · exact List.take_prefix ..
  rw [portion]
  split
  · exact hfitting
  · exact (List.take_prefix ..).trans hfitting

/-- A send to a full inbox takes nothing. -/
lemma portion_of_full {f : FileId} (h : k.room f = some 0) (data : List UInt8) :
    k.portion f data = [] := by
  have hfitting : k.fitting f data = [] := by
    rw [fitting, h]
    rfl
  rw [portion]
  split <;> simp [hfitting]

/-- What comes of sending: a beginning of the bytes is under way, and not nothing unless they are
nothing; or there is no room for a single one. Where nothing has room nothing is taken. -/
lemma Line.send (h : Line k limit a b f g forA forB) (data : List UInt8) :
    (∃ k' taken, k.send b data = .ok (k', taken.length) ∧ data.take taken.length = taken ∧
        (data ≠ [] → taken ≠ []) ∧ (limit = some 0 → taken = []) ∧
        Line k' limit a b f g (forA ++ taken) forB) ∨
      k.send b data = .error .wouldBlock := by
  have hend := h.symm.endpointOf
  by_cases hdata : data = []
  · subst hdata
    refine .inl ⟨k, [], ?_, rfl, id, fun _ => rfl, by simpa using h⟩
    simp [Kernel.send, hend, bind, Except.bind, pure, Except.pure]
  by_cases htaken : k.portion f data = []
  · refine .inr ?_
    simp [Kernel.send, hend, bind, Except.bind, throw, throwThe, MonadExceptOf.throw, hdata,
      h.endA, htaken]
  -- what is taken goes into the inbox
  have hline : Line (({ k with portions := k.portions.tail }.setEndpoint f
      ⟨g, forA ++ k.portion f data, false, false, false⟩).alert f (·.interest.read))
      limit a b f g (forA ++ k.portion f data) forB := h.setEndpoint (fun _ => rfl) rfl rfl
  refine .inl ⟨_, k.portion f data, ?_, ?_, fun _ => htaken, fun hlimit => ?_, hline⟩
  · simp [Kernel.send, hend, bind, Except.bind, pure, Except.pure, hdata, h.endA, htaken]
  · exact (List.prefix_iff_eq_take.mp (k.portion_prefix f data)).symm
  · have hfull : k.room f = some 0 := by simp [Kernel.room, h.limit, hlimit, h.endA]
    exact portion_of_full hfull data

/-- What comes of receiving: the first of the bytes that are under way, or nothing yet. -/
lemma Line.receive (h : Line k limit a b f g forA forB) (most : Nat) :
    forA = [] ∧ k.receive a most = (k, .error .wouldBlock) ∨
      forA ≠ [] ∧ ∃ k', k.receive a most = (k', .ok (forA.take most)) ∧
        Line k' limit a b f g (forA.drop most) forB := by
  have hend := h.endpointOf
  by_cases hforA : forA = []
  · exact .inl ⟨hforA, by simp [Kernel.receive, hend, hforA]⟩
  · refine .inr ⟨hforA, ?_⟩
    simp only [Kernel.receive, hend, List.isEmpty_eq_false_iff.mpr hforA, Bool.false_eq_true,
      if_false]
    refine ⟨_, rfl, ?_⟩
    split
    · exact h.setEndpoint (fun _ => rfl) rfl rfl
    · exact h.setEndpoint (fun _ => rfl) rfl rfl

/-- Reading until enough was read takes the first of the bytes that are under way. -/
lemma Line.receiveAll (h : Line k limit a b f g forA forB) (most : Option Nat) :
    ∃ rest, forA = (k.receiveAll a most).2.1 ++ rest ∧
      Line (k.receiveAll a most).1 limit a b f g rest forB := by
  rw [Kernel.receiveAll]
  generalize most.getD (k.arrived a + 1) = m
  rcases h.receive m with ⟨-, hnone⟩ | ⟨hforA, k₁, hsome, hline⟩
  · simp only [hnone]
    exact ⟨forA, rfl, h⟩
  · cases hbytes : forA.take m with
    | nil =>
        simp only [hsome, hbytes]
        refine ⟨forA.drop m, ?_, hline⟩
        rw [List.nil_append, ← List.nil_append (forA.drop m), ← hbytes, List.take_append_drop]
    | cons byte bytes =>
        simp only [hsome, hbytes]
        split
        · exact ⟨forA.drop m, by rw [← hbytes, List.take_append_drop], hline⟩
        · rcases hline.receive (m - (byte :: bytes).length) with
            ⟨-, hnone⟩ | ⟨-, k₂, hmore, hline'⟩
          · simp only [hnone]
            exact ⟨forA.drop m, by rw [← hbytes, List.take_append_drop], hline⟩
          · simp only [hmore]
            refine ⟨_, ?_, hline'⟩
            rw [List.append_assoc, List.take_append_drop, ← hbytes, List.take_append_drop]

/-! ### What others do -/

/-- Nothing was done to two files, and the same numbers lead to them. -/
structure Beside (f g : FileId) (k k' : Kernel) : Prop where
  limit : k'.inboxLimit = k.inboxLimit
  files : ∀ fd x, x = f ∨ x = g → (k'.fileOf? fd = some x ↔ k.fileOf? fd = some x)
  ends : ∀ x, x = f ∨ x = g → k'.endpoint? x = k.endpoint? x

lemma Beside.refl (f g : FileId) (k : Kernel) : Beside f g k k :=
  ⟨rfl, fun _ _ _ => Iff.rfl, fun _ _ => rfl⟩

lemma Beside.trans {k'' : Kernel} (h : Beside f g k k') (h' : Beside f g k' k'') :
    Beside f g k k'' :=
  ⟨h'.limit.trans h.limit, fun fd x hx => (h'.files fd x hx).trans (h.files fd x hx),
    fun x hx => (h'.ends x hx).trans (h.ends x hx)⟩

lemma Line.beside (h : Line k limit a b f g forA forB) (hk : Beside f g k k') :
    Line k' limit a b f g forA forB where
  limit := hk.limit.trans h.limit
  apart := h.apart
  fileA := (hk.files a f (.inl rfl)).mpr h.fileA
  fileB := (hk.files b g (.inr rfl)).mpr h.fileB
  onlyA fd hfd := h.onlyA fd ((hk.files fd f (.inl rfl)).mp hfd)
  onlyB fd hfd := h.onlyB fd ((hk.files fd g (.inr rfl)).mp hfd)
  endA := (hk.ends f (.inl rfl)).trans h.endA
  endB := (hk.ends g (.inr rfl)).trans h.endB

lemma SameFiles.beside (h : SameFiles k k') : Beside f g k k' :=
  ⟨h.inboxLimit, fun fd x _ => by rw [h.fileOf?], fun x _ => h.endpoint? x⟩

/-- Another file is neither of the two. -/
def Other (f g x : FileId) : Prop := x ≠ f ∧ x ≠ g

lemma beside_setEndpoint {x : FileId} (hx : Other f g x) (e : Endpoint)
    (hends : ∀ y, k'.endpoint? y = (k.setEndpoint x e).endpoint? y)
    (hnumbers : k'.descriptors = k.descriptors) (hlimit : k'.inboxLimit = k.inboxLimit) :
    Beside f g k k' where
  limit := hlimit
  files fd y _ := by rw [Kernel.fileOf?, Kernel.fileOf?, hnumbers]
  ends y hy := by
    rw [hends, endpoint?_setEndpoint, if_neg]
    rintro rfl
    exact hy.elim hx.1 hx.2

/-- The file behind another number is neither end, and neither is its peer. -/
lemma Line.other (h : Line k limit a b f g forA forB) (hk : k.Paired) {fd : Fd} (hfd : fd ≠ a)
    (hfd' : fd ≠ b) {x : FileId} (hx : k.fileOf? fd = some x) :
    Other f g x ∧ ∀ e, k.endpoint? x = some e → Other f g e.peer := by
  have hxf : x ≠ f := fun hxf => hfd (h.onlyA fd (hxf ▸ hx))
  have hxg : x ≠ g := fun hxg => hfd' (h.onlyB fd (hxg ▸ hx))
  refine ⟨⟨hxf, hxg⟩, fun e he => ⟨fun hpeer => ?_, fun hpeer => ?_⟩⟩
  · exact hxg (hk.answers x e _ he (hpeer ▸ h.endA)).symm
  · exact hxf (hk.answers x e _ he (hpeer ▸ h.endB)).symm

lemma endpointOf_file {fd : Fd} {x : FileId} {e : Endpoint} (h : k.endpointOf fd = .ok (x, e)) :
    k.fileOf? fd = some x := by
  rw [Kernel.endpointOf] at h
  split at h
  · cases h
  · next y hy =>
      split at h
      · cases h
      · cases h
        exact hy

section

variable (h : Line k limit a b f g forA forB) (hk : k.Paired) {fd : Fd} (hfd : fd ≠ a)
  (hfd' : fd ≠ b)
include h hk hfd hfd'

lemma Line.beside_send {data : List UInt8} {n : Nat} (hsent : k.send fd data = .ok (k', n)) :
    Beside f g k k' := by
  rw [Kernel.send] at hsent
  cases he : k.endpointOf fd with
  | error e => simp [he, bind, Except.bind] at hsent
  | ok p =>
      have hpeer := (h.other hk hfd hfd' (endpointOf_file he)).2 _ (endpointOf_eq_ok he)
      simp only [he, bind, Except.bind, throw, throwThe, MonadExceptOf.throw, pure,
        Except.pure] at hsent
      split at hsent
      · cases hsent
      · split at hsent
        · cases hsent
          exact .refl f g k
        · split at hsent
          · cases hsent
          · split at hsent
            · cases hsent
            · cases hsent
              exact beside_setEndpoint hpeer _ (fun _ => rfl) rfl rfl

lemma Line.beside_receive (most : Nat) : Beside f g k (k.receive fd most).1 := by
  rw [Kernel.receive]
  split
  · exact .refl f g k
  · next x e he =>
      have hx := (h.other hk hfd hfd' (endpointOf_file he)).1
      split
      · split
        · exact beside_setEndpoint hx _ (fun _ => rfl) rfl rfl
        · split <;> exact .refl f g k
      · dsimp only
        split
        · exact beside_setEndpoint hx _ (fun _ => rfl) rfl rfl
        · exact beside_setEndpoint hx _ (fun _ => rfl) rfl rfl

lemma Line.beside_receiveAll (most : Option Nat) : Beside f g k (k.receiveAll fd most).1 := by
  have hfirst := h.beside_receive hk hfd hfd' (most.getD (k.arrived fd + 1))
  have hstirred := stirred_receive k fd (most.getD (k.arrived fd + 1))
  unfold Kernel.receiveAll
  dsimp only
  split
  · next hr => rwa [hr] at hfirst
  · next hr => rwa [hr] at hfirst
  · next k₁ bytes _ hr =>
      rw [hr] at hfirst hstirred
      split
      · exact hfirst
      · have hsecond := (h.beside hfirst).beside_receive (hstirred.paired hk) hfd hfd'
          (most.getD (k.arrived fd + 1) - bytes.length)
        split
        · next hr' => exact hfirst.trans (by rwa [hr'] at hsecond)
        · next hr' => exact hfirst.trans (by rwa [hr'] at hsecond)

lemma Line.beside_shut (output input : Bool) : Beside f g k (k.shut fd output input) := by
  rw [Kernel.shut]
  split
  · exact .refl f g k
  · next x e he =>
      obtain ⟨hx, hpeer⟩ := h.other hk hfd hfd' (endpointOf_file he)
      have hown : Beside f g k ((k.setEndpoint x { e with
          outputShut := e.outputShut || output, inputShut := e.inputShut || input }).alert x
            fun _ => true) := beside_setEndpoint hx _ (fun _ => rfl) rfl rfl
      dsimp only
      split
      · exact hown
      · exact hown.trans
          (beside_setEndpoint (hpeer e (endpointOf_eq_ok he)) _ (fun _ => rfl) rfl rfl)

lemma Line.beside_close : Beside f g k (k.close fd) := by
  rw [Kernel.close]
  split
  · exact .refl f g k
  · next x hx =>
      obtain ⟨hxo, hpeer⟩ := h.other hk hfd hfd' hx
      have hleft : Beside f g k { k with descriptors := k.descriptors.erase fd } := by
        refine ⟨rfl, fun y z hz => ?_, fun _ _ => rfl⟩
        simp only [Kernel.fileOf?, Std.ExtTreeMap.getElem?_erase]
        split
        · next heq =>
            obtain rfl : fd = y := by simpa using heq
            have hne : k.descriptors[fd]? ≠ some z := fun hzf => by
              obtain rfl : x = z := by simpa [Kernel.fileOf?, hzf] using hx.symm
              exact hz.elim hxo.1 hxo.2
            simp [hne]
        · rfl
      have herased : Beside f g k
          (Kernel.erased { k with descriptors := k.descriptors.erase fd } x) := by
        refine ⟨rfl, fun y z hz => hleft.files y z hz, fun z hz => ?_⟩
        rw [endpoint?_erased, if_neg]
        · rfl
        · rintro rfl
          exact hz.elim hxo.1 hxo.2
      dsimp only
      split
      · exact hleft
      · rw [release_eq]
        split
        · exact herased
        · next e he =>
            refine herased.trans ?_
            rw [Kernel.orphan]
            split
            · exact .refl f g _
            · exact beside_setEndpoint (hpeer e he) _ (fun _ => rfl) rfl rfl

end

lemma beside_openPair {x y : Fd} (hx : k.fileOf? x = none)
    (hy : k.fileOf? y = none) (hf : f < k.nextFile) (hg : g < k.nextFile) :
    Beside f g k (k.openPair x y) where
  limit := rfl
  files fd z hz := by
    have hlt : z < k.nextFile := hz.elim (· ▸ hf) (· ▸ hg)
    simp only [Kernel.openPair, Kernel.fileOf?, Std.ExtTreeMap.getElem?_insert] at hx hy ⊢
    grind
  ends z hz := endpoint?_congr (files_openPair x y (hz.elim (· ▸ hf) (· ▸ hg)))

lemma beside_openFile {x : Fd} (hx : k.fileOf? x = none) (file : File) (hf : f < k.nextFile)
    (hg : g < k.nextFile) : Beside f g k (k.openFile x file) where
  limit := rfl
  files fd z hz := by
    have hlt : z < k.nextFile := hz.elim (· ▸ hf) (· ▸ hg)
    simp only [Kernel.openFile, Kernel.fileOf?, Std.ExtTreeMap.getElem?_insert] at hx ⊢
    grind
  ends z hz := endpoint?_congr (files_openFile x file (hz.elim (· ▸ hf) (· ▸ hg)))

/-- A source is neither end of a line. -/
lemma beside_become (fd : Fd) (state : Readiness) : Beside f g k (k.become fd state) := by
  rw [Kernel.become]
  split
  · exact .refl f g k
  · next x _ =>
      split
      · exact .refl f g k
      · next old hsource =>
          exact ⟨rfl, fun _ _ _ => Iff.rfl, fun y _ => endpoint?_setSource hsource state y⟩

lemma Line.beside_duplicate (h : Line k limit a b f g forA forB) (hk : k.Paired)
    {source target : Fd} (hsource : source ≠ a) (hsource' : source ≠ b)
    (htarget : k.fileOf? target = none) : Beside f g k (k.duplicate source target) := by
  rw [Kernel.duplicate]
  split
  · exact .refl f g k
  · next x hx =>
      obtain ⟨hother, -⟩ := h.other hk hsource hsource' hx
      refine ⟨rfl, fun fd z hz => ?_, fun _ _ => rfl⟩
      have hne : x ≠ z := by
        rintro rfl
        exact hz.elim hother.1 hother.2
      simp only [Kernel.fileOf?, Std.ExtTreeMap.getElem?_insert] at htarget ⊢
      grind

/-- The numbers that an action uses. -/
def Action.numbers : Action → List Fd
  | pair a b => [a, b]
  | duplicate first second => [first, second]
  | device fd | source fd _ | become fd _ | close fd | write fd _ | read fd _ | shut fd => [fd]
  | ration _ => []

/-- **What others do with other numbers does nothing to a line.** -/
theorem Line.act (h : Line k limit a b f g forA forB) (hk : k.Paired) {action : Action}
    {answer : Answer} (acted : k.act action = some (k', answer)) (ha : a ∉ action.numbers)
    (hb : b ∉ action.numbers) : Beside f g k k' := by
  have hf : f < k.nextFile := hk.fresh f (isSome_files_of_endpoint? (by rw [h.endA]; rfl))
  have hg : g < k.nextFile := hk.fresh g (isSome_files_of_endpoint? (by rw [h.endB]; rfl))
  cases action with
  | pair x y =>
      simp only [Kernel.act, Option.ite_none_right_eq_some, Option.some.injEq, Prod.mk.injEq,
        Bool.and_eq_true, Bool.not_eq_true', isOpen_eq_false] at acted
      obtain ⟨⟨⟨hx, hy⟩, -⟩, rfl, -⟩ := acted
      exact beside_openPair hx hy hf hg
  | device fd =>
      simp only [Kernel.act, Option.ite_none_left_eq_some, Option.some.injEq, Prod.mk.injEq,
        Bool.not_eq_true, isOpen_eq_false] at acted
      obtain ⟨hfree, rfl, -⟩ := acted
      exact beside_openFile hfree _ hf hg
  | source fd state =>
      simp only [Kernel.act, Option.ite_none_left_eq_some, Option.some.injEq, Prod.mk.injEq,
        Bool.not_eq_true, isOpen_eq_false] at acted
      obtain ⟨hfree, rfl, -⟩ := acted
      exact beside_openFile hfree _ hf hg
  | become fd state =>
      simp only [Kernel.act, Option.ite_none_right_eq_some, Option.some.injEq,
        Prod.mk.injEq] at acted
      obtain ⟨-, rfl, -⟩ := acted
      exact beside_become fd state
  | ration portions =>
      simp only [Kernel.act, Option.some.injEq, Prod.mk.injEq] at acted
      obtain ⟨rfl, -⟩ := acted
      exact ⟨rfl, fun _ _ _ => Iff.rfl, fun _ _ => rfl⟩
  | duplicate source target =>
      simp only [Kernel.act, Option.ite_none_right_eq_some, Option.some.injEq, Prod.mk.injEq,
        Bool.and_eq_true, Bool.not_eq_true', isOpen_eq_false] at acted
      obtain ⟨⟨-, hfree⟩, rfl, -⟩ := acted
      exact h.beside_duplicate hk (List.ne_of_not_mem_cons ha).symm
        (List.ne_of_not_mem_cons hb).symm hfree
  | close fd =>
      simp only [Kernel.act, Option.ite_none_right_eq_some, Option.some.injEq,
        Prod.mk.injEq] at acted
      obtain ⟨-, rfl, -⟩ := acted
      exact h.beside_close hk (List.ne_of_not_mem_cons ha).symm (List.ne_of_not_mem_cons hb).symm
  | write fd data =>
      simp only [Kernel.act, Option.ite_none_left_eq_some] at acted
      obtain ⟨-, acted⟩ := acted
      split at acted
      · next hsent =>
          cases acted
          exact h.beside_send hk (List.ne_of_not_mem_cons ha).symm
            (List.ne_of_not_mem_cons hb).symm hsent
      · cases acted
        exact .refl f g k
  | read fd most =>
      simp only [Kernel.act, Option.ite_none_left_eq_some, Option.some.injEq,
        Prod.mk.injEq] at acted
      obtain ⟨-, rfl, -⟩ := acted
      exact h.beside_receiveAll hk (List.ne_of_not_mem_cons ha).symm
        (List.ne_of_not_mem_cons hb).symm most
  | shut fd =>
      simp only [Kernel.act, Option.ite_none_right_eq_some, Option.some.injEq,
        Prod.mk.injEq] at acted
      obtain ⟨-, rfl, -⟩ := acted
      exact h.beside_shut hk (List.ne_of_not_mem_cons ha).symm (List.ne_of_not_mem_cons hb).symm
        true false

/-! ### A fresh line -/

/-- Every open number stands for a file that was opened. -/
def Numbered (k : Kernel) : Prop := ∀ fd f, k.fileOf? fd = some f → f < k.nextFile

lemma numbered_boot (limit : Option Nat) : (boot limit).Numbered := fun fd f h => by
  simp [boot, Kernel.fileOf?] at h

lemma Numbered.congr (h : k.Numbered) (hnumbers : k'.descriptors = k.descriptors)
    (hnext : k'.nextFile = k.nextFile) : k'.Numbered := fun fd f hf => by
  rw [hnext]
  exact h fd f (by rwa [Kernel.fileOf?, hnumbers] at hf)

lemma SameFiles.numbered (h : SameFiles k k') (hk : k.Numbered) : k'.Numbered :=
  hk.congr h.descriptors h.nextFile

lemma Stirred.numbered (h : Stirred k k') (hk : k.Numbered) : k'.Numbered :=
  hk.congr h.descriptors h.nextFile

lemma Numbered.close (h : k.Numbered) (fd : Fd) : (k.close fd).Numbered := by
  rw [Kernel.close]
  split
  · exact h
  · have hleft : Numbered { k with descriptors := k.descriptors.erase fd } := fun x f hf => by
      simp only [Kernel.fileOf?, Std.ExtTreeMap.getElem?_erase] at hf
      split at hf
      · cases hf
      · exact h x f hf
    dsimp only
    split
    · exact hleft
    · rw [release_eq]
      split
      · exact hleft.congr rfl rfl
      · exact (stirred_orphan _ _ _).numbered (hleft.congr rfl rfl)

lemma Numbered.act (h : k.Numbered) {action : Action} {answer : Answer}
    (acted : k.act action = some (k', answer)) : k'.Numbered := by
  cases acted_of_act acted with
  | moved hs => exact hs.numbered h
  | paired ha hb =>
      intro fd f hf
      simp only [Kernel.openPair, Kernel.fileOf?, Std.ExtTreeMap.getElem?_insert] at hf ⊢
      have hold := h fd f
      grind [Kernel.fileOf?]
  | opened hfree _ =>
      intro fd f hf
      simp only [Kernel.openFile, Kernel.fileOf?, Std.ExtTreeMap.getElem?_insert] at hf ⊢
      have hold := h fd f
      grind [Kernel.fileOf?]
  | @duplicated source target hfree =>
      rw [Kernel.duplicate]
      split
      · exact h
      · next x hx =>
          intro fd f hf
          simp only [Kernel.fileOf?, Std.ExtTreeMap.getElem?_insert] at hf
          have hold := h fd f
          have hsource := h source x hx
          grind [Kernel.fileOf?]
  | closed fd => exact h.close fd

end EventLoop.Kernel
