import EventLoop.Proofs.Batches
import EventLoop.Proofs.Renaming

/-!
Operations on different descriptors do not get in each other's way, whatever the descriptors stand
for.

* `Reactor.Operation` is an operation on registrations and `Reactor.perform` carries it out;
  `Reactor.draws` says whether it draws a token.
* `Reactor.Untouched` says that nothing about a number was changed; `perform_untouched` says so of
  every number but the one that an operation is about.
* `Reactor.exchange` is the renaming of the tokens that two operations draw when they change places,
  and `Reactor.Renamed` says that two reactors are the same but for a renaming.
* `perform_perform` is the statement about one reactor, and `operations_are_independent` the main
  statement here.
-/

namespace EventLoop

namespace Reactor

variable {ι : Type} {r r' : Reactor ι}

/-! ### Operations -/

/-- An operation on the registration of a descriptor. -/
inductive Operation where
  | add (fd : Fd) (i : Interest) (callback : CallbackId)
  | remove (fd : Fd) (i : Interest)
  | requestWrite (fd : Fd)

/-- The number that an operation is about. -/
def Operation.fd : Operation → Fd
  | add fd _ _ | remove fd _ | requestWrite fd => fd

/-- Carries out an operation. -/
def perform (r : Reactor ι) : Operation → Reactor ι × Bool × List (Note ι)
  | .add fd i callback => r.add fd i callback
  | .remove fd i => r.remove fd i
  | .requestWrite fd => r.requestWrite fd

/-- Whether an operation draws a token: an addition for a number without a registration does, even
if the kernel refuses to watch the number. -/
def draws (r : Reactor ι) : Operation → Bool
  | .add fd i _ => !i.isEmpty && (r.registry.get? fd).isNone
  | .remove _ _ | .requestWrite _ => false

lemma add_nextToken (r : Reactor ι) (fd : Fd) (i : Interest) (callback : CallbackId) :
    (r.add fd i callback).1.registry.nextToken =
      if i.isEmpty then r.registry.nextToken else (r.registry.currentOrFresh fd).1.nextToken := by
  rw [add]
  split
  · rfl
  · dsimp only
    split
    · rfl
    · split <;> rfl

lemma perform_nextToken (r : Reactor ι) (o : Operation) :
    (r.perform o).1.registry.nextToken = r.registry.nextToken + (r.draws o).toNat := by
  cases o with
  | add fd i callback =>
      rw [perform, add_nextToken, draws]
      cases i.isEmpty with
      | true => rfl
      | false =>
          cases hc : r.registry.get? fd with
          | none => simp [Registry.currentOrFresh_of_none hc]
          | some current => simp [Registry.currentOrFresh_of_some hc]
  | remove fd i => exact (r.removed fd i).nextToken
  | requestWrite fd => exact (r.requested fd).nextToken

lemma perform_sound (hr : r.registry.Sound) (o : Operation) :
    (r.perform o).1.registry.Sound := by
  cases o with
  | add fd i callback => exact ((r.added fd i callback).follows hr).sound
  | remove fd i => exact ((r.removed fd i).follows hr).sound
  | requestWrite fd => exact ((r.requested fd).follows hr).sound

lemma perform_sameWork (r : Reactor ι) (o : Operation) : SameWork r (r.perform o).1 := by
  cases o with
  | add fd i callback => exact (r.added fd i callback).sameWork
  | remove fd i => exact (r.removed fd i).sameWork
  | requestWrite fd => exact (r.requested fd).sameWork

lemma perform_tells (r : Reactor ι) (o : Operation) : Told r.kernel (r.perform o).1.kernel := by
  cases o with
  | add fd i callback => exact (r.added fd i callback).tells
  | remove fd i => exact (r.removed fd i).tells
  | requestWrite fd => exact (r.requested fd).tells

/-! ### What an operation leaves alone -/

/-- Nothing about a number was changed: neither its registration, nor which tokens lead to it, nor
what is watched under it, nor any file. -/
structure Untouched (fd : Fd) (r r' : Reactor ι) : Prop where
  entry : r'.registry.get? fd = r.registry.get? fd
  routes : ∀ t : Token, r'.registry.tokens[t]? = some fd ↔ r.registry.tokens[t]? = some fd
  watches : r'.kernel.watchesOf fd = r.kernel.watchesOf fd
  files : r.kernel.SameFiles r'.kernel

lemma Untouched.refl (fd : Fd) (r : Reactor ι) : Untouched fd r r :=
  ⟨rfl, fun _ => Iff.rfl, rfl, .refl _⟩

/-- The index of a sound table leads to a number as its registration says. -/
lemma untouched_of_sound {x : Fd} (hr : r.registry.Sound) (hr' : r'.registry.Sound)
    (entry : r'.registry.get? x = r.registry.get? x)
    (watches : r'.kernel.watchesOf x = r.kernel.watchesOf x)
    (files : r.kernel.SameFiles r'.kernel) : Untouched x r r' where
  entry := entry
  routes t := by rw [hr'.tokens, hr.tokens, entry]
  watches := watches
  files := files

variable {fd x : Fd} {i : Interest} {b : Bool}

lemma Added.untouched {callback : CallbackId} (h : Added r fd i callback r' b)
    (hr : r.registry.Sound) (hx : x ≠ fd) : Untouched x r r' := by
  refine untouched_of_sound hr (h.follows hr).sound (h.get?_of_not fun hfd => hx hfd.2.symm) ?_
    h.tells.sameFiles
  cases h with
  | refused _ => rfl
  | added _ _ synced => exact (synced_of_sync synced).watchesOf_of_ne hx

lemma Removed.untouched (h : Removed r fd i r' b) (hr : r.registry.Sound) (hx : x ≠ fd) :
    Untouched x r r' := by
  have hsound := (h.follows hr).sound
  have hfiles := h.tells.sameFiles
  cases h with
  | refused => exact .refl x r
  | removed _ _ synced =>
      refine untouched_of_sound hr hsound ?_ ((synced_of_sync synced).watchesOf_of_ne hx) hfiles
      rw [dropped_get?, if_neg hx.symm]
  | gone _ _ _ _ _ =>
      refine untouched_of_sound hr hsound ?_ rfl hfiles
      rw [dropped_get?, if_neg hx.symm]

lemma Requested.untouched (h : Requested r fd r' b) (hr : r.registry.Sound) (hx : x ≠ fd) :
    Untouched x r r' := by
  have hsound := (h.follows hr).sound
  have hfiles := h.tells.sameFiles
  cases h with
  | refused => exact .refl x r
  | already _ _ _ => exact .refl x r
  | armed _ _ _ synced =>
      refine untouched_of_sound hr hsound ?_ ((synced_of_sync synced).watchesOf_of_ne hx) hfiles
      rw [Registry.get?_modify, if_neg hx.symm]

/-- **An operation leaves other numbers alone**, whether they stand for the same file or not. -/
theorem perform_untouched (hr : r.registry.Sound) {o : Operation} (hx : x ≠ o.fd) :
    Untouched x r (r.perform o).1 := by
  cases o with
  | add fd i callback => exact (r.added fd i callback).untouched hr hx
  | remove fd i => exact (r.removed fd i).untouched hr hx
  | requestWrite fd => exact (r.requested fd).untouched hr hx

lemma Untouched.draws_eq {o : Operation} (h : Untouched o.fd r r') : r'.draws o = r.draws o := by
  cases o with
  | add fd i callback =>
      have hentry : r'.registry.get? fd = r.registry.get? fd := h.entry
      rw [draws, draws, hentry]
  | remove _ _ => rfl
  | requestWrite _ => rfl

/-! ### Renamings -/

variable {σ : Equiv.Perm Token}

/-- What is there under a number has its name from before. -/
lemma renamedAt_refl (hr : r.registry.Sound) (hk : r.Known)
    (hσ : ∀ t, t < r.registry.nextToken → σ t = t) (x : Fd) : RenamedAt σ x r r where
  kernel := by
    refine ⟨.refl _, ?_⟩
    have hwatch : ∀ w ∈ r.kernel.watchesOf x, w.retoken σ = w := fun w hw =>
      Watch.retoken_eq_self (hσ _ (hk w (List.mem_filter.mp hw).1))
    rw [List.map_congr_left hwatch, List.map_id']
  entry := by
    cases hc : r.registry.get? x with
    | none => rfl
    | some current =>
        rw [Option.map_some, Registration.retoken_eq_self (hσ _ (hr.drawn x current hc))]

/-- What is the same under a number stays so while nothing about the number changes. -/
lemma RenamedAt.congr {s s' : Reactor ι} (h : RenamedAt σ x r r') (left : Untouched x r s)
    (right : Untouched x r' s') : RenamedAt σ x s s' where
  kernel := by
    refine ⟨(left.files.symm.trans h.kernel.toSameFiles).trans right.files, ?_⟩
    rw [right.watches, left.watches, h.kernel.watches]
  entry := by rw [right.entry, left.entry, h.entry]

/-- An operation does the same, and answers and notes the same, for a number that is the same. -/
lemma RenamedAt.perform {o : Operation} (h : RenamedAt σ o.fd r r')
    (drawn : r.draws o = true → r'.registry.nextToken = σ r.registry.nextToken) :
    (r'.perform o).2 = (r.perform o).2 ∧
      RenamedAt σ o.fd (r.perform o).1 (r'.perform o).1 := by
  cases o with
  | add fd i callback =>
      refine h.add i callback fun hi (hc : r.registry.get? fd = none) => drawn ?_
      simp [draws, hi, hc]
  | remove fd i => exact h.remove i
  | requestWrite fd => exact h.requestWrite

/-- The two are the same but for the names of their tokens. -/
structure Renamed (σ : Equiv.Perm Token) (r r' : Reactor ι) : Prop extends SameWork r r' where
  entries : ∀ fd, r'.registry.get? fd = (r.registry.get? fd).map (Registration.retoken σ)
  tokens : ∀ t, r'.registry.tokens[σ t]? = r.registry.tokens[t]?
  nextToken : r'.registry.nextToken = r.registry.nextToken
  files : r.kernel.SameFiles r'.kernel
  watches : (r.kernel.watches.map (Watch.retoken σ)).Perm r'.kernel.watches
  wakeup : r'.kernel.wakeup = r.kernel.wakeup

/-- What is the same under every number is the same. -/
lemma renamed_of_renamedAt (hr : r.registry.Sound) (hr' : r'.registry.Sound)
    (nextToken : r'.registry.nextToken = r.registry.nextToken) (work : SameWork r r')
    (wakeup : r'.kernel.wakeup = r.kernel.wakeup) (h : ∀ x, RenamedAt σ x r r') :
    Renamed σ r r' where
  toSameWork := work
  entries fd := (h fd).entry
  tokens t := by
    refine Option.ext fun fd => ?_
    rw [hr'.tokens, hr.tokens, (h fd).entry]
    simp [σ.injective.eq_iff]
  nextToken := nextToken
  files := (h 0).kernel.toSameFiles
  watches := Kernel.perm_of_watchesOf fun fd => by
    rw [(h fd).kernel.watches, List.filter_map]
    rfl
  wakeup := wakeup

/-! ### Two operations -/

/-- The renaming of the tokens that two operations draw when they change places. -/
def exchange (r : Reactor ι) (a b : Operation) : Equiv.Perm Token :=
  if r.draws a && r.draws b then .swap r.registry.nextToken (r.registry.nextToken + 1) else .refl _

variable {a b : Operation}

/-- Only the tokens that the operations draw are renamed. -/
lemma exchange_eq_self {t : Token} (ht : t < r.registry.nextToken ∨
    r.registry.nextToken + (r.draws a).toNat + (r.draws b).toNat ≤ t) :
    r.exchange a b t = t := by
  rw [exchange]
  split
  · next hboth =>
      rw [Bool.and_eq_true] at hboth
      rw [hboth.1, hboth.2, Bool.toNat_true] at ht
      rcases ht with ht | ht
      · exact Equiv.swap_apply_of_ne_of_ne (Nat.ne_of_lt ht) (Nat.ne_of_lt (Nat.lt_succ_of_lt ht))
      · exact Equiv.swap_apply_of_ne_of_ne (Nat.ne_of_gt (Nat.lt_of_succ_lt ht)) (Nat.ne_of_gt ht)
  · rfl

/-- What the first operation draws is drawn after the other one's in the other order. -/
lemma exchange_first (ha : r.draws a = true) :
    r.exchange a b r.registry.nextToken = r.registry.nextToken + (r.draws b).toNat := by
  rw [exchange, ha]
  cases r.draws b with
  | false => rfl
  | true => exact Equiv.swap_apply_left _ _

/-- What the second operation draws is drawn at once in the other order. -/
lemma exchange_second (hb : r.draws b = true) :
    r.exchange a b (r.registry.nextToken + (r.draws a).toNat) = r.registry.nextToken := by
  rw [exchange, hb]
  cases r.draws a with
  | false => rfl
  | true => exact Equiv.swap_apply_right _ _

/-- **Two operations on different numbers can change places**: they answer and note the same, and
all is the same in the end but for the tokens that they draw. -/
theorem perform_perform (hr : r.registry.Sound) (hk : r.Known) (apart : a.fd ≠ b.fd) :
    ((r.perform a).1.perform b).2 = (r.perform b).2 ∧
      ((r.perform b).1.perform a).2 = (r.perform a).2 ∧
      Renamed (r.exchange a b) ((r.perform a).1.perform b).1 ((r.perform b).1.perform a).1 := by
  have hfirst := perform_sound hr a
  have hfirst' := perform_sound hr b
  have hold : ∀ x, RenamedAt (r.exchange a b) x r r :=
    renamedAt_refl hr hk fun t ht => exchange_eq_self (.inl ht)
  have huntouched : Untouched a.fd r (r.perform b).1 := perform_untouched hr apart
  have huntouched' : Untouched b.fd r (r.perform a).1 := perform_untouched hr apart.symm
  -- at the number of an operation, the other one can be left out
  obtain ⟨hanswer, hat⟩ := ((hold a.fd).congr (.refl _ _) huntouched).perform fun ha => by
    rw [exchange_first ha, perform_nextToken]
  obtain ⟨hanswer', hat'⟩ := ((hold b.fd).congr huntouched' (.refl _ _)).perform fun hb => by
    rw [perform_nextToken, exchange_second (huntouched'.draws_eq ▸ hb)]
  refine ⟨hanswer'.symm, hanswer, renamed_of_renamedAt (perform_sound hfirst b)
    (perform_sound hfirst' a) ?_ ?_ ?_ fun x => ?_⟩
  · rw [perform_nextToken, perform_nextToken, perform_nextToken, perform_nextToken,
      huntouched.draws_eq, huntouched'.draws_eq, Nat.add_right_comm]
  · exact ((perform_sameWork r a).trans (perform_sameWork _ b)).symm.trans
      ((perform_sameWork r b).trans (perform_sameWork _ a))
  · rw [(perform_tells _ a).wakeup, (perform_tells _ b).wakeup, (perform_tells _ b).wakeup,
      (perform_tells _ a).wakeup]
  · by_cases ha : x = a.fd
    · subst ha
      exact hat.congr (perform_untouched hfirst apart) (.refl _ _)
    by_cases hb : x = b.fd
    · subst hb
      exact hat'.congr (.refl _ _) (perform_untouched hfirst' apart.symm)
    · exact ((hold x).congr (perform_untouched hr ha) (perform_untouched hr hb)).congr
        (perform_untouched hfirst hb) (perform_untouched hfirst' ha)

end Reactor

namespace Loop

variable {ι : Type}

/-- **Operations on different numbers are independent.** At any time of any run, whatever was
closed, opened anew or duplicated by then, let there be two operations, each an addition, a removal
or a request to write, on different numbers. In either order each of them answers and notes the
same, and the reactor is the same in the end but for the names of the tokens that they draw. And an
operation leaves the registration, the tokens and the watched entries of every other number as they
are, whether it comes first or second. -/
theorem operations_are_independent (limit : Option Nat) (capacity : Nat) (ms : List (Move ι))
    {r : Reactor ι} (reached : ((start (.boot limit) capacity).after ms).reactor = r)
    (a b : Reactor.Operation) (apart : a.fd ≠ b.fd) :
    ((r.perform a).1.perform b).2 = (r.perform b).2 ∧
      ((r.perform b).1.perform a).2 = (r.perform a).2 ∧
      (∃ σ : Equiv.Perm Token,
        (∀ t, σ t ≠ t → r.registry.nextToken ≤ t ∧
          t < ((r.perform a).1.perform b).1.registry.nextToken) ∧
        Reactor.Renamed σ ((r.perform a).1.perform b).1 ((r.perform b).1.perform a).1) ∧
      (∀ x, x ≠ a.fd → Reactor.Untouched x r (r.perform a).1 ∧
        Reactor.Untouched x (r.perform b).1 ((r.perform b).1.perform a).1) ∧
      (∀ x, x ≠ b.fd → Reactor.Untouched x r (r.perform b).1 ∧
        Reactor.Untouched x (r.perform a).1 ((r.perform a).1.perform b).1) := by
  have hsound : r.registry.Sound := reached ▸ sound_after (.boot limit) capacity ms
  have hknown : r.Known := reached ▸ known_after limit capacity ms
  obtain ⟨hanswer, hanswer', hrenamed⟩ := Reactor.perform_perform hsound hknown apart
  refine ⟨hanswer, hanswer', ⟨r.exchange a b, fun t ht => ?_, hrenamed⟩, fun x hx => ?_,
    fun x hx => ?_⟩
  · have hdraws := (Reactor.perform_untouched hsound apart.symm : r.Untouched b.fd _).draws_eq
    rw [Reactor.perform_nextToken, Reactor.perform_nextToken, hdraws]
    by_contra hout
    refine ht (Reactor.exchange_eq_self ((Nat.lt_or_ge _ _).imp_right fun hle => ?_))
    exact Nat.le_of_not_lt fun hlt => hout ⟨hle, hlt⟩
  · exact ⟨Reactor.perform_untouched hsound hx,
      Reactor.perform_untouched (Reactor.perform_sound hsound b) hx⟩
  · exact ⟨Reactor.perform_untouched hsound hx,
      Reactor.perform_untouched (Reactor.perform_sound hsound a) hx⟩

/-! ### Two numbers for one file

A number with a registration was closed while its file stayed open under two other numbers, and was
opened anew for another file. Callbacks are added for the two numbers.
-/

namespace Duplicates

def begin : List (Move Unit) :=
  [.file (.pair 100 101), .add 100 .readOnly, .file (.duplicate 100 102),
    .file (.duplicate 100 104), .file (.close 100), .file (.pair 100 103)]

def reactor : Reactor Unit := ((start (.boot none) 64).after begin).reactor

def reads : Reactor.Operation := .add 102 .readOnly 1

def writes : Reactor.Operation := .add 104 .writeOnly 2

/-- The two additions in the one order and in the other. -/
def readsFirst : Reactor Unit := ((reactor.perform reads).1.perform writes).1

def writesFirst : Reactor Unit := ((reactor.perform writes).1.perform reads).1

end Duplicates

/-- Both callbacks are added in either order under the tokens 1 and 2, and the entry that was left
behind under the number that was closed stays. -/
theorem operations_are_independent_duplicates :
    Duplicates.reactor.kernel.fileOf? 102 = Duplicates.reactor.kernel.fileOf? 104 ∧
      Duplicates.reads.fd ≠ Duplicates.writes.fd ∧
      ((Duplicates.reactor.perform Duplicates.reads).1.perform Duplicates.writes).2 =
        (true, [.registered 104 .writeOnly 2]) ∧
      (Duplicates.reactor.perform Duplicates.writes).2 = (true, [.registered 104 .writeOnly 2]) ∧
      Duplicates.readsFirst.registry.get? 102 = some ⟨1, some 1, none, false⟩ ∧
      Duplicates.writesFirst.registry.get? 102 = some ⟨2, some 1, none, false⟩ ∧
      (∃ σ : Equiv.Perm Token, (∀ t, σ t ≠ t → 1 ≤ t ∧ t < 3) ∧
        Reactor.Renamed σ Duplicates.readsFirst Duplicates.writesFirst) ∧
      Duplicates.reactor.Untouched 100 (Duplicates.reactor.perform Duplicates.reads).1 ∧
      Duplicates.readsFirst.kernel.watchesOf 100 = [⟨0, 100, .readOnly, 0⟩] := by
  have happart : Duplicates.reads.fd ≠ Duplicates.writes.fd := by decide
  have hadded : (Duplicates.reactor.perform Duplicates.writes).2 =
      (true, [.registered 104 .writeOnly 2]) := rfl
  obtain ⟨hanswer, -, hrenamed, huntouched, -⟩ := operations_are_independent none 64
    Duplicates.begin (r := Duplicates.reactor) rfl Duplicates.reads Duplicates.writes happart
  exact ⟨rfl, happart, hanswer.trans hadded, hadded, rfl, rfl, hrenamed,
    (huntouched 100 (by decide)).1, rfl⟩

end Loop

end EventLoop
