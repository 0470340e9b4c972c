import EventLoop.Proofs.Attention
import EventLoop.Proofs.Echo.Moves
import EventLoop.Proofs.History
import EventLoop.Proofs.Removal

/-!
The callbacks that the reactor has for the connections of the echo server.

* `Loop.Steady` says that a reactor has the same callbacks as before; what the driver does, what is
  done with files and the arming of write callbacks are instances.
* `handlerOf_remove_both` says what a complete removal leaves.
* `Server.Wired` says for which connections, and in which directions, the reactor has the callback
  that the server made for it, and that it has no other callback of the server; `Wired.register`,
  `Wired.unwire` and `Wired.listen` say what registering and removing do to it.
-/

namespace EventLoop

open Reactor (Direction)

namespace Loop

variable {ι : Type}

/-- The reactor has the same callbacks as before, and still agrees with the kernel, which misses no
entry that is ready. -/
structure Steady (l l' : Loop ι) : Prop where
  handlerOf : ∀ fd d, l'.reactor.handlerOf fd d = l.reactor.handlerOf fd d
  nextCallback : l'.nextCallback = l.nextCallback
  agreed : l'.reactor.Agreed
  attentive : l'.reactor.kernel.Attentive

lemma Stride.steady {s : Stride ι} (hs : s.Spares) (hadd : ∀ fd i, s.move ≠ .add fd i)
    (hremove : ∀ fd i, s.move ≠ .remove fd i) (hhands : s.move.hands = false)
    (hagreed : s.before.reactor.Agreed) (hattentive : s.before.reactor.kernel.Attentive) :
    Steady s.before s.after where
  handlerOf := s.change.handlerOf_other hagreed.sound hadd hremove
  nextCallback := by rw [s.nextCallback, hhands, Bool.toNat_false, Nat.add_zero]
  agreed := s.agreed hs hagreed
  attentive := s.change.attentive hattentive

variable {l : Loop ι} (hagreed : l.reactor.Agreed) (hattentive : l.reactor.kernel.Attentive)
include hagreed hattentive

lemma steady_refl : Steady l l := ⟨fun _ _ => rfl, rfl, hagreed, hattentive⟩

/-- A move that is no danger to the registrations and hands no callback over. -/
lemma steady_of_step {m : Move ι} {reply : Reply ι} {notes : List (Reactor.Note ι)} {l' : Loop ι}
    (hm : l.step m = some (l', reply, notes)) (hharmless : m.endangers = false)
    (hadd : ∀ fd i, m ≠ .add fd i) (hremove : ∀ fd i, m ≠ .remove fd i)
    (hhands : m.hands = false) : Steady l l' :=
  Stride.steady (s := ⟨l, m, (reply, notes), l', hm⟩) (Stride.spares_of_harmless hharmless) hadd
    hremove hhands hagreed hattentive

lemma steady_requestWrite (fd : Fd) :
    Steady l { l with reactor := (l.reactor.requestWrite fd).1 } :=
  steady_of_step hagreed hattentive (m := .requestWrite fd) rfl rfl nofun nofun rfl

lemma steady_advance : Steady l (l.advance.elim l (·.1)) := by
  cases h : l.advance with
  | none => exact steady_refl hagreed hattentive
  | some p =>
      exact steady_of_step hagreed hattentive (m := .advance) (by rw [step, h]; rfl) rfl nofun nofun
        rfl

lemma steady_finish : Steady l (l.finish.elim l (·.1)) := by
  cases h : l.finish with
  | none => exact steady_refl hagreed hattentive
  | some p =>
      exact steady_of_step hagreed hattentive (m := .finish) (by rw [step, h]; rfl) rfl nofun nofun
        rfl

/-- The use of files, as long as no number with a registration is closed. -/
lemma steady_file {action : Kernel.Action} {k : Kernel} {answer : Kernel.Answer}
    (acted : l.reactor.kernel.act action = some (k, answer))
    (hclose : ∀ fd, action = .close fd → l.reactor.registry.get? fd = none) :
    Steady l { l with reactor := { l.reactor with kernel := k } } := by
  have hm : l.step (.file action) =
      some ({ l with reactor := { l.reactor with kernel := k } }, .file answer, []) := by
    rw [step, acted]
    rfl
  refine Stride.steady (s := ⟨l, .file action, _, _, hm⟩) ⟨?_, fun fd h => ?_⟩ (by simp)
    (by simp) rfl hagreed hattentive
  · simp
  · cases h
    exact hclose fd rfl

/-- Moving bytes and shutting directions. -/
lemma steady_of_stirred {k : Kernel} (h : l.reactor.kernel.Stirred k) :
    Steady l { l with reactor := { l.reactor with kernel := k } } where
  handlerOf _ _ := rfl
  nextCallback := rfl
  agreed := hagreed.of_same hagreed.sound (h.anchored hagreed.anchored) h.watchingBroken
    (fun _ => rfl) h.watches
  attentive := h.attentive hattentive

end Loop

/-! ### Complete removals -/

namespace Reactor

variable {ι : Type}

lemma covers_both (d : Direction) : Interest.both.covers d = true := by cases d <;> rfl

/-- What is watched for a registration is a file that is still open and can be watched. -/
lemma Agreed.watchable {r : Reactor ι} (h : r.Agreed) {fd : Fd}
    {current : Registration CallbackId} (entry : r.registry.get? fd = some current) :
    current.active.isEmpty = true ∨ ¬r.kernel.Unwatchable fd := by
  cases hactive : current.active.isEmpty with
  | true => exact .inl rfl
  | false =>
      refine .inr fun ⟨f, hf, hrefused⟩ => ?_
      obtain ⟨g, hg, hwatch, -⟩ := (h.watches fd current entry).entry hactive
      obtain rfl : f = g := by simpa [hf] using hg
      have hmem : ⟨f, fd, current.active, current.token⟩ ∈ r.kernel.watches :=
        List.mem_of_mem_filter (hwatch ▸ List.mem_singleton.mpr rfl)
      have hwatchable := h.anchored.canWatch _ hmem
      rcases hrefused with hnone | hbroken
      · simp [hnone] at hwatchable
      · simp [h.unbroken] at hbroken

/-- A complete removal takes all callbacks of a descriptor, and leaves the others. -/
lemma handlerOf_remove_both {r : Reactor ι} (h : r.Agreed) (fd x : Fd) (d : Direction) :
    (r.remove fd .both).1.handlerOf x d = if fd = x then none else r.handlerOf x d := by
  have hremoved := (r.removed fd .both).handlerOf x d
  simp only [covers_both, and_true] at hremoved
  rw [hremoved]
  by_cases hx : fd = x
  · subst hx
    cases hc : r.registry.get? fd with
    | none => simp [handlerOf, hc]
    | some current =>
        have hdone : (r.remove fd .both).2.1 = true :=
          (remove_of_covers h.sound hc fun d _ => covers_both d).mpr (h.watchable hc)
        simp [hdone]
  · simp [hx]

end Reactor

namespace Echo

/-- What the callback of a connection for a direction is for. -/
def Handler.toward : Direction → Fd → Handler
  | .reading, fd => .reader fd
  | .writing, fd => .writer fd

lemma Handler.toward_fd (d : Direction) (fd : Fd) : (Handler.toward d fd).fd = fd := by
  cases d <;> rfl

namespace Server

/-- The reactor has the callbacks that the server made for some connections and directions, and no
other callback of the server. -/
structure Wired (l : Loop Empty) (handlers : Std.ExtTreeMap CallbackId Handler)
    (W : Fd → Direction → Prop) : Prop where
  agreed : l.reactor.Agreed
  attentive : l.reactor.kernel.Attentive
  issued : ∀ id : CallbackId, handlers[id]? ≠ none → id < l.nextCallback
  drawn : ∀ fd d id, l.reactor.handlerOf fd d = some id → id < l.nextCallback
  wired : ∀ fd d, W fd d → ∃ id, l.reactor.handlerOf fd d = some id ∧
    handlers[id]? = some (.toward d fd)
  others : ∀ fd d id, ¬W fd d → l.reactor.handlerOf fd d = some id → handlers[id]? = none

variable {l l' : Loop Empty} {handlers : Std.ExtTreeMap CallbackId Handler}
  {W : Fd → Direction → Prop}

lemma Wired.steady (h : Wired l handlers W) (hl : l.Steady l') : Wired l' handlers W where
  agreed := hl.agreed
  attentive := hl.attentive
  issued := by
    rw [hl.nextCallback]
    exact h.issued
  drawn fd d id := by
    rw [hl.handlerOf, hl.nextCallback]
    exact h.drawn fd d id
  wired fd d := by
    rw [hl.handlerOf]
    exact h.wired fd d
  others fd d id := by
    rw [hl.handlerOf]
    exact h.others fd d id

lemma Wired.congr (h : Wired l handlers W) {W' : Fd → Direction → Prop}
    (hW : ∀ fd d, W' fd d ↔ W fd d) : Wired l handlers W' := by
  obtain rfl : W' = W := funext₂ fun fd d => propext (hW fd d)
  exact h

/-- What adding a callback leaves in order, whether it is registered or turned down. -/
lemma agreed_add (h : Wired l handlers W) (fd : Fd) (i : Interest) :
    (l.add fd i).1.reactor.Agreed ∧ (l.add fd i).1.reactor.kernel.Attentive :=
  have hadded := l.reactor.added fd i l.nextCallback
  ⟨hadded.agreed h.agreed, hadded.tells.attentive h.attentive⟩

/-- The callbacks after one was added. -/
lemma handlerOf_add (l : Loop Empty) (fd x : Fd) (i : Interest) (d : Direction) :
    (l.add fd i).1.reactor.handlerOf x d =
      if (l.add fd i).2.1 = true ∧ fd = x ∧ i.covers d then some l.nextCallback
      else l.reactor.handlerOf x d :=
  (l.reactor.added fd i l.nextCallback).handlerOf x d

/-- Registering a callback for one direction of a connection. -/
lemma Wired.register (h : Wired l handlers W) (fd : Fd) {i : Interest} {d₀ : Direction}
    (hcovers : ∀ d, i.covers d = true ↔ d = d₀) (hfree : ¬W fd d₀) :
    Wired (l.add fd i).1 (handlers.insert l.nextCallback (.toward d₀ fd))
      fun x d => W x d ∨ (l.add fd i).2.1 = true ∧ fd = x ∧ d = d₀ := by
  obtain ⟨hagreed, hattentive⟩ := agreed_add h fd i
  have hnext : (l.add fd i).1.nextCallback = l.nextCallback + 1 := rfl
  -- a callback that was drawn before is not the new one
  have hold : ∀ {id : CallbackId}, id < l.nextCallback →
      (handlers.insert l.nextCallback (.toward d₀ fd))[id]? = handlers[id]? := by
    intro id hid
    rw [Std.ExtTreeMap.getElem?_insert, if_neg (by simpa using Nat.ne_of_gt hid)]
  refine ⟨hagreed, hattentive, fun id hid => ?_, fun x d id hx => ?_, fun x d hx => ?_,
    fun x d id hx hhandler => ?_⟩
  · rw [hnext]
    by_cases hlt : id < l.nextCallback
    · exact Nat.lt_succ_of_lt hlt
    · rw [Std.ExtTreeMap.getElem?_insert] at hid
      split at hid
      · next heq =>
          obtain rfl : l.nextCallback = id := by simpa using heq
          exact Nat.lt_succ_self _
      · exact absurd (h.issued id hid) hlt
  · rw [handlerOf_add] at hx
    rw [hnext]
    split at hx
    · cases hx
      exact Nat.lt_succ_self _
    · exact Nat.lt_succ_of_lt (h.drawn x d id hx)
  · rw [handlerOf_add]
    simp only [hcovers]
    by_cases hnew : (l.add fd i).2.1 = true ∧ fd = x ∧ d = d₀
    · obtain ⟨-, rfl, rfl⟩ := id hnew
      exact ⟨_, if_pos hnew, by simp⟩
    · obtain ⟨id, hid, hhandler⟩ := h.wired x d (hx.resolve_right hnew)
      exact ⟨id, by rw [if_neg hnew, hid], by rw [hold (h.drawn x d id hid), hhandler]⟩
  · rw [not_or] at hx
    rw [handlerOf_add] at hhandler
    simp only [hcovers, if_neg hx.2] at hhandler
    rw [hold (h.drawn x d id hhandler)]
    exact h.others x d id hx.1 hhandler

/-- Removing all callbacks of a connection. -/
lemma Wired.unwire (h : Wired l handlers W) (fd : Fd) :
    Wired (l.remove fd .both).1 handlers fun x d => W x d ∧ fd ≠ x := by
  have hremoved := l.reactor.removed fd .both
  have hhandlerOf : ∀ x d, (l.remove fd .both).1.reactor.handlerOf x d =
      if fd = x then none else l.reactor.handlerOf x d :=
    Reactor.handlerOf_remove_both h.agreed fd
  refine ⟨hremoved.agreed h.agreed, hremoved.tells.attentive h.attentive, h.issued,
    fun x d id hx => ?_, fun x d hx => ?_, fun x d id hx hhandler => ?_⟩
  · rw [hhandlerOf] at hx
    split at hx
    · cases hx
    · exact h.drawn x d id hx
  · rw [hhandlerOf, if_neg hx.2]
    exact h.wired x d hx.1
  · rw [hhandlerOf] at hhandler
    split at hhandler
    · cases hhandler
    · next hne => exact h.others x d id (fun hW => hx ⟨hW, hne⟩) hhandler

/-- Registering a callback that is not the server's. -/
lemma Wired.listen (h : Wired l handlers W) (fd : Fd) {i : Interest}
    (hfree : ∀ d, W fd d → (l.add fd i).2.1 = true → i.covers d = false) :
    Wired (l.add fd i).1 handlers W := by
  obtain ⟨hagreed, hattentive⟩ := agreed_add h fd i
  have hnext : (l.add fd i).1.nextCallback = l.nextCallback + 1 := rfl
  refine ⟨hagreed, hattentive, fun id hid => ?_, fun x d id hx => ?_, fun x d hx => ?_,
    fun x d id hx hhandler => ?_⟩
  · exact hnext ▸ Nat.lt_succ_of_lt (h.issued id hid)
  · rw [handlerOf_add] at hx
    rw [hnext]
    split at hx
    · cases hx
      exact Nat.lt_succ_self _
    · exact Nat.lt_succ_of_lt (h.drawn x d id hx)
  · rw [handlerOf_add, if_neg]
    · exact h.wired x d hx
    · rintro ⟨hadded, rfl, hcovers⟩
      rw [hfree d hx hadded] at hcovers
      cases hcovers
  · rw [handlerOf_add] at hhandler
    split at hhandler
    · cases hhandler
      by_contra hissued
      exact Nat.lt_irrefl _ (h.issued _ hissued)
    · exact h.others x d id hx hhandler

end Server

end Echo

end EventLoop
