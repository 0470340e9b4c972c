import EventLoop.Proofs.Kernel.Files
import EventLoop.Proofs.Moves
import EventLoop.Proofs.Sync

/-!
Wakeups on their way: they are accepted, wait in the queue of the reactor, are taken by the driver
when it was woken, and are worked off one after the other, unless a stop drops them.

* `accepted`, `called` and `dropped` are the callbacks of a history that were accepted as wakeups,
  started as such, and dropped by a stop.
* `Loop.queued` and `Loop.atHand` are those that wait and those that the driver has taken.
* `Passage` lists what a move can do to the wakeups and to the counter that wakes the driver;
  `Stride.passage` is the main statement here: there is nothing else.
-/

namespace EventLoop

namespace Reactor

variable {ι : Type}

/-! ### The counter that wakes the driver -/

/-- A counter refuses a wake only if it is not writable. -/
lemma not_writable_of_wake {c : Counter} {e : OsError} (h : c.wake = .error e) :
    c.writable = false := by
  by_contra hw
  rw [Bool.not_eq_false] at hw
  by_cases hf : c.value < Counter.full
  · simp [Counter.wake, Counter.increment, hw, hf] at h
  · simp [Counter.wake, Counter.increment, hw, hf] at h

/-- After a wake, the counter is raised, unless it cannot be. -/
lemma raised_of_wake (r : Reactor ι) (h : r.wake.1.kernel.wakeup.writable = true) :
    r.wake.1.kernel.wakeup.isRaised = true := by
  rw [wake] at h ⊢
  split
  · next k hk =>
      obtain ⟨c, hc, rfl⟩ := Kernel.wake_eq_ok hk
      exact Counter.isRaised_of_wake hc
  · next e he =>
      rw [he] at h
      have hwritable : r.kernel.wakeup.writable = false := by
        rw [Kernel.wake] at he
        cases hc : r.kernel.wakeup.wake with
        | error e' => exact not_writable_of_wake hc
        | ok c => simp [hc, bind, Except.bind, pure, Except.pure] at he
      rw [hwritable] at h
      cases h

/-- A wakeup is refused by a stopped reactor and accepted by another one. -/
lemma wakeUp_some (r : Reactor ι) (w : Wakeup) :
    r.stopped = true ∧ r.wakeUp (some w) = (r, [.refused w]) ∨
      r.stopped = false ∧ r.wakeUp (some w) =
        ({ r with wakeups := r.wakeups ++ [w] }.wake.1,
          .accepted w :: { r with wakeups := r.wakeups ++ [w] }.wake.2) := by
  rw [wakeUp]
  split
  · next h => exact .inl ⟨h, rfl⟩
  · next h => exact .inr ⟨by simpa using h, rfl⟩

end Reactor

namespace Loop

open Reactor (Note Role)

variable {ι : Type}

/-! ### What is noted about wakeups -/

/-- The wakeup that is accepted. -/
def accepted? : Note ι → Option Wakeup
  | .accepted w => some w
  | _ => none

/-- The callback that is started as a wakeup. -/
def called? : Note ι → Option CallbackId
  | .started callback .wakeup => some callback
  | _ => none

/-- The callback that is released. -/
def released? : Note ι → Option CallbackId
  | .released callback => some callback
  | _ => none

/-- The callbacks that were accepted as wakeups, in their order. -/
def accepted (history : List (Stride ι)) : List CallbackId :=
  (noted accepted? history).filterMap Wakeup.callback?

/-- The callbacks that were started as wakeups, in their order. -/
def called (history : List (Stride ι)) : List CallbackId := noted called? history

/-- Whether a move is a stop, or the driver's own, which may find that the reactor was stopped. -/
def Move.drops : Move ι → Bool
  | .stop | .advance => true
  | _ => false

/-- The callbacks that a move drops because the reactor is stopped. -/
def Stride.dropped (s : Stride ι) : List CallbackId :=
  if s.after.reactor.stopped && s.move.drops then s.notes.filterMap released? else []

/-- The callbacks that were dropped because the reactor was stopped. -/
def dropped (history : List (Stride ι)) : List CallbackId := history.flatMap Stride.dropped

/-- The callbacks that wait in the queue. -/
def queued (l : Loop ι) : List CallbackId := l.reactor.wakeups.filterMap Wakeup.callback?

@[simp] lemma Stage.unworked_head : Stage.unworked .head = [] := rfl

/-- The callbacks that the driver has taken and not come to yet. -/
def atHand (l : Loop ι) : List CallbackId := l.stage.unworked.filterMap Wakeup.callback?

/-! ### What a move does to the wakeups -/

/-- What a move does to the wakeups and to the counter, with the wakeups that it accepts, the
callbacks that it starts and the callbacks that it drops. -/
inductive Passage (l : Loop ι) (m : Move ι) (l' : Loop ι) :
    List Wakeup → List CallbackId → List CallbackId → Prop
  /-- Nothing happens to them. -/
  | rests (queue : l'.reactor.wakeups = l.reactor.wakeups)
      (hand : l'.stage.unworked = l.stage.unworked)
      (counter : l'.reactor.kernel.wakeup = l.reactor.kernel.wakeup) : Passage l m l' [] [] []
  /-- The driver is woken for nothing. -/
  | nudges (queue : l'.reactor.wakeups = l.reactor.wakeups)
      (hand : l'.stage.unworked = l.stage.unworked)
      (heard : l'.reactor.kernel.wakeup.writable = true →
        l'.reactor.kernel.wakeup.isRaised = true) : Passage l m l' [] [] []
  /-- A wakeup is accepted. -/
  | accepts {w : Wakeup} (running : l.reactor.stopped = false)
      (queue : l'.reactor.wakeups = l.reactor.wakeups ++ [w])
      (hand : l'.stage.unworked = l.stage.unworked)
      (heard : l'.reactor.kernel.wakeup.writable = true →
        l'.reactor.kernel.wakeup.isRaised = true)
      (fresh : ∀ callback, w.callback? = some callback →
        callback = l.nextCallback ∧ l'.nextCallback = l.nextCallback + 1) :
      Passage l m l' [w] [] []
  /-- The queue is dropped. -/
  | stops (stop : m = .stop) (queue : l'.reactor.wakeups = [])
      (hand : l'.stage.unworked = l.stage.unworked)
      (heard : l'.reactor.kernel.wakeup.writable = true →
        l'.reactor.kernel.wakeup.isRaised = true) : Passage l m l' [] [] l.queued
  /-- The driver, woken, takes the queue. -/
  | takes (waits : m = .advance ∧ l.stage = .head) (running : l.reactor.stopped = false)
      (queue : l'.reactor.wakeups = []) (hand : l'.stage.unworked = l.reactor.wakeups) :
      Passage l m l' [] [] []
  /-- The driver works off a wakeup. -/
  | works {w : Wakeup} (running : l.reactor.stopped = false)
      (queue : l'.reactor.wakeups = l.reactor.wakeups)
      (hand : l.stage.unworked = w :: l'.stage.unworked)
      (counter : l'.reactor.kernel.wakeup = l.reactor.kernel.wakeup) :
      Passage l m l' [] w.callback?.toList []
  /-- The driver, stopped, drops what it had taken. -/
  | discards (stopped : l.reactor.stopped = true)
      (queue : l'.reactor.wakeups = l.reactor.wakeups) (hand : l'.stage.unworked = [])
      (counter : l'.reactor.kernel.wakeup = l.reactor.kernel.wakeup) :
      Passage l m l' [] [] l.atHand
  /-- A panic takes along what the driver had taken. -/
  | loses (unwind : m = .unwind) (queue : l'.reactor.wakeups = l.reactor.wakeups)
      (hand : l'.stage.unworked = [])
      (counter : l'.reactor.kernel.wakeup = l.reactor.kernel.wakeup) : Passage l m l' [] [] []
  /-- The counter breaks. -/
  | breaks (queue : l'.reactor.wakeups = l.reactor.wakeups)
      (hand : l'.stage.unworked = l.stage.unworked)
      (broken : l'.reactor.kernel.wakeup.writable = false) : Passage l m l' [] [] []

lemma noCall_of_noStart {notes : List (Note ι)} (h : NoStart notes) :
    notes.filterMap called? = [] := by
  rw [List.filterMap_eq_nil_iff]
  intro n hn
  cases n with
  | started callback role => exact absurd hn (h callback role)
  | _ => rfl

/-- What is noted about registrations is not about wakeups. -/
lemma filterMap_of_registration {notes : List (Note ι)} (h : ∀ n ∈ notes, OfRegistration n) :
    notes.filterMap accepted? = [] ∧ notes.filterMap called? = [] ∧
      notes.filterMap released? = [] := by
  have hnone : ∀ n ∈ notes, accepted? n = none ∧ called? n = none ∧ released? n = none := by
    intro n hn
    have hof := h n hn
    cases n <;> first | exact ⟨rfl, rfl, rfl⟩ | exact hof.elim
  refine ⟨?_, ?_, ?_⟩ <;> rw [List.filterMap_eq_nil_iff]
  · exact fun n hn => (hnone n hn).1
  · exact fun n hn => (hnone n hn).2.1
  · exact fun n hn => (hnone n hn).2.2

@[simp] lemma noAccept_wake (r : Reactor ι) : r.wake.2.filterMap accepted? = [] := by
  rw [Reactor.wake]
  split <;> rfl

@[simp] lemma noRelease_wake (r : Reactor ι) : r.wake.2.filterMap released? = [] := by
  rw [Reactor.wake]
  split <;> rfl

lemma filterMap_stop (r : Reactor ι) :
    r.stop.2.filterMap accepted? = [] ∧ r.stop.2.filterMap released? = [] := by
  simp only [Reactor.stop, List.filterMap_append, noAccept_wake, noRelease_wake]
  constructor <;> split <;> split <;> rfl

@[simp] lemma noAccept_released (callbacks : List CallbackId) :
    (callbacks.map .released : List (Note ι)).filterMap accepted? = [] := by
  simp [accepted?]

@[simp] lemma noAccept_discards (wakeups : List Wakeup) :
    (discards wakeups : List (Note ι)).filterMap accepted? = [] := by
  simp [discards, accepted?]

@[simp] lemma released_discards (wakeups : List Wakeup) :
    (discards wakeups : List (Note ι)).filterMap released? =
      wakeups.filterMap Wakeup.callback? := by
  have hsome : released? ∘ Note.released (ι := ι) = some := rfl
  rw [discards, List.filterMap_map, hsome, List.filterMap_some]

lemma Passage.congr {l l' : Loop ι} {m : Move ι} {accepted accepted' : List Wakeup}
    {called called' dropped dropped' : List CallbackId}
    (h : Passage l m l' accepted called dropped) (ha : accepted' = accepted)
    (hc : called' = called) (hd : dropped' = dropped) :
    Passage l m l' accepted' called' dropped' := by
  rwa [ha, hc, hd]

/-- What the driver's own moves do to the wakeups. -/
lemma Advance.passage {l l' : Loop ι} {notes : List (Note ι)} (h : Advance l l' notes) :
    Passage l .advance l' (notes.filterMap accepted?) (notes.filterMap called?)
      (if l'.reactor.stopped then notes.filterMap released? else []) := by
  cases h with
  | stops stage _ =>
      exact Passage.congr (.rests rfl (by rw [stage]; rfl) rfl) rfl rfl (ite_self _)
  | fails stage running _ =>
      exact Passage.congr (.rests rfl (by rw [stage]; rfl) rfl) rfl rfl (ite_self _)
  | wakes stage running _ _ =>
      refine Passage.congr (.takes ⟨rfl, stage⟩ running rfl rfl) ?_ ?_ ?_
      · split <;> rfl
      · split <;> rfl
      · simp [running]
  | collects stage running poll unwoken =>
      have hcounter := Kernel.poll_wakeup poll
      rw [unwoken] at hcounter
      exact Passage.congr (.rests rfl (by rw [stage]; rfl) hcounter) rfl rfl (ite_self _)
  | woke stage => exact Passage.congr (.rests rfl (by rw [stage]; rfl) rfl) rfl rfl (ite_self _)
  | @discards w rest events stage stopped =>
      refine Passage.congr (.discards stopped rfl rfl rfl) (noAccept_discards _)
        (noCall_of_noStart (noStart_discards _)) ?_
      rw [if_pos stopped, released_discards, atHand, stage, Stage.unworked]
  | calls stage running =>
      refine Passage.congr (.works running rfl (by rw [stage]; rfl) rfl) rfl rfl (ite_self _)
  | skips stage running _ =>
      refine Passage.congr (.works running rfl (by rw [stage]; rfl) rfl) rfl rfl (ite_self _)
  | @delivers q rest events callback items stage running _ =>
      obtain ⟨hqueue, -, hkernel⟩ := l.reactor.takeDelivery_kept q
      exact Passage.congr (.works running hqueue (by rw [stage]; rfl) (by rw [hkernel])) rfl rfl
        (ite_self _)
  | turns stage => exact Passage.congr (.rests rfl (by rw [stage]; rfl) rfl) rfl rfl (ite_self _)
  | passesRead stage _ =>
      exact Passage.congr (.rests rfl (by rw [stage]; rfl) rfl) rfl rfl (ite_self _)
  | reads stage _ _ =>
      exact Passage.congr (.rests rfl (by rw [stage]; rfl) rfl) rfl rfl (ite_self _)
  | passesWrite stage _ =>
      exact Passage.congr (.rests rfl (by rw [stage]; rfl) rfl) rfl rfl (ite_self _)
  | @writes e rest fd registration callback stage _ _ armed handler =>
      have htaken := l.reactor.taken fd armed handler
      obtain ⟨haccepted, hcalled, hreleased⟩ :=
        filterMap_of_registration (ofRegistration_takeWrite l.reactor fd registration)
      refine Passage.congr (.rests htaken.sameWork.wakeups (by rw [stage]; rfl) htaken.tells.wakeup)
        ?_ ?_ ?_
      · rw [List.filterMap_append, haccepted]
        rfl
      · rw [List.filterMap_append, hcalled]
        rfl
      · rw [List.filterMap_append, hreleased]
        exact ite_self _
  | mismatches stage _ =>
      refine Passage.congr (.rests rfl ?_ rfl) rfl rfl (ite_self _)
      rcases stage with stage | stage <;> rw [stage] <;> rfl

/-- A callback for the driver is refused by a stopped reactor and accepted by another one. -/
lemma wakeUp_true (l : Loop ι) :
    l.wakeUp true = ({ l with nextCallback := l.nextCallback + 1 },
        [.refused (.call l.nextCallback), .released l.nextCallback]) ∨
      l.reactor.stopped = false ∧ l.wakeUp true =
        ({ l with
            reactor :=
              { l.reactor with
                wakeups := l.reactor.wakeups ++ [Wakeup.call l.nextCallback] }.wake.1
            nextCallback := l.nextCallback + 1 },
          .accepted (.call l.nextCallback) ::
            { l.reactor with
              wakeups := l.reactor.wakeups ++ [Wakeup.call l.nextCallback] }.wake.2) := by
  rcases l.reactor.wakeUp_some (.call l.nextCallback) with
    ⟨hstopped, hrefused⟩ | ⟨hrunning, haccepted⟩
  · left
    simp [Loop.wakeUp, newCallback, hrefused, hstopped]
  · right
    refine ⟨hrunning, ?_⟩
    simp [Loop.wakeUp, newCallback, haccepted, hrunning]

lemma Stride.dropped_eq_nil {s : Stride ι} (h : s.move.drops = false) : s.dropped = [] := by
  rw [Stride.dropped, h, Bool.and_false]
  rfl

/-- What the moves other than the driver's own and a stop do to the wakeups. -/
lemma passage_of_step {l l' : Loop ι} {m : Move ι} {reply : Reply ι} {notes : List (Note ι)}
    (h : l.step m = some (l', reply, notes)) (hm : m.drops = false) :
    Passage l m l' (notes.filterMap accepted?) [] [] := by
  cases m with
  | advance => cases hm
  | stop => cases hm
  | add fd i =>
      simp only [step, Loop.add, Option.some.injEq, Prod.mk.injEq] at h
      obtain ⟨rfl, -, rfl⟩ := h
      have hadded := l.reactor.added fd i l.nextCallback
      have hnotes := filterMap_of_registration
        (ofRegistration_add l.reactor fd i l.nextCallback)
      refine Passage.congr (.rests hadded.sameWork.wakeups rfl hadded.tells.wakeup) ?_ rfl rfl
      split
      · exact hnotes.1
      · rw [List.filterMap_append]
        show List.filterMap accepted? (l.reactor.add fd i l.nextCallback).2.2 ++ [] = []
        rw [hnotes.1]
        rfl
  | remove fd i =>
      simp only [step, Loop.remove, Option.some.injEq, Prod.mk.injEq] at h
      obtain ⟨rfl, -, rfl⟩ := h
      have hremoved := l.reactor.removed fd i
      have hnotes := filterMap_of_registration (ofRegistration_remove l.reactor fd i)
      refine Passage.congr (.rests hremoved.sameWork.wakeups rfl hremoved.tells.wakeup) ?_ rfl rfl
      rw [List.filterMap_append, hnotes.1, giveBack, noAccept_released]
      rfl
  | requestWrite fd =>
      simp only [step, Option.some.injEq, Prod.mk.injEq] at h
      obtain ⟨rfl, -, rfl⟩ := h
      have hrequested := l.reactor.requested fd
      have hnotes := filterMap_of_registration (ofRegistration_requestWrite l.reactor fd)
      exact Passage.congr (.rests hrequested.sameWork.wakeups rfl hrequested.tells.wakeup) hnotes.1
        rfl rfl
  | wakeUp withCallback =>
      simp only [step, Option.some.injEq, Prod.mk.injEq] at h
      obtain ⟨rfl, -, rfl⟩ := h
      cases withCallback with
      | false =>
          exact Passage.congr (.nudges l.reactor.sameWork_wake.wakeups rfl l.reactor.raised_of_wake)
            (noAccept_wake _) rfl rfl
      | true =>
          rcases l.wakeUp_true with hrefused | ⟨hrunning, haccepted⟩
          · rw [hrefused]
            exact .rests rfl rfl rfl
          · rw [haccepted]
            refine Passage.congr (.accepts hrunning (Reactor.sameWork_wake _).wakeups rfl
              (Reactor.raised_of_wake _) fun callback hcallback => ?_) ?_ rfl rfl
            · cases hcallback
              exact ⟨rfl, rfl⟩
            · rw [List.filterMap_cons, noAccept_wake]
              rfl
  | push q item =>
      simp only [step, Reactor.push, Option.some.injEq, Prod.mk.injEq] at h
      obtain ⟨rfl, -, rfl⟩ := h
      rcases (l.reactor.setQueue q
          { l.reactor.queue q with items := (l.reactor.queue q).items ++ [item] }).wakeUp_some
          (.deliver q) with ⟨hstopped, hrefused⟩ | ⟨hrunning, haccepted⟩
      · rw [hrefused]
        exact .rests rfl rfl rfl
      · rw [haccepted]
        refine Passage.congr (.accepts hrunning (Reactor.sameWork_wake _).wakeups rfl
          (Reactor.raised_of_wake _) fun callback hcallback => ?_) ?_ rfl rfl
        · cases hcallback
        · rw [List.filterMap_cons, List.filterMap_cons, noAccept_wake]
          rfl
  | drain q =>
      simp only [step, Reactor.drainQueue, Option.some.injEq, Prod.mk.injEq] at h
      obtain ⟨rfl, -, rfl⟩ := h
      exact .rests rfl rfl rfl
  | setConsumer q =>
      simp only [step, Loop.setConsumer, Option.some.injEq, Prod.mk.injEq] at h
      obtain ⟨rfl, -, rfl⟩ := h
      refine Passage.congr (.rests rfl rfl rfl) ?_ rfl rfl
      simp [consumerRelease, accepted?]
  | clearConsumer q =>
      simp only [step, Loop.clearConsumer, Option.some.injEq, Prod.mk.injEq] at h
      obtain ⟨rfl, -, rfl⟩ := h
      refine Passage.congr (.rests rfl rfl rfl) ?_ rfl rfl
      simp [consumerRelease, accepted?]
  | file action =>
      simp only [step, Option.map_eq_some_iff, Prod.mk.injEq] at h
      obtain ⟨⟨k, answer⟩, hact, rfl, -, rfl⟩ := h
      exact .rests rfl rfl (Kernel.act_kept hact).1
  | breakWatching =>
      simp only [step, Option.some.injEq, Prod.mk.injEq] at h
      obtain ⟨rfl, -, rfl⟩ := h
      exact .rests rfl rfl rfl
  | breakWakeup =>
      simp only [step, Option.some.injEq, Prod.mk.injEq] at h
      obtain ⟨rfl, -, rfl⟩ := h
      exact .breaks rfl rfl rfl
  | enter =>
      simp only [step, Option.ite_none_right_eq_some, Option.some.injEq, Prod.mk.injEq] at h
      obtain ⟨⟨houtside, -⟩, rfl, -, rfl⟩ := h
      exact .rests rfl (by rw [houtside]; rfl) rfl
  | finish =>
      simp only [step, finish, Option.map_map, Option.map_eq_some_iff, Function.comp_apply,
        Prod.mk.injEq] at h
      obtain ⟨a, -, rfl, -, rfl⟩ := h
      split
      · exact Passage.congr (.rests rfl rfl rfl) (noAccept_released _) rfl rfl
      · exact .rests rfl rfl rfl
      · obtain ⟨hqueue, -, hkernel⟩ := l.reactor.returnConsumer_kept _ a.callback
        refine Passage.congr (.rests hqueue rfl (by rw [hkernel])) ?_ rfl rfl
        dsimp only
        split <;> rfl
  | unwind =>
      simp only [step, unwind, Option.map_map, Option.map_eq_some_iff, Function.comp_apply,
        Prod.mk.injEq] at h
      obtain ⟨a, -, rfl, -, rfl⟩ := h
      refine Passage.congr (.loses rfl rfl rfl rfl) ?_ rfl rfl
      simp only [List.filterMap_append, giveBack, noAccept_released, noAccept_discards]
      rfl

/-- **What a move does to the wakeups is one of the listed passages**, with what it notes. -/
theorem Stride.passage (s : Stride ι) :
    Passage s.before s.move s.after (s.notes.filterMap accepted?) (s.notes.filterMap called?)
      s.dropped := by
  by_cases hm : s.move = .advance
  · have hadvance := (s.advance hm).2.passage
    rw [hm]
    refine hadvance.congr rfl rfl ?_
    rw [Stride.dropped, hm]
    simp [Move.drops]
  have hcalled := noCall_of_noStart (s.aside hm).noStart
  by_cases hstop : s.move = .stop
  · have hstopped := s.stopped.mpr (.inr hstop)
    have hmade := s.made
    simp only [hstop, step, Loop.stop, Option.some.injEq, Prod.mk.injEq] at hmade
    obtain ⟨hafter, -, hnotes⟩ := hmade
    obtain ⟨haccepted, hreleased⟩ := filterMap_stop s.before.reactor
    have hqueue : s.after.reactor.wakeups = [] := by
      rw [← hafter]
      exact (Reactor.sameWork_wake _).wakeups
    have hhand : s.after.stage.unworked = s.before.stage.unworked := by rw [← hafter]
    have hheard : s.after.reactor.kernel.wakeup.writable = true →
        s.after.reactor.kernel.wakeup.isRaised = true := by
      rw [← hafter]
      exact Reactor.raised_of_wake _
    refine Passage.congr (.stops hstop hqueue hhand hheard) ?_ hcalled ?_
    · rw [← hnotes, List.filterMap_append, haccepted, noAccept_discards]
      rfl
    · rw [Stride.dropped, hstopped, hstop, ← hnotes, List.filterMap_append, hreleased,
        released_discards]
      rfl
  · have hdrops : s.move.drops = false := by
      cases h : s.move <;> simp_all [Move.drops]
    exact (passage_of_step s.made hdrops).congr rfl hcalled (Stride.dropped_eq_nil hdrops)

end Loop

end EventLoop
