import EventLoop.Proofs.Driver
import EventLoop.Proofs.Kernel.Watching
import EventLoop.Proofs.Operations

/-!
What a move can do, told once and case by case, so that no later proof opens the moves themselves.

* `Loop.Change` lists what a move can do to the registrations and the watched set;
  `Stride.change` says that there is nothing else.
* `Loop.Aside` is what the moves other than the driver's own cannot do, and `Stride.aside` says that
  they do not.
* `Stride.Starts` says that a callback is started; `Stride.Starts.advance` says that only the driver
  does so.
-/

namespace EventLoop

namespace Reactor

variable {ι : Type}

/-- The two have the same registrations, the same watched set and the same capacity. -/
structure SameRegistrations (r r' : Reactor ι) : Prop where
  registry : r'.registry = r.registry
  signalled : r.kernel.Signalled r'.kernel
  capacity : r'.capacity = r.capacity

lemma SameRegistrations.refl (r : Reactor ι) : SameRegistrations r r := ⟨rfl, .idle, rfl⟩

lemma SameRegistrations.watching {r r' : Reactor ι} (h : SameRegistrations r r') :
    r.kernel.SameWatching r'.kernel := h.signalled.sameWatching

lemma sameRegistrations_wake (r : Reactor ι) : SameRegistrations r r.wake.1 := by
  rw [wake]
  split
  · next k h => exact ⟨rfl, .woken h, rfl⟩
  · exact .refl r

lemma sameRegistrations_wakeUp (r : Reactor ι) (w : Option Wakeup) :
    SameRegistrations r (r.wakeUp w).1 := by
  unfold wakeUp
  split
  · exact r.sameRegistrations_wake
  · next w =>
      split
      · exact .refl r
      · have h := sameRegistrations_wake { r with wakeups := r.wakeups ++ [w] }
        exact ⟨h.registry, h.signalled, h.capacity⟩

lemma sameRegistrations_stop (r : Reactor ι) : SameRegistrations r r.stop.1 := by
  have h := sameRegistrations_wake { r with stopped := true, wakeups := [] }
  exact ⟨h.registry, h.signalled, h.capacity⟩

lemma sameRegistrations_push (r : Reactor ι) (q : QueueId) (item : ι) :
    SameRegistrations r (r.push q item).1 := by
  have h := sameRegistrations_wakeUp
    (r.setQueue q { r.queue q with items := (r.queue q).items ++ [item] }) (some (.deliver q))
  exact ⟨h.registry, h.signalled, h.capacity⟩

lemma sameRegistrations_takeDelivery (r : Reactor ι) (q : QueueId) :
    SameRegistrations r (r.takeDelivery q).1 := by
  unfold takeDelivery
  dsimp only
  split
  · exact .refl r
  · split
    · exact .refl r
    · exact ⟨rfl, .idle, rfl⟩

lemma sameRegistrations_returnConsumer (r : Reactor ι) (q : QueueId) (callback : CallbackId) :
    SameRegistrations r (r.returnConsumer q callback).1 := by
  rw [returnConsumer]
  split
  · exact .refl r
  · exact ⟨rfl, .idle, rfl⟩

end Reactor

namespace Loop

open Reactor (Note Role Exit)

variable {ι : Type}

/-! ### The start of a callback -/

/-- The driver starts a callback in a role. -/
def Stride.Starts (s : Stride ι) (callback : CallbackId) (role : Role ι) : Prop :=
  .started callback role ∈ s.notes

/-- Nothing among the notes is the start of a callback. -/
def NoStart (notes : List (Note ι)) : Prop := ∀ callback role, .started callback role ∉ notes

lemma noStart_nil : NoStart ([] : List (Note ι)) := by simp [NoStart]

lemma NoStart.append {notes notes' : List (Note ι)} (h : NoStart notes) (h' : NoStart notes') :
    NoStart (notes ++ notes') := fun callback role hm =>
  (List.mem_append.mp hm).elim (h callback role) (h' callback role)

lemma NoStart.cons {note : Note ι} {notes : List (Note ι)}
    (h : ∀ callback role, note ≠ .started callback role) (h' : NoStart notes) :
    NoStart (note :: notes) := fun callback role hm =>
  (List.mem_cons.mp hm).elim (fun he => h callback role he.symm) (h' callback role)

lemma noStart_released (callbacks : List CallbackId) :
    NoStart (callbacks.map .released : List (Note ι)) := by simp [NoStart]

lemma noStart_discards (wakeups : List Wakeup) : NoStart (discards wakeups : List (Note ι)) := by
  simp [NoStart, discards]

lemma noStart_wake (r : Reactor ι) : NoStart r.wake.2 := by
  rw [Reactor.wake]
  split <;> simp [NoStart]

lemma noStart_wakeUp (r : Reactor ι) (w : Option Wakeup) : NoStart (r.wakeUp w).2 := by
  unfold Reactor.wakeUp
  split
  · exact noStart_wake r
  · split
    · simp [NoStart]
    · exact .cons nofun (noStart_wake _)

lemma noStart_stop (r : Reactor ι) : NoStart r.stop.2 := by
  rw [Reactor.stop]
  refine .append (.append ?_ ?_) (noStart_wake _)
  · split <;> simp [NoStart]
  · split <;> simp [NoStart]

/-- Whether a note is about a registration. -/
def OfRegistration : Note ι → Prop
  | .overlapping _ _ | .registrationFailed _ _ | .registered _ _ _ | .unregistered _ _
  | .alreadyGone _ | .deregistrationFailed _ _ | .rearmed _ | .rearmFailed _ _
  | .disarmFailed _ _ => True
  | _ => False

lemma noStart_of_registration {notes : List (Note ι)} (h : ∀ n ∈ notes, OfRegistration n) :
    NoStart notes := fun _ _ hm => h _ hm

lemma ofRegistration_add (r : Reactor ι) (fd : Fd) (i : Interest) (callback : CallbackId) :
    ∀ n ∈ (r.add fd i callback).2.2, OfRegistration n := by
  rw [Reactor.add]
  split
  · simp
  · dsimp only
    split
    · simp [OfRegistration]
    · split <;> simp [OfRegistration]

lemma ofRegistration_remove (r : Reactor ι) (fd : Fd) (i : Interest) :
    ∀ n ∈ (r.remove fd i).2.2, OfRegistration n := by
  rw [Reactor.remove]
  split
  · simp
  · split
    · simp
    · dsimp only
      split
      · simp [OfRegistration]
      · split <;> simp [OfRegistration]

lemma ofRegistration_requestWrite (r : Reactor ι) (fd : Fd) :
    ∀ n ∈ (r.requestWrite fd).2.2, OfRegistration n := by
  rw [Reactor.requestWrite]
  split
  · simp
  · split
    · simp
    · split
      · simp
      · dsimp only
        split <;> simp [OfRegistration]

lemma ofRegistration_takeWrite (r : Reactor ι) (fd : Fd) (current : Registration CallbackId) :
    ∀ n ∈ (r.takeWrite fd current).2.2, OfRegistration n := by
  rw [Reactor.takeWrite]
  split
  · simp
  · split
    · simp
    · dsimp only
      split <;> simp [OfRegistration]

/-- An advance starts a callback exactly if it leaves this callback running. -/
lemma started_mem_iff_of_advance {l l' : Loop ι} {notes : List (Note ι)} (h : Advance l l' notes)
    (hl : l.active = none) (callback : CallbackId) (role : Role ι) :
    .started callback role ∈ notes ↔ l'.active = some ⟨callback, role⟩ := by
  cases h with
  | wakes => split <;> simp [hl]
  | discards => simp [discards, hl]
  | writes _ _ _ _ _ =>
      have hnotes (fd : Fd) (current : Registration CallbackId) :=
        noStart_of_registration (ofRegistration_takeWrite l.reactor fd current)
      simp [hnotes _ _ callback role, eq_comm]
  | _ => simp [hl, eq_comm]

/-- Whether a move hands over a callback, which gets a number of its own. -/
def Move.hands : Move ι → Bool
  | .add _ _ | .wakeUp true | .setConsumer _ => true
  | _ => false

/-- What the moves other than the driver's own leave alone: they start nothing, only some of them
hand over a callback, only a stop stops the reactor, and where the driver stands changes by the
beginning of a run or its end by a panic only. -/
structure Aside (l : Loop ι) (m : Move ι) (l' : Loop ι) (notes : List (Note ι)) : Prop where
  noStart : NoStart notes
  nextCallback : l'.nextCallback = l.nextCallback + m.hands.toNat
  stopped : l'.reactor.stopped = true ↔ l.reactor.stopped = true ∨ m = .stop
  stage : l'.stage = l.stage ∨ m = .unwind ∧ l'.stage = .outside ∨
    m = .enter ∧ l.stage = .outside ∧ l'.stage = .head

lemma Stride.aside (s : Stride ι) (hm : s.move ≠ .advance) :
    Aside s.before s.move s.after s.notes := by
  obtain ⟨l, m, ⟨reply, notes⟩, l', h⟩ := s
  dsimp only [Stride.notes] at hm ⊢
  cases m with
  | advance => exact absurd rfl hm
  | add fd i =>
      simp only [step, Loop.add, Option.some.injEq, Prod.mk.injEq] at h
      obtain ⟨rfl, -, rfl⟩ := h
      have hnotes := noStart_of_registration (ofRegistration_add l.reactor fd i l.nextCallback)
      refine ⟨?_, rfl, ?_, .inl rfl⟩
      · split
        · exact hnotes
        · exact hnotes.append (by simp [NoStart])
      · simp [newCallback, (l.reactor.added fd i l.nextCallback).sameWork.stopped]
  | remove fd i =>
      simp only [step, Loop.remove, Option.some.injEq, Prod.mk.injEq] at h
      obtain ⟨rfl, -, rfl⟩ := h
      have hnotes := noStart_of_registration (ofRegistration_remove l.reactor fd i)
      refine ⟨hnotes.append (noStart_released _), rfl, ?_, .inl rfl⟩
      simp [giveBack, (l.reactor.removed fd i).sameWork.stopped]
  | requestWrite fd =>
      simp only [step, Option.some.injEq, Prod.mk.injEq] at h
      obtain ⟨rfl, -, rfl⟩ := h
      have hnotes := noStart_of_registration (ofRegistration_requestWrite l.reactor fd)
      refine ⟨hnotes, rfl, ?_, .inl rfl⟩
      simp [(l.reactor.requested fd).sameWork.stopped]
  | stop =>
      simp only [step, Loop.stop, Option.some.injEq, Prod.mk.injEq] at h
      obtain ⟨rfl, -, rfl⟩ := h
      exact ⟨.append (noStart_stop _) (noStart_discards _), rfl, by simp, .inl rfl⟩
  | wakeUp withCallback =>
      simp only [step, Loop.wakeUp, Option.some.injEq, Prod.mk.injEq] at h
      obtain ⟨rfl, -, rfl⟩ := h
      cases withCallback with
      | false => exact ⟨noStart_wakeUp _ _, rfl, by simp, .inl rfl⟩
      | true =>
          refine ⟨?_, rfl, by simp [newCallback], .inl rfl⟩
          simp only [if_true]
          split
          · exact .append (noStart_wakeUp _ _) (by simp [NoStart])
          · exact noStart_wakeUp _ _
  | push q item =>
      simp only [step, Reactor.push, Option.some.injEq, Prod.mk.injEq] at h
      obtain ⟨rfl, -, rfl⟩ := h
      exact ⟨.cons nofun (noStart_wakeUp _ _), rfl, by simp [Reactor.setQueue], .inl rfl⟩
  | drain q =>
      simp only [step, Reactor.drainQueue, Option.some.injEq, Prod.mk.injEq] at h
      obtain ⟨rfl, -, rfl⟩ := h
      exact ⟨by simp [NoStart], rfl, by simp [Reactor.setQueue], .inl rfl⟩
  | setConsumer q =>
      simp only [step, Loop.setConsumer, Option.some.injEq, Prod.mk.injEq] at h
      obtain ⟨rfl, -, rfl⟩ := h
      refine ⟨by simp [NoStart, consumerRelease], rfl, ?_, .inl rfl⟩
      simp [newCallback, Reactor.setConsumer, Reactor.setQueue]
  | clearConsumer q =>
      simp only [step, Loop.clearConsumer, Option.some.injEq, Prod.mk.injEq] at h
      obtain ⟨rfl, -, rfl⟩ := h
      refine ⟨by simp [NoStart, consumerRelease], rfl, ?_, .inl rfl⟩
      simp [Reactor.clearConsumer, Reactor.setQueue]
  | file action =>
      simp only [step, Option.map_eq_some_iff, Prod.mk.injEq] at h
      obtain ⟨_, -, rfl, -, rfl⟩ := h
      exact ⟨noStart_nil, rfl, by simp, .inl rfl⟩
  | breakWatching =>
      simp only [step, Option.some.injEq, Prod.mk.injEq] at h
      obtain ⟨rfl, -, rfl⟩ := h
      exact ⟨noStart_nil, rfl, by simp, .inl rfl⟩
  | breakWakeup =>
      simp only [step, Option.some.injEq, Prod.mk.injEq] at h
      obtain ⟨rfl, -, rfl⟩ := h
      exact ⟨noStart_nil, rfl, by simp, .inl rfl⟩
  | enter =>
      simp only [step, Option.ite_none_right_eq_some, Option.some.injEq, Prod.mk.injEq] at h
      obtain ⟨⟨houtside, -⟩, rfl, -, rfl⟩ := h
      exact ⟨by simp [NoStart], rfl, by simp, .inr (.inr ⟨rfl, houtside, rfl⟩)⟩
  | finish =>
      simp only [step, finish, Option.map_map, Option.map_eq_some_iff, Function.comp_apply,
        Prod.mk.injEq] at h
      obtain ⟨a, -, rfl, -, rfl⟩ := h
      split
      · exact ⟨.cons nofun (noStart_released _), rfl, by simp [giveBack], .inl rfl⟩
      · exact ⟨by simp [NoStart], rfl, by simp, .inl rfl⟩
      · refine ⟨?_, rfl, by simp [(l.reactor.returnConsumer_kept _ _).2.1], .inl rfl⟩
        dsimp only
        split <;> simp [NoStart]
  | unwind =>
      simp only [step, unwind, Option.map_map, Option.map_eq_some_iff, Function.comp_apply,
        Prod.mk.injEq] at h
      obtain ⟨a, -, rfl, -, rfl⟩ := h
      refine ⟨.append (.append ?_ (noStart_discards _)) (by simp [NoStart, leave]), rfl,
        by simp [leave, giveBack], .inr (.inl ⟨rfl, rfl⟩)⟩
      exact (noStart_released _).append (noStart_released _)

/-- The driver's own move. -/
lemma Stride.advance (s : Stride ι) (hm : s.move = .advance) :
    s.before.active = none ∧ Advance s.before s.after s.notes := by
  have hmade := s.made
  simp only [hm, step, Option.map_eq_some_iff, Prod.mk.injEq] at hmade
  obtain ⟨p, hp, hl, -, hn⟩ := hmade
  rw [← hl, ← hn]
  exact advance_eq_some hp

/-- A driver that is in a run and runs no callback can move. -/
lemma exists_advance {l : Loop ι} (hactive : l.active = none) (hstage : l.stage ≠ .outside) :
    ∃ s : Stride ι, s.before = l ∧ s.move = .advance := by
  refine ⟨l.stride .advance ?_, rfl, rfl⟩
  rw [step, Option.isSome_map]
  rw [advance]
  simp only [hactive, Option.isSome_none, Bool.false_eq_true, if_false]
  split
  · next h => exact absurd h hstage
  all_goals rfl

/-- A run can begin when there is none. -/
lemma exists_enter {l : Loop ι} (houtside : l.stage = .outside) (hidle : l.active = none) :
    ∃ s : Stride ι, s.before = l ∧ s.move = .enter ∧ s.after = { l with stage := .head } := by
  have henter : l.step .enter = some ({ l with stage := .head }, .done, [.entered]) := by
    rw [step, if_pos ⟨houtside, by rw [hidle]; rfl⟩]
  exact ⟨⟨l, .enter, (.done, [.entered]), { l with stage := .head }, henter⟩, rfl, rfl, rfl⟩

/-- The driver looks whether the reactor was stopped, and waits. -/
def Stride.Waits (s : Stride ι) : Prop := s.move = .advance ∧ s.before.stage = .head

/-- A wait that brings a wakeup takes the queue. -/
lemma Stride.takes_queue {s : Stride ι} (hs : s.Waits)
    (hrunning : s.before.reactor.stopped = false) {k : Kernel} {batch : Batch}
    (hpoll : s.before.reactor.kernel.poll s.before.reactor.capacity = .ok (k, batch))
    (hwoken : batch.woken = true) :
    s.after.active = none ∧ s.after.reactor.stopped = false ∧
      s.after.stage.unworked = s.before.reactor.wakeups := by
  obtain ⟨hidle, hadvance⟩ := s.advance hs.1
  rcases hadvance.of_head hs.2 with ⟨hwhy, -⟩ | ⟨k', batch', -, hpoll', hcases⟩
  · rcases hwhy with hstopped | ⟨error, herror⟩
    · exact absurd (hrunning.symm.trans hstopped) Bool.false_ne_true
    · exact absurd (hpoll.symm.trans herror) (by simp)
  · obtain ⟨rfl, rfl⟩ : k = k' ∧ batch = batch' := by simpa using hpoll.symm.trans hpoll'
    rcases hcases with ⟨-, hafter⟩ | ⟨hunwoken, -⟩
    · rw [hafter]
      exact ⟨hidle, hrunning, rfl⟩
    · rw [hwoken] at hunwoken
      cases hunwoken

/-- A callback starts by an advance, which leaves it running. -/
lemma Stride.Starts.advance {s : Stride ι} {callback : CallbackId} {role : Role ι}
    (h : s.Starts callback role) :
    s.move = .advance ∧ s.before.active = none ∧ Advance s.before s.after s.notes ∧
      s.after.active = some ⟨callback, role⟩ := by
  have hm : s.move = .advance := by
    by_contra hm
    exact (s.aside hm).noStart callback role h
  obtain ⟨ha, hadv⟩ := s.advance hm
  exact ⟨hm, ha, hadv, (started_mem_iff_of_advance hadv ha callback role).mp h⟩

/-! ### What every move keeps -/

/-- Every callback that is handed over gets a number of its own. -/
lemma Stride.nextCallback (s : Stride ι) :
    s.after.nextCallback = s.before.nextCallback + s.move.hands.toNat := by
  by_cases hm : s.move = .advance
  · rw [(s.advance hm).2.nextCallback, hm]
    rfl
  · exact (s.aside hm).nextCallback

/-- A reactor is stopped by a stop, and for good. -/
lemma Stride.stopped (s : Stride ι) :
    s.after.reactor.stopped = true ↔ s.before.reactor.stopped = true ∨ s.move = .stop := by
  by_cases hm : s.move = .advance
  · rw [(s.advance hm).2.stopped, hm]
    simp
  · exact (s.aside hm).stopped

/-- A reactor that is not stopped after a move was not stopped before it, and not by it. -/
lemma Stride.running_of_after {s : Stride ι} (h : s.after.reactor.stopped = false) :
    s.before.reactor.stopped = false ∧ s.move ≠ .stop := by
  rw [← Bool.not_eq_true, s.stopped, not_or] at h
  exact ⟨by simpa using h.1, h.2⟩

/-- A reactor that is not stopped in the end was not stopped before. -/
lemma running_of_mem {l : Loop ι} {ms : List (Move ι)} {s : Stride ι} (hs : s ∈ l.strides ms)
    (running : (l.after ms).reactor.stopped = false) : s.after.reactor.stopped = false := by
  obtain ⟨past, later, hcut⟩ := List.append_of_mem hs
  obtain ⟨-, ms₂, -, -, -, hafter⟩ := exists_moves_of_strides_eq hcut
  by_contra hstopped
  have hstays : (s.after.after ms₂).reactor.stopped = true :=
    after_of_stride (P := fun l => l.reactor.stopped = true) (Q := fun _ => True)
      (fun t _ ht => t.stopped.mpr (.inl ht)) (by simpa using hstopped) (fun _ _ => trivial)
  rw [hafter, running] at hstays
  cases hstays

/-! ### What happens to the registrations -/

/-- Moves that are about registrations, files or the watched set. -/
def Move.registers : Move ι → Bool
  | .add _ _ | .remove _ _ | .requestWrite _ | .file _ | .breakWatching => true
  | _ => false

/-- What a move does to the registrations and the watched set, with what it answers. -/
inductive Change (l : Loop ι) : Move ι → Reply ι → Reactor ι → Prop
  | add (fd : Fd) (i : Interest) :
      Change l (.add fd i) (.flag (l.reactor.add fd i l.nextCallback).2.1)
        (l.reactor.add fd i l.nextCallback).1
  | remove (fd : Fd) (i : Interest) :
      Change l (.remove fd i) (.flag (l.reactor.remove fd i).2.1) (l.reactor.remove fd i).1
  | requestWrite (fd : Fd) :
      Change l (.requestWrite fd) (.flag (l.reactor.requestWrite fd).2.1)
        (l.reactor.requestWrite fd).1
  | takeWrite {token : Token} {fd : Fd} {registration : Registration CallbackId}
      {callback : CallbackId} (found : l.reactor.registry.resolve token = .found fd registration)
      (armed : registration.armed = true) (handler : registration.write = some callback) :
      Change l .advance .done (l.reactor.takeWrite fd registration).1
  | file {action : Kernel.Action} {answer : Kernel.Answer} {k : Kernel}
      (acted : l.reactor.kernel.act action = some (k, answer)) :
      Change l (.file action) (.file answer) { l.reactor with kernel := k }
  | breakWatching :
      Change l .breakWatching .done
        { l.reactor with kernel := l.reactor.kernel.breakWatching }
  | same {m : Move ι} {reply : Reply ι} {r : Reactor ι} (other : m.registers = false)
      (registrations : l.reactor.SameRegistrations r) : Change l m reply r

lemma change_of_advance {l l' : Loop ι} {notes : List (Note ι)} (h : Advance l l' notes) :
    Change l .advance .done l'.reactor := by
  cases h with
  | writes _ _ found armed handler => exact .takeWrite found armed handler
  | wakes _ _ poll _ => exact .same rfl ⟨rfl, .polled poll, rfl⟩
  | collects _ _ poll _ => exact .same rfl ⟨rfl, .polled poll, rfl⟩
  | delivers _ _ _ => exact .same rfl (l.reactor.sameRegistrations_takeDelivery _)
  | _ => exact .same rfl (.refl _)

/-- **What a move does to the registrations is one of the listed changes.** -/
theorem Stride.change (s : Stride ι) : Change s.before s.move s.reply s.after.reactor := by
  obtain ⟨l, m, ⟨reply, notes⟩, l', h⟩ := s
  dsimp only [Stride.reply]
  cases m with
  | add fd i => cases h; exact .add fd i
  | remove fd i => cases h; exact .remove fd i
  | requestWrite fd => cases h; exact .requestWrite fd
  | stop => cases h; exact .same rfl l.reactor.sameRegistrations_stop
  | wakeUp withCallback =>
      simp only [step, Loop.wakeUp, Option.some.injEq, Prod.mk.injEq] at h
      obtain ⟨rfl, -, -⟩ := h
      refine .same rfl ?_
      split <;> exact l.reactor.sameRegistrations_wakeUp _
  | push q item => cases h; exact .same rfl (l.reactor.sameRegistrations_push q item)
  | drain q => cases h; exact .same rfl ⟨rfl, .idle, rfl⟩
  | setConsumer q => cases h; exact .same rfl ⟨rfl, .idle, rfl⟩
  | clearConsumer q => cases h; exact .same rfl ⟨rfl, .idle, rfl⟩
  | file action =>
      simp only [step, Option.map_eq_some_iff, Prod.mk.injEq] at h
      obtain ⟨⟨k, answer⟩, hk, rfl, rfl, -⟩ := h
      exact .file hk
  | breakWatching => cases h; exact .breakWatching
  | breakWakeup => cases h; exact .same rfl ⟨rfl, .broken, rfl⟩
  | enter =>
      simp only [step, Option.ite_none_right_eq_some] at h
      obtain ⟨-, h⟩ := h
      cases h
      exact .same rfl (.refl _)
  | advance =>
      simp only [step, Option.map_eq_some_iff, Prod.mk.injEq] at h
      obtain ⟨p, hp, rfl, rfl, -⟩ := h
      exact change_of_advance (advance_eq_some hp).2
  | finish =>
      simp only [step, finish, Option.map_eq_some_iff, Option.map_map] at h
      obtain ⟨a, -, rfl, -⟩ := h
      refine .same rfl ?_
      dsimp only [Function.comp_apply]
      split
      · exact .refl _
      · exact .refl _
      · exact l.reactor.sameRegistrations_returnConsumer _ _
  | unwind =>
      simp only [step, unwind, Option.map_eq_some_iff, Option.map_map] at h
      obtain ⟨a, -, rfl, -⟩ := h
      exact .same rfl (.refl _)

/-- What comes of adding a callback. -/
lemma Stride.added {s : Stride ι} {fd : Fd} {i : Interest} (hm : s.move = .add fd i) :
    ∃ b, s.reply = .flag b ∧
      s.before.reactor.Added fd i s.before.nextCallback s.after.reactor b := by
  have hchange := s.change
  generalize s.reply = reply, s.after.reactor = r at hchange ⊢
  rw [hm] at hchange
  cases hchange with
  | add _ _ => exact ⟨_, rfl, s.before.reactor.added fd i s.before.nextCallback⟩
  | same other _ => cases other

/-- What comes of removing callbacks. -/
lemma Stride.removed {s : Stride ι} {fd : Fd} {i : Interest} (hm : s.move = .remove fd i) :
    ∃ b, s.reply = .flag b ∧ s.before.reactor.Removed fd i s.after.reactor b := by
  have hchange := s.change
  generalize s.reply = reply, s.after.reactor = r at hchange ⊢
  rw [hm] at hchange
  cases hchange with
  | remove _ _ => exact ⟨_, rfl, s.before.reactor.removed fd i⟩
  | same other _ => cases other

/-- What comes of arming a write callback. -/
lemma Stride.requested {s : Stride ι} {fd : Fd} (hm : s.move = .requestWrite fd) :
    ∃ b, s.reply = .flag b ∧ s.before.reactor.Requested fd s.after.reactor b := by
  have hchange := s.change
  generalize s.reply = reply, s.after.reactor = r at hchange ⊢
  rw [hm] at hchange
  cases hchange with
  | requestWrite _ => exact ⟨_, rfl, s.before.reactor.requested fd⟩
  | same other _ => cases other

/-- The other moves, but for the driver's own, leave the table alone. -/
lemma Stride.registry_eq {s : Stride ι} (hadvance : s.move ≠ .advance)
    (hadd : ∀ fd i, s.move ≠ .add fd i) (hremove : ∀ fd i, s.move ≠ .remove fd i)
    (hrequest : ∀ fd, s.move ≠ .requestWrite fd) :
    s.after.reactor.registry = s.before.reactor.registry := by
  have hchange := s.change
  generalize s.move = m, s.reply = reply, s.after.reactor = r
    at hchange hadvance hadd hremove hrequest ⊢
  cases hchange with
  | add fd i => exact absurd rfl (hadd fd i)
  | remove fd i => exact absurd rfl (hremove fd i)
  | requestWrite fd => exact absurd rfl (hrequest fd)
  | takeWrite _ _ _ => exact absurd rfl hadvance
  | file _ => rfl
  | breakWatching => rfl
  | same _ registrations => exact registrations.registry

end Loop

end EventLoop
