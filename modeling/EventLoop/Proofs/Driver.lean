import EventLoop.Proofs.Operations
import EventLoop.Proofs.Run

/-!
The moves of the driver, told once and case by case.

* `Reactor.callbackOf` is the callback that half of an event would be handed to.
* `Stage.events` are the events that the driver has not done with.
* `Advance` lists the moves of the driver; `advance_eq_some` says that there are no others.
* `Stage.nextHalf?` is the half of an event that the driver hands out next; `Advance.active_iff`
  says that what it starts for readiness is what this half leads to.
-/

namespace EventLoop

namespace Reactor

variable {ι : Type}

/-- The callback that half of an event would be handed to: whatever its token leads to, a write
callback only while it is armed. -/
def callbackOf (r : Reactor ι) (token : Token) (direction : Direction) : Option CallbackId :=
  match r.registry.resolve token, direction with
  | .found _ registration, .reading => registration.read
  | .found _ registration, .writing => if registration.armed then registration.write else none
  | _, _ => none

lemma takeWrite_of_armed (r : Reactor ι) (fd : Fd) {current : Registration CallbackId}
    {callback : CallbackId} (ha : current.armed = true) (hw : current.write = some callback) :
    (r.takeWrite fd current).2.1 = some callback := by
  simp only [takeWrite, ha, hw, Bool.not_true, Bool.false_eq_true, if_false]
  split <;> rfl

lemma takeWrite_of_not_armed (r : Reactor ι) (fd : Fd) {current : Registration CallbackId}
    (h : (if current.armed then current.write else none) = none) :
    r.takeWrite fd current = (r, none, []) := by
  rw [takeWrite]
  split
  · rfl
  · next ha =>
      rw [if_pos (by simpa using ha)] at h
      rw [h]

end Reactor

namespace Loop

open Reactor (Note Role Exit)

variable {ι : Type}

/-! ### The moves of the driver -/

/-- What comes of a move of the driver, with what happens during the move. -/
inductive Advance (l : Loop ι) : Loop ι → List (Note ι) → Prop
  | stops (stage : l.stage = .head) (stopped : l.reactor.stopped = true) :
      Advance l { l with stage := .outside, active := none } [.left .stopped]
  | fails {e : OsError} (stage : l.stage = .head) (running : l.reactor.stopped = false)
      (poll : l.reactor.kernel.poll l.reactor.capacity = .error e) :
      Advance l { l with stage := .outside, active := none } [.left (.failed e)]
  | wakes {k : Kernel} {batch : Batch} (stage : l.stage = .head)
      (running : l.reactor.stopped = false)
      (poll : l.reactor.kernel.poll l.reactor.capacity = .ok (k, batch))
      (woken : batch.woken = true) :
      Advance l
        { l with
          reactor := { l.reactor with kernel := k, wakeups := [] }
          stage := .waking l.reactor.wakeups batch.events }
        (if l.reactor.wakeups.isEmpty then [] else [.working l.reactor.wakeups.length])
  | collects {k : Kernel} {batch : Batch} (stage : l.stage = .head)
      (running : l.reactor.stopped = false)
      (poll : l.reactor.kernel.poll l.reactor.capacity = .ok (k, batch))
      (unwoken : batch.woken = false) :
      Advance l
        { l with
          reactor := { l.reactor with kernel := k }
          stage := .dispatching batch.events } []
  | woke {events : List Event} (stage : l.stage = .waking [] events) :
      Advance l { l with stage := .dispatching events } []
  | discards {w : Wakeup} {rest : List Wakeup} {events : List Event}
      (stage : l.stage = .waking (w :: rest) events) (stopped : l.reactor.stopped = true) :
      Advance l { l with stage := .dispatching events } (discards (w :: rest))
  | calls {callback : CallbackId} {rest : List Wakeup} {events : List Event}
      (stage : l.stage = .waking (.call callback :: rest) events)
      (running : l.reactor.stopped = false) :
      Advance l { l with stage := .waking rest events, active := some ⟨callback, .wakeup⟩ }
        [.started callback .wakeup]
  | skips {q : QueueId} {rest : List Wakeup} {events : List Event}
      (stage : l.stage = .waking (.deliver q :: rest) events)
      (running : l.reactor.stopped = false) (nothing : (l.reactor.takeDelivery q).2 = none) :
      Advance l { l with stage := .waking rest events } []
  | delivers {q : QueueId} {rest : List Wakeup} {events : List Event} {callback : CallbackId}
      {items : List ι} (stage : l.stage = .waking (.deliver q :: rest) events)
      (running : l.reactor.stopped = false)
      (delivery : (l.reactor.takeDelivery q).2 = some (callback, items)) :
      Advance l
        { l with
          reactor := (l.reactor.takeDelivery q).1
          stage := .waking rest events
          active := some ⟨callback, .consumer q items⟩ }
        [.started callback (.consumer q items)]
  | turns (stage : l.stage = .dispatching []) : Advance l { l with stage := .head } []
  | passesRead {e : Event} {rest : List Event} (stage : l.stage = .dispatching (e :: rest))
      (nobody : e.readable = true → l.reactor.callbackOf e.token .reading = none) :
      Advance l { l with stage := .halfway e rest } []
  | reads {e : Event} {rest : List Event} {callback : CallbackId}
      (stage : l.stage = .dispatching (e :: rest)) (readable : e.readable = true)
      (handler : l.reactor.callbackOf e.token .reading = some callback) :
      Advance l
        { l with
          stage := .halfway e rest
          active := some ⟨callback, .readiness e.token .reading⟩
          owners := callback :: l.owners }
        [.started callback (.readiness e.token .reading)]
  | passesWrite {e : Event} {rest : List Event} (stage : l.stage = .halfway e rest)
      (nobody : e.writable = true → l.reactor.callbackOf e.token .writing = none) :
      Advance l { l with stage := .dispatching rest } []
  | writes {e : Event} {rest : List Event} {fd : Fd} {registration : Registration CallbackId}
      {callback : CallbackId} (stage : l.stage = .halfway e rest) (writable : e.writable = true)
      (found : l.reactor.registry.resolve e.token = .found fd registration)
      (armed : registration.armed = true) (handler : registration.write = some callback) :
      Advance l
        { l with
          reactor := (l.reactor.takeWrite fd registration).1
          stage := .dispatching rest
          active := some ⟨callback, .readiness e.token .writing⟩
          owners := callback :: l.owners }
        ((l.reactor.takeWrite fd registration).2.2 ++
          [.started callback (.readiness e.token .writing)])
  | mismatches {e : Event} {rest : List Event} {held : Token}
      (stage : l.stage = .dispatching (e :: rest) ∨ l.stage = .halfway e rest)
      (mismatch : l.reactor.registry.resolve e.token = .mismatched held) :
      Advance l { l with stage := .outside, active := none } [.left (.mismatched held e.token)]

lemma advance_await {l : Loop ι} (hs : l.stage = .head) : Advance l l.await.1 l.await.2 := by
  rw [await]
  split
  · next h => exact .stops hs h
  · next h =>
      rw [Bool.not_eq_true] at h
      split
      · next e hp => exact .fails hs h hp
      · next k batch hp =>
          dsimp only
          split
          · next hw => exact .wakes hs h hp hw
          · next hw => exact .collects hs h hp (by simpa using hw)

lemma advance_workOff {l : Loop ι} {w : Wakeup} {rest : List Wakeup} {events : List Event}
    (hs : l.stage = .waking (w :: rest) events) :
    Advance l (l.workOff w rest events).1 (l.workOff w rest events).2 := by
  unfold workOff
  split
  · next h => exact .discards hs h
  · next h =>
      rw [Bool.not_eq_true] at h
      cases w with
      | call id => exact .calls hs h
      | deliver q =>
          dsimp only
          split
          · next hd => exact .skips hs h (by rw [hd])
          · next r callback items hd =>
              have hd' := Advance.delivers hs h
                (show (l.reactor.takeDelivery q).2 = some (callback, items) by rw [hd])
              rwa [hd] at hd'

lemma advance_dispatchRead {l : Loop ι} {e : Event} {rest : List Event}
    (hs : l.stage = .dispatching (e :: rest)) :
    Advance l (l.dispatchRead e rest).1 (l.dispatchRead e rest).2 := by
  rw [dispatchRead]
  split
  · next h => exact .passesRead hs fun hr => by simp [hr] at h
  · next h =>
      split
      · next hr => exact .passesRead hs fun _ => by simp [Reactor.callbackOf, hr]
      · next held hr => exact .mismatches (.inl hs) hr
      · next fd registration hr =>
          split
          · next hn => exact .passesRead hs fun _ => by simp [Reactor.callbackOf, hr, hn]
          · next id hi => exact .reads hs (by simpa using h) (by simp [Reactor.callbackOf, hr, hi])

lemma advance_dispatchWrite {l : Loop ι} {e : Event} {rest : List Event}
    (hs : l.stage = .halfway e rest) :
    Advance l (l.dispatchWrite e rest).1 (l.dispatchWrite e rest).2 := by
  rw [dispatchWrite]
  split
  · next h => exact .passesWrite hs fun hw => by simp [hw] at h
  · next h =>
      split
      · next hr => exact .passesWrite hs fun _ => by simp [Reactor.callbackOf, hr]
      · next held hr => exact .mismatches (.inr hs) hr
      · next fd registration hr =>
          cases hc : (if registration.armed then registration.write else none) with
          | none =>
              rw [Reactor.takeWrite_of_not_armed _ _ hc]
              exact .passesWrite hs fun _ => by simpa [Reactor.callbackOf, hr] using hc
          | some id =>
              simp only [Option.ite_none_right_eq_some] at hc
              obtain ⟨ha, hi⟩ := hc
              have ht := l.reactor.takeWrite_of_armed fd ha hi
              have hd := Advance.writes hs (by simpa using h) hr ha hi
              split
              · next htake => simp [htake] at ht
              · next r id' notes htake =>
                  rw [htake] at ht hd
                  obtain rfl : id' = id := by simpa using ht
                  exact hd

/-- **The driver moves while no callback runs, and makes one of the listed moves.** -/
theorem advance_eq_some {l : Loop ι} {p : Loop ι × List (Note ι)} (h : l.advance = some p) :
    l.active = none ∧ Advance l p.1 p.2 := by
  rw [advance] at h
  split at h
  · cases h
  · next ha =>
      refine ⟨by simpa using ha, ?_⟩
      split at h
      · cases h
      · next hs => cases h; exact advance_await hs
      · next hs => cases h; exact .woke hs
      · next hs => cases h; exact advance_workOff hs
      · next hs => cases h; exact .turns hs
      · next hs => cases h; exact advance_dispatchRead hs
      · next hs => cases h; exact advance_dispatchWrite hs

/-! ### What the driver does not change, and what it starts -/

/-- The driver hands no callback over. -/
lemma Advance.nextCallback {l l' : Loop ι} {notes : List (Note ι)} (h : Advance l l' notes) :
    l'.nextCallback = l.nextCallback := by
  cases h <;> rfl

lemma Advance.stopped {l l' : Loop ι} {notes : List (Note ι)} (h : Advance l l' notes) :
    l'.reactor.stopped = l.reactor.stopped := by
  cases h with
  | delivers _ _ _ => exact (l.reactor.takeDelivery_kept _).2.1
  | writes _ _ _ armed handler => exact (l.reactor.taken _ armed handler).sameWork.stopped
  | _ => rfl

/-- What comes of waiting: the run ends, or a poll brings a batch, and with a wakeup in it the
driver takes the queue. -/
lemma Advance.of_head {l l' : Loop ι} {notes : List (Note ι)} (h : Advance l l' notes)
    (hs : l.stage = .head) :
    (l.reactor.stopped = true ∨ ∃ e, l.reactor.kernel.poll l.reactor.capacity = .error e) ∧
        l'.stage = .outside ∨
      ∃ k batch, l.reactor.stopped = false ∧
        l.reactor.kernel.poll l.reactor.capacity = .ok (k, batch) ∧
        (batch.woken = true ∧ l' =
            { l with
              reactor := { l.reactor with kernel := k, wakeups := [] }
              stage := .waking l.reactor.wakeups batch.events } ∨
          batch.woken = false ∧ l' =
            { l with
              reactor := { l.reactor with kernel := k }
              stage := .dispatching batch.events }) := by
  cases h with
  | stops _ stopped => exact .inl ⟨.inl stopped, rfl⟩
  | fails _ _ poll => exact .inl ⟨.inr ⟨_, poll⟩, rfl⟩
  | wakes _ running poll woken => exact .inr ⟨_, _, running, poll, .inl ⟨woken, rfl⟩⟩
  | collects _ running poll unwoken => exact .inr ⟨_, _, running, poll, .inr ⟨unwoken, rfl⟩⟩
  | mismatches stage _ => rcases stage with stage | stage <;> simp [hs] at stage
  | woke stage => simp [hs] at stage
  | discards stage _ => simp [hs] at stage
  | calls stage _ => simp [hs] at stage
  | skips stage _ _ => simp [hs] at stage
  | delivers stage _ _ => simp [hs] at stage
  | turns stage => simp [hs] at stage
  | passesRead stage _ => simp [hs] at stage
  | reads stage _ _ => simp [hs] at stage
  | passesWrite stage _ => simp [hs] at stage
  | writes stage _ _ _ _ => simp [hs] at stage

/-- A driver that is not stopped works off the first of the wakeups that it has taken. -/
lemma Advance.of_waking {l l' : Loop ι} {notes : List (Note ι)} (h : Advance l l' notes)
    {w : Wakeup} {rest : List Wakeup} {events : List Event}
    (hs : l.stage = .waking (w :: rest) events) (hl : l.reactor.stopped = false) :
    l'.stage = .waking rest events := by
  cases h with
  | calls stage _ =>
      rw [hs] at stage
      cases stage
      rfl
  | skips stage _ _ =>
      rw [hs] at stage
      cases stage
      rfl
  | delivers stage _ _ =>
      rw [hs] at stage
      cases stage
      rfl
  | discards _ stopped => simp [hl] at stopped
  | mismatches stage _ => rcases stage with stage | stage <;> simp [hs] at stage
  | stops stage _ => simp [hs] at stage
  | fails stage _ _ => simp [hs] at stage
  | wakes stage _ _ _ => simp [hs] at stage
  | collects stage _ _ _ => simp [hs] at stage
  | woke stage => simp [hs] at stage
  | turns stage => simp [hs] at stage
  | passesRead stage _ => simp [hs] at stage
  | reads stage _ _ => simp [hs] at stage
  | passesWrite stage _ => simp [hs] at stage
  | writes stage _ _ _ _ => simp [hs] at stage

/-- The events that the driver has not done with. -/
def Stage.events : Stage → List Event
  | outside => []
  | head => []
  | waking _ events => events
  | dispatching events => events
  | halfway e rest => e :: rest

/-- Only by waiting does the driver get new events: it goes on with the end of those it has. -/
lemma Advance.events {l l' : Loop ι} {notes : List (Note ι)} (h : Advance l l' notes)
    (hs : l.stage ≠ .head) : l'.stage.events <:+ l.stage.events := by
  cases h with
  | stops stage _ => exact absurd stage hs
  | fails stage _ _ => exact absurd stage hs
  | wakes stage _ _ _ => exact absurd stage hs
  | collects stage _ _ _ => exact absurd stage hs
  | woke stage => simp [stage, Stage.events]
  | discards stage _ => simp [stage, Stage.events]
  | calls stage _ => simp [stage, Stage.events]
  | skips stage _ _ => simp [stage, Stage.events]
  | delivers stage _ _ => simp [stage, Stage.events]
  | turns stage => simp [Stage.events]
  | passesRead stage _ => simp [stage, Stage.events]
  | reads stage _ _ => simp [stage, Stage.events]
  | passesWrite stage _ => simp [stage, Stage.events]
  | writes stage _ _ _ _ => simp [stage, Stage.events]
  | mismatches _ _ => simp [Stage.events]

/-- The half of an event that the driver hands out in its next move, if the event has this half. -/
def Stage.nextHalf? : Stage → Option (Token × Reactor.Direction)
  | dispatching (e :: _) => if e.readable then some (e.token, .reading) else none
  | halfway e _ => if e.writable then some (e.token, .writing) else none
  | _ => none

/-- What the driver starts for readiness is what the half leads to that it hands out. -/
lemma Advance.active_iff {l l' : Loop ι} {notes : List (Note ι)} (h : Advance l l' notes)
    (hl : l.active = none) {callback : CallbackId} {t : Token} {d : Reactor.Direction} :
    l'.active = some ⟨callback, .readiness t d⟩ ↔
      l.stage.nextHalf? = some (t, d) ∧ l.reactor.callbackOf t d = some callback := by
  cases h with
  | stops stage _ => simp [stage, Stage.nextHalf?]
  | fails stage _ _ => simp [stage, Stage.nextHalf?]
  | wakes stage _ _ _ => simp [stage, Stage.nextHalf?, hl]
  | collects stage _ _ _ => simp [stage, Stage.nextHalf?, hl]
  | woke stage => simp [stage, Stage.nextHalf?, hl]
  | discards stage _ => simp [stage, Stage.nextHalf?, hl]
  | calls stage _ => simp [stage, Stage.nextHalf?]
  | skips stage _ _ => simp [stage, Stage.nextHalf?, hl]
  | delivers stage _ _ => simp [stage, Stage.nextHalf?]
  | turns stage => simp [stage, Stage.nextHalf?, hl]
  | passesRead stage nobody =>
      rw [hl, stage, Stage.nextHalf?]
      refine iff_of_false (by simp) fun ⟨hhalf, hcallback⟩ => ?_
      rw [Option.ite_none_right_eq_some, Option.some.injEq, Prod.mk.injEq] at hhalf
      obtain ⟨hreadable, rfl, rfl⟩ := hhalf
      rw [nobody hreadable] at hcallback
      cases hcallback
  | @reads e _ _ stage readable handler =>
      have hhalf : l.stage.nextHalf? = some (e.token, .reading) := by
        rw [stage, Stage.nextHalf?, if_pos readable]
      rw [hhalf]
      constructor
      · intro hactive
        cases hactive
        exact ⟨rfl, handler⟩
      · rintro ⟨heq, hcallback⟩
        cases heq
        rw [handler, Option.some.injEq] at hcallback
        rw [hcallback]
  | passesWrite stage nobody =>
      rw [hl, stage, Stage.nextHalf?]
      refine iff_of_false (by simp) fun ⟨hhalf, hcallback⟩ => ?_
      rw [Option.ite_none_right_eq_some, Option.some.injEq, Prod.mk.injEq] at hhalf
      obtain ⟨hwritable, rfl, rfl⟩ := hhalf
      rw [nobody hwritable] at hcallback
      cases hcallback
  | @writes e _ _ _ handler' stage writable found armed handler =>
      have hhalf : l.stage.nextHalf? = some (e.token, .writing) := by
        rw [stage, Stage.nextHalf?, if_pos writable]
      have hcalls : l.reactor.callbackOf e.token .writing = some handler' := by
        simp [Reactor.callbackOf, found, armed, handler]
      rw [hhalf]
      constructor
      · intro hactive
        cases hactive
        exact ⟨rfl, hcalls⟩
      · rintro ⟨heq, hcallback⟩
        cases heq
        rw [hcalls, Option.some.injEq] at hcallback
        rw [hcallback]
  | @mismatches e _ _ stage mismatch =>
      refine iff_of_false (by simp) fun ⟨hhalf, hcallback⟩ => ?_
      -- the half has the token that leads to another registration
      have ht : t = e.token := by
        rcases stage with stage | stage
        all_goals
          rw [stage, Stage.nextHalf?, Option.ite_none_right_eq_some, Option.some.injEq,
            Prod.mk.injEq] at hhalf
          exact hhalf.2.1.symm
      simp [ht, Reactor.callbackOf, mismatch] at hcallback

lemma Stage.exists_event_of_nextHalf? {stage : Stage} {t : Token} {d : Reactor.Direction}
    (h : stage.nextHalf? = some (t, d)) : ∃ e ∈ stage.events, e.token = t := by
  cases stage with
  | dispatching events =>
      cases events with
      | nil => cases h
      | cons e rest =>
          rw [nextHalf?, Option.ite_none_right_eq_some, Option.some.injEq, Prod.mk.injEq] at h
          exact ⟨e, List.mem_cons_self .., h.2.1⟩
  | halfway e rest =>
      rw [nextHalf?, Option.ite_none_right_eq_some, Option.some.injEq, Prod.mk.injEq] at h
      exact ⟨e, List.mem_cons_self .., h.2.1⟩
  | _ => cases h

/-- A callback that is started for readiness is the one that half of a pending event leads to. -/
lemma Advance.readiness {l l' : Loop ι} {notes : List (Note ι)} (h : Advance l l' notes)
    (hl : l.active = none) {callback : CallbackId} {t : Token} {d : Reactor.Direction}
    (ha : l'.active = some ⟨callback, .readiness t d⟩) :
    (∃ e ∈ l.stage.events, e.token = t) ∧ l.reactor.callbackOf t d = some callback := by
  obtain ⟨hhalf, hcallback⟩ := (h.active_iff hl).mp ha
  exact ⟨Stage.exists_event_of_nextHalf? hhalf, hcallback⟩

/-- The driver changes a registration only where it starts a write callback, which it disarms. -/
lemma Advance.registry {l l' : Loop ι} {notes : List (Note ι)} (h : Advance l l' notes)
    (hl : l.active = none) :
    l'.reactor.registry = l.reactor.registry ∧
        (∀ callback t, l'.active ≠ some ⟨callback, .readiness t .writing⟩) ∨
      ∃ t fd registration callback, l.reactor.registry.resolve t = .found fd registration ∧
        registration.armed = true ∧ registration.write = some callback ∧
        l'.reactor = (l.reactor.takeWrite fd registration).1 ∧
        l'.active = some ⟨callback, .readiness t .writing⟩ := by
  cases h with
  | writes _ _ found armed handler => exact .inr ⟨_, _, _, _, found, armed, handler, rfl, rfl⟩
  | delivers _ _ _ =>
      refine .inl ⟨?_, by simp⟩
      rw [Reactor.takeDelivery]
      dsimp only
      split
      · rfl
      · split <;> rfl
  | _ => exact .inl ⟨rfl, by simp [hl]⟩

end Loop

end EventLoop
