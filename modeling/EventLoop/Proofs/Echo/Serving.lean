import EventLoop.Proofs.Echo.Idle
import EventLoop.Proofs.Echo.Wiring
import EventLoop.Proofs.Timer.Moves

/-!
The tables of the echo server while it serves its connections.

* `Server.Orderly` says that the pending timers are the idle timers of the connections, and that the
  reactor has the callbacks of the connections.
* `Server.Kept` is what does not change while connections are served: `Server.stray` are the
  callbacks for other descriptors, and `Server.account` counts how often a connection was ended, and
  whether it is open.
* `touch_of_unknown` and `close_of_unknown` say that neither touching nor closing does anything to
  what is no connection.
* `Doing.orderly` is the main statement here: whatever the server does for a connection keeps its
  tables consistent.
-/

namespace EventLoop.Echo.Server

open Reactor (Direction)

/-! ### Touching and closing -/

/-- The timers are the idle timers of the connections and can be restarted, and the reactor has the
callbacks of the connections and no other callback of the server. -/
structure Orderly (s : Server) : Prop where
  timed : Timed s.scheduler.timers s.connections
  early : s.scheduler.clock + idleTimeout ≤ Instant.latest
  wired : Wired s.loop s.handlers fun fd _ => s.connections[fd]? ≠ none

/-- The callback that a descriptor has in a direction without being a connection. -/
def stray (s : Server) (fd : Fd) (d : Direction) : Option CallbackId :=
  if (s.connections[fd]?).isSome then none else s.loop.reactor.handlerOf fd d

/-- How often a connection was ended, with one more while it is open. -/
def account (s : Server) (fd : Fd) : Nat :=
  s.printed.count (.closed fd) + if (s.connections[fd]?).isSome then 1 else 0

/-- No connection was begun, and the callbacks of other descriptors are the same. -/
structure Kept (s s' : Server) : Prop where
  stray : ∀ fd d, s'.stray fd d = s.stray fd d
  account : ∀ fd, s'.account fd = s.account fd

lemma Kept.refl (s : Server) : Kept s s := ⟨fun _ _ => rfl, fun _ => rfl⟩

lemma Kept.trans {s s' s'' : Server} (h : Kept s s') (h' : Kept s' s'') : Kept s s'' :=
  ⟨fun fd d => (h'.stray fd d).trans (h.stray fd d),
    fun fd => (h'.account fd).trans (h.account fd)⟩

/-- Where the connections and their timers stay. -/
lemma Orderly.steady {s t : Server} (h : Orderly s) (hloop : s.loop.Steady t.loop)
    (hscheduler : t.scheduler = s.scheduler)
    (hconnections : t.connections = s.connections) (hhandlers : t.handlers = s.handlers)
    (hprinted : ∀ fd, t.printed.count (.closed fd) = s.printed.count (.closed fd)) :
    Orderly t ∧ Kept s t := by
  refine ⟨⟨?_, hscheduler ▸ h.early, ?_⟩, fun fd d => ?_, fun fd => ?_⟩
  · rw [hscheduler, hconnections]
    exact h.timed
  · rw [hconnections, hhandlers]
    exact h.wired.steady hloop
  · rw [stray, stray, hconnections, hloop.handlerOf]
  · rw [account, account, hconnections, hprinted]

lemma Orderly.refl {s : Server} (h : Orderly s) : s.loop.Steady s.loop :=
  Loop.steady_refl h.wired.agreed h.wired.attentive

/-- Before the end of time an idle timer can be started. -/
lemma schedule_idle {s : Scheduler Fd} (h : s.clock + idleTimeout ≤ Instant.latest) (fd : Fd) :
    s.schedule idleTimeout 0 fd =
      ({ s with timers := (s.timers.insert (s.clock + idleTimeout) fd).1 },
        some s.timers.nextId) := by
  rw [Scheduler.schedule_of_deadline (Instant.deadline?_of_le h), Scheduler.pass_zero]

/-- A touch of a descriptor that is no connection leaves no timer behind: only a number is used
up. -/
lemma touch_of_unknown {s : Server} (h : Orderly s) {fd : Fd}
    (hfd : s.connections[fd]? = none) :
    s.touch fd = { s with
      scheduler := { s.scheduler with
        timers := { s.scheduler.timers with nextId := s.scheduler.timers.nextId + 1 } } } := by
  rw [touch, schedule_idle h.early]
  simp only [hfd, Scheduler.cancel]
  rw [Timers.remove_insert h.timed.sound]

/-- A touch of a connection gives it another timer. -/
lemma touch_of_known {s : Server} (h : Orderly s) {fd : Fd} {id : TimerId}
    (hfd : s.connections[fd]? = some ⟨some id⟩) :
    s.touch fd = { s with
      connections := s.connections.insert fd ⟨some s.scheduler.timers.nextId⟩
      scheduler := { s.scheduler with
        timers := ((s.scheduler.timers.insert
          (s.scheduler.clock + idleTimeout) fd).1.remove id).1 } } := by
  rw [touch, schedule_idle h.early]
  simp only [hfd, Scheduler.cancel]

lemma close_of_unknown {s : Server} {fd : Fd} (hfd : s.connections[fd]? = none) :
    s.close fd = s := by
  rw [close, hfd]

lemma touch_orderly {s : Server} (h : Orderly s) (fd : Fd) :
    Orderly (s.touch fd) ∧ Kept s (s.touch fd) := by
  cases hfd : s.connections[fd]? with
  | none =>
      rw [touch_of_unknown h hfd]
      have hsound := h.timed.sound
      refine ⟨⟨⟨⟨hsound.sorted, hsound.index, fun e he => ?_⟩, h.timed.idle, h.timed.owner⟩,
        h.early, h.wired⟩, fun _ _ => rfl, fun _ => rfl⟩
      exact Nat.lt_succ_of_lt (hsound.issued e he)
  | some c =>
      obtain ⟨d, id, rfl, -⟩ := h.timed.idle fd c hfd
      rw [touch_of_known h hfd]
      -- the touched connection was open before
      have hopen : ∀ x : Fd, ((s.connections.insert fd
          ⟨some s.scheduler.timers.nextId⟩)[x]?).isSome = (s.connections[x]?).isSome := by
        intro x
        rw [Std.ExtTreeMap.getElem?_insert]
        split
        · next heq =>
            obtain rfl : fd = x := by simpa using heq
            rw [hfd]
            rfl
        · rfl
      refine ⟨⟨h.timed.restarted hfd _, h.early, h.wired.congr fun x d => ?_⟩, fun x d => ?_,
        fun x => ?_⟩
      · rw [← Option.isSome_iff_ne_none, ← Option.isSome_iff_ne_none, hopen]
      · rw [stray, stray, hopen]
      · rw [account, account, hopen]

/-- What closing a connection does, whichever of its callbacks are registered by then. -/
lemma close_of_known {s : Server} {W : Fd → Direction → Prop} {fd : Fd}
    (htimed : Timed s.scheduler.timers s.connections) (hwired : Wired s.loop s.handlers W)
    (hfd : s.connections[fd]? ≠ none) :
    Timed (s.close fd).scheduler.timers (s.close fd).connections ∧
      Wired (s.close fd).loop (s.close fd).handlers (fun x d => W x d ∧ fd ≠ x) ∧
      (s.close fd).connections = s.connections.erase fd ∧
      (s.close fd).printed = .closed fd :: s.printed ∧
      ∀ x d, (s.close fd).loop.reactor.handlerOf x d =
        if fd = x then none else s.loop.reactor.handlerOf x d := by
  obtain ⟨c, hc⟩ := Option.ne_none_iff_exists'.mp hfd
  obtain ⟨d, id, rfl, -⟩ := htimed.idle fd c hc
  have hunwired := hwired.unwire fd
  have hsteady := Loop.steady_of_stirred hunwired.agreed hunwired.attentive
    (Kernel.stirred_shut (s.loop.remove fd .both).1.reactor.kernel fd true true)
  simp only [close, hc]
  exact ⟨htimed.withdrawn hc, hunwired.steady hsteady, rfl, rfl,
    fun x d => Reactor.handlerOf_remove_both hwired.agreed fd x d⟩

/-- Closing takes no time. -/
@[simp] lemma close_clock (s : Server) (fd : Fd) :
    (s.close fd).scheduler.clock = s.scheduler.clock := by
  rw [close]
  split
  · rfl
  · next connection _ => cases hidle : connection.idle <;> rfl

lemma isSome_erase (connections : Std.ExtTreeMap Fd Connection) (fd x : Fd) :
    ((connections.erase fd)[x]?).isSome = (decide (fd ≠ x) && (connections[x]?).isSome) := by
  by_cases hx : fd = x <;> simp [Std.ExtTreeMap.getElem?_erase, hx]

/-- An end of a connection is printed, and the connection is not open any more. -/
lemma account_of_closed {s s' : Server} {fd : Fd} (hfd : s.connections[fd]? ≠ none)
    (hconnections : s'.connections = s.connections.erase fd)
    (hprinted : s'.printed = .closed fd :: s.printed) (x : Fd) : s'.account x = s.account x := by
  rw [account, account, hconnections, hprinted, isSome_erase]
  by_cases hx : fd = x
  · subst hx
    simp [Option.isSome_iff_ne_none.mpr hfd]
  · simp [hx]

lemma close_orderly {s : Server} (h : Orderly s) (fd : Fd) :
    Orderly (s.close fd) ∧ Kept s (s.close fd) := by
  by_cases hfd : s.connections[fd]? = none
  · rw [close_of_unknown hfd]
    exact ⟨h, .refl s⟩
  · obtain ⟨htimed, hwired, hconnections, hprinted, hhandlerOf⟩ :=
      close_of_known h.timed h.wired hfd
    refine ⟨⟨htimed, by rw [close_clock]; exact h.early, hwired.congr fun x d => ?_⟩,
      fun x d => ?_, account_of_closed hfd hconnections hprinted⟩
    · rw [hconnections, ← Option.isSome_iff_ne_none, isSome_erase]
      simp [and_comm]
    · rw [stray, stray, hconnections, hhandlerOf, isSome_erase]
      by_cases hx : fd = x
      · subst hx
        simp [Option.isSome_iff_ne_none.mpr hfd]
      · simp [hx]

/-! ### Serving connections -/

lemma assign_orderly {s : Server} (h : Orderly s) (fd : Fd) (request : List UInt8) :
    Orderly (s.assign fd request) ∧ Kept s (s.assign fd request) := by
  rw [assign]
  split
  · exact h.steady h.refl rfl rfl rfl fun _ => rfl
  · exact h.steady h.refl rfl rfl rfl fun _ => by simp [print]
  · exact ⟨h, .refl s⟩

lemma answer_orderly {s : Server} (h : Orderly s) (fd : Fd) (bytes : List UInt8) :
    Orderly (s.answer fd bytes) ∧ Kept s (s.answer fd bytes) :=
  h.steady (Loop.steady_requestWrite h.wired.agreed h.wired.attentive fd) rfl rfl rfl fun _ => rfl

lemma finishJob_orderly {s : Server} (h : Orderly s) :
    Orderly s.finishJob ∧ Kept s s.finishJob := by
  cases hjob : s.job with
  | none =>
      rw [finishJob_of_none hjob]
      exact ⟨h, .refl s⟩
  | some job =>
      rw [finishJob_eq hjob]
      obtain ⟨hanswer, hkept⟩ := answer_orderly h job.fd (reply job.request)
      exact ⟨⟨hanswer.timed, hanswer.early, hanswer.wired⟩, hkept.stray, hkept.account⟩

/-- **Whatever the server does for a connection keeps its tables consistent.** -/
theorem Doing.orderly {fd : Fd} {s s' : Server} (hdoing : Doing fd s s') (h : Orderly s) :
    Orderly s' ∧ Kept s s' := by
  have hstirred {k : Kernel} (hk : s.kernel.Stirred k) :=
    Loop.steady_of_stirred h.wired.agreed h.wired.attentive hk
  cases hdoing with
  | receives most =>
      exact h.steady (hstirred (Kernel.stirred_receive s.kernel fd most)) rfl rfl rfl fun _ => rfl
  | sends sent => exact h.steady (hstirred (Kernel.stirred_send sent)) rfl rfl rfl fun _ => rfl
  | drops count => exact h.steady h.refl rfl rfl rfl fun _ => rfl
  | requests =>
      exact h.steady (Loop.steady_requestWrite h.wired.agreed h.wired.attentive fd) rfl rfl rfl
        fun _ => rfl
  | touches => exact touch_orderly h fd
  | closes => exact close_orderly h fd
  | complains error => exact h.steady h.refl rfl rfl rfl fun _ => by simp [print]
  | completes => exact finishJob_orderly h
  | assigns request _ => exact assign_orderly h fd request

lemma Doings.orderly {fd : Fd} {s s' : Server} (hdoings : Doings fd s s') (h : Orderly s) :
    Orderly s' ∧ Kept s s' := by
  induction hdoings with
  | refl => exact ⟨h, .refl s⟩
  | tail _ hdoing ih =>
      obtain ⟨hmiddle, hkept⟩ := ih
      obtain ⟨hlast, hkept'⟩ := hdoing.orderly hmiddle
      exact ⟨hlast, hkept.trans hkept'⟩

lemma turn_orderly {s : Server} (h : Orderly s) : Orderly s.turn ∧ Kept s s.turn := by
  rw [turn]
  split
  · next a _ =>
      have hhandled : ∃ fd, Doings fd s (s.handlers[a.callback]?.elim s s.handle) := by
        cases s.handlers[a.callback]? with
        | none => exact ⟨0, .refl⟩
        | some handler => exact handle_doings s handler
      obtain ⟨fd, hdoings⟩ := hhandled
      generalize s.handlers[a.callback]?.elim s s.handle = s₁ at hdoings
      obtain ⟨h₁, hkept⟩ := hdoings.orderly h
      obtain ⟨h₂, hkept'⟩ := h₁.steady
        (t := { s₁ with loop := s₁.loop.finish.elim s₁.loop (·.1) })
        (Loop.steady_finish h₁.wired.agreed h₁.wired.attentive) rfl rfl rfl fun _ => rfl
      exact ⟨h₂, hkept.trans hkept'⟩
  · exact h.steady (Loop.steady_advance h.wired.agreed h.wired.attentive) rfl rfl rfl fun _ => rfl

end EventLoop.Echo.Server
