import EventLoop.Log
import EventLoop.Timer.Table

/-!
The scheduler fires what it holds when its time has come. A run of it fires one due timer after the
other and ends once the scheduler is stopped. What a timer fires may use the scheduler again, and
even run it; so runs are nested, and each of them either waits or is firing a timer.

* `Scheduler` is the table of timers, the clock and the runs in progress.
* `Scheduler.schedule`, `Scheduler.scheduleAt`, `Scheduler.cancel` and `Scheduler.stop` can be used
  at any moment.
* `Scheduler.enter` begins a run and `Scheduler.turn` lets the innermost run, which waits, take its
  next turn; `Scheduler.finish` and `Scheduler.unwind` end what it is firing.
* `Scheduler.yieldRuns` lets the outer runs go on before the inner ones, as they do if they belong
  to another thread.
* `Scheduler.Move` lists all of these, and `Scheduler.step` makes one move.
-/

namespace EventLoop

/-- A run of the scheduler in progress. -/
inductive SchedulerRun (α : Type) where
  /-- About to look for the next timer. -/
  | waiting
  | firing (id : TimerId) (payload : α)

/-- A scheduler whose timers carry what they fire. -/
structure Scheduler (α : Type) where
  timers : Timers α
  clock : Instant
  /-- The runs in progress, the innermost first. -/
  runs : List (SchedulerRun α)

namespace Scheduler

variable {α : Type}

/-- What happens in a scheduler. -/
inductive Note where
  | scheduled (id : TimerId)
  | cancelled (id : TimerId)
  | running
  | firing (id : TimerId)
  | stopped (pending : Nat)
deriving DecidableEq

/-- The log line of a happening. -/
def Note.log : Note → LogLine
  | scheduled id => .trace s!"scheduled {id.render}"
  | cancelled id => .trace s!"cancelled {id.render}"
  | running => .debug "scheduler running"
  | firing id => .trace s!"firing {id.render}"
  | stopped pending => .debug s!"scheduler stopped ({pending} pending)"

/-- A scheduler without timers. -/
def start (clock : Instant) : Scheduler α := ⟨.empty, clock, []⟩

/-- Adds a timer for a moment. -/
def scheduleAt (s : Scheduler α) (deadline : Instant) (payload : α) : Scheduler α × TimerId :=
  let (timers, id) := s.timers.insert deadline payload
  ({ s with timers }, id)

/-- Time passes. -/
def pass (s : Scheduler α) (delay : Delay) : Scheduler α := { s with clock := s.clock + delay }

/-- Adds a timer for the moment a delay from now. It takes a while, the lag, and where the clock is
read a second time it is read then. Without a deadline nothing is added, and the caller panics. -/
def schedule (s : Scheduler α) (delay lag : Delay) (payload : α) : Scheduler α × Option TimerId :=
  match Instant.deadline? s.clock (s.pass lag).clock delay with
  | none => (s.pass lag, none)
  | some deadline =>
    let (s, id) := (s.pass lag).scheduleAt deadline payload
    (s, some id)

/-- Withdraws a timer and hands back what it would have fired, if it is pending. -/
def cancel (s : Scheduler α) (id : TimerId) : Scheduler α × Option α :=
  let (timers, removed) := s.timers.remove id
  ({ s with timers }, removed)

/-- Stops the scheduler: no run fires anything any more. -/
def stop (s : Scheduler α) : Scheduler α := { s with timers := s.timers.stop }

/-- Whether the scheduler was stopped. -/
def isStopped (s : Scheduler α) : Bool := s.timers.stopped

/-- How many timers are pending. -/
def pending (s : Scheduler α) : Nat := s.timers.size

/-- Begins a run, inside of those in progress. -/
def enter (s : Scheduler α) : Scheduler α := { s with runs := .waiting :: s.runs }

/-- What the innermost run, while it waits, does next. -/
inductive Turn (α : Type) where
  /-- The run ends, with so many timers pending. -/
  | leaves (next : Scheduler α) (pending : Nat)
  | fires (next : Scheduler α) (id : TimerId) (payload : α)
  /-- Nothing is due. -/
  | waits
  /-- No run is waiting. -/
  | busy

/-- The next turn of the innermost run: it ends if the scheduler was stopped, and fires the first
timer that is due otherwise. -/
def turn (s : Scheduler α) : Turn α :=
  match s.runs with
  | .waiting :: outer =>
    if s.isStopped then .leaves { s with runs := outer } s.pending
    else
      match s.timers.popDue s.clock with
      | (timers, some (id, payload)) =>
        .fires { s with timers, runs := .firing id payload :: outer } id payload
      | (_, none) => .waits
  | _ => .busy

/-- What the innermost run was firing has come to its end; the run goes on. -/
def finish (s : Scheduler α) : Option (Scheduler α) :=
  match s.runs with
  | .firing _ _ :: outer => some { s with runs := .waiting :: outer }
  | _ => none

/-- What the innermost run was firing has panicked; the run is over. -/
def unwind (s : Scheduler α) : Option (Scheduler α) :=
  match s.runs with
  | .firing _ _ :: outer => some { s with runs := outer }
  | _ => none

/-- Waits until the earliest deadline, if that is still to come. -/
def sleep (s : Scheduler α) : Scheduler α :=
  match s.timers.nextDeadline? with
  | none => s
  | some deadline => s.pass (deadline - s.clock).toNat

/-- So many of the innermost runs wait for the others: they step behind all other runs, in the same
order. -/
def yieldRuns (s : Scheduler α) (count : Nat) : Scheduler α :=
  { s with runs := s.runs.drop count ++ s.runs.take count }

/-- Yielding changes the order of the runs, and loses none. -/
theorem runs_yieldRuns_perm (s : Scheduler α) (count : Nat) :
    (s.yieldRuns count).runs.Perm s.runs :=
  List.perm_append_comm.trans (by rw [List.take_append_drop])

/-- What can happen to a scheduler. -/
inductive Move (α : Type) where
  | schedule (delay lag : Delay) (payload : α)
  | scheduleAt (deadline : Instant) (payload : α)
  | cancel (id : TimerId)
  | stop
  | enter
  | advance
  | finish
  | unwind
  | pass (delay : Delay)
  | yieldRuns (count : Nat)

/-- Makes one move, if it is possible, and says what happened. -/
def step (s : Scheduler α) : Move α → Option (Scheduler α × List Note)
  | .schedule delay lag payload =>
    match s.schedule delay lag payload with
    | (s, none) => some (s, [])
    | (s, some id) => some (s, [.scheduled id])
  | .scheduleAt deadline payload =>
    let (s, id) := s.scheduleAt deadline payload
    some (s, [.scheduled id])
  | .cancel id =>
    match s.cancel id with
    | (s, none) => some (s, [])
    | (s, some _) => some (s, [.cancelled id])
  | .stop => some (s.stop, [])
  | .enter => some (s.enter, [.running])
  | .advance =>
    match s.turn with
    | .leaves s pending => some (s, [.stopped pending])
    | .fires s id _ => some (s, [.firing id])
    | .waits => none
    | .busy => none
  | .finish => s.finish.map (·, [])
  | .unwind => s.unwind.map (·, [])
  | .pass delay => some (s.pass delay, [])
  | .yieldRuns count => some (s.yieldRuns count, [])

end Scheduler

end EventLoop
