import EventLoop.Timer.Scheduler
import EventLoop.Session.Script

/-!
Sessions with a scheduler whose timers fire scripted callbacks.

* `Scheduling.Op` is what can be done, by the session and by its callbacks; `Scheduling.Reply` is
  what comes back.
* `Scheduling` is the scheduler with the callbacks in progress and the record of what happened.
* `Scheduling.drive` lets the callbacks and the runs in progress go on until the session is wanted
  again.
* `Scheduling.perform` does one operation of the session.
-/

namespace EventLoop.Session

namespace Scheduling

variable {ν : Type}

/-- The operations of a session; `ν` is what a note says. -/
inductive Op (ν : Type) where
  | scheduleAt (millis : Int) (callback : Option (Script (Op ν)))
  | schedule (delay : Delay) (callback : Option (Script (Op ν)))
  | cancel (id : TimerId)
  | stop
  | isStopped
  | pending
  | compare (a b : TimerId)
  /-- A run on the session's own thread, with a guard that ends it unless it is to wait. -/
  | run (guarded : Bool)
  /-- A run in the background, which rests between the operations of the session, or waits. -/
  | runBackground (rests : Bool)
  | join
  | note (value : ν)
  | panic (message : String)
  | unknown

instance : Inhabited (Op ν) := ⟨.unknown⟩

/-- How a run ended. -/
inductive Outcome where
  | stopped
  | panicked (reason : Panic)

/-- What an operation answers. -/
inductive Reply (ν : Type) where
  | done
  | flag (value : Bool)
  | count (value : Nat)
  | timer (id : TimerId)
  | order (value : Ordering)
  | note (value : ν)
  | ended (outcome : Option Outcome)
  | unknown

/-- What a timer of a session fires. -/
inductive Job (ν : Type) where
  /-- A callable that holds nothing. -/
  | empty
  | script (script : Script (Op ν))
  /-- Ends the run that fires it. -/
  | guard
  /-- Tells the session that the background run has come so far. -/
  | signal

/-- On whose behalf a run goes on. -/
inductive Origin where
  /-- The session waits for its end. -/
  | session
  /-- The callback of a tag waits for its end. -/
  | callback (tag : String)
  | background

/-- A run in progress, with what its callback still has to do. -/
structure Frame (ν : Type) where
  origin : Origin
  todo : List (Op ν)

/-- The background run of a session. -/
structure Background where
  /-- It rests in the signal callback between the operations. -/
  rests : Bool
  /-- How it ended, if it did. -/
  outcome : Option Outcome

end Scheduling

/-- A session with a scheduler. -/
structure Scheduling (ν : Type) where
  scheduler : Scheduler (Scheduling.Job ν)
  /-- One frame for each run in progress, the innermost first. -/
  frames : List (Scheduling.Frame ν)
  background : Option Scheduling.Background
  /-- A background run that was asked for and has not begun; the answer tells whether it rests. -/
  wanted : Option Bool
  /-- The log lines of the background run are not recorded. -/
  muted : Bool
  /-- What happened during the current operation, the latest first. -/
  record : List (Happening ν (Scheduling.Reply ν))
  /-- What was logged during the current operation, the latest first. -/
  lines : List LogLine
  /-- How the run that the session waited for ended. -/
  answer : Option Scheduling.Outcome

namespace Scheduling

variable {ν : Type}

/-- The session's clock: a thousand seconds after its origin. -/
def now : Instant := 1000000 * 1000000

/-- A session with a fresh scheduler. -/
def start : Scheduling ν := ⟨.start now, [], none, none, false, [], [], none⟩

/-- Writes a log line, unless the background run is at work. -/
def log (s : Scheduling ν) (line : LogLine) : Scheduling ν :=
  if s.muted then s else { s with lines := line :: s.lines }

/-- Records what happened to the callbacks. -/
def tell (s : Scheduling ν) (h : Happening ν (Reply ν)) : Scheduling ν :=
  { s with record := h :: s.record }

/-- Releases what a timer carried. -/
def release (s : Scheduling ν) : Job ν → Scheduling ν
  | .script script => if script.tracked then s.tell (.released script.tag) else s
  | _ => s

/-- Schedules a job for a moment. -/
def scheduleAt (s : Scheduling ν) (deadline : Instant) (job : Job ν) : Scheduling ν × TimerId :=
  let (scheduler, id) := s.scheduler.scheduleAt deadline job
  ({ s with scheduler }.log (Scheduler.Note.scheduled id).log, id)

/-- Schedules a job a delay from now. -/
def schedule (s : Scheduling ν) (delay : Delay) (job : Job ν) : Scheduling ν × Option TimerId :=
  match s.scheduler.schedule delay 0 job with
  | (scheduler, none) => ({ s with scheduler }.release job, none)
  | (scheduler, some id) => ({ s with scheduler }.log (Scheduler.Note.scheduled id).log, some id)

/-- The job of a callback. -/
def Job.of (callback : Option (Script (Op ν))) : Job ν :=
  match callback with
  | none => .empty
  | some plan => .script plan

/-- Begins a run. -/
def enter (s : Scheduling ν) (origin : Origin) : Scheduling ν :=
  { s with
    scheduler := s.scheduler.enter
    frames := ⟨origin, []⟩ :: s.frames }.log Scheduler.Note.running.log

/-- Begins a run, with a guard that ends it where one is asked for. -/
def run (s : Scheduling ν) (guarded : Bool) (origin : Origin) : Scheduling ν :=
  if guarded then (s.schedule 0 .guard).1.enter origin else s.enter origin

/-- The message of the panic where a moment cannot be represented. -/
def beyondTime : String := "overflow when adding duration to instant"

/-- Does an operation that is answered at once. -/
def answerAtOnce (s : Scheduling ν) : Op ν → Scheduling ν × Reply ν
  | .scheduleAt millis callback =>
    let (s, id) := s.scheduleAt (millis * 1000000) (.of callback)
    (s, .timer id)
  | .schedule delay callback =>
    match s.schedule delay (.of callback) with
    | (s, none) => (s, .ended (some (.panicked (.message beyondTime))))
    | (s, some id) => (s, .timer id)
  | .cancel id =>
    match s.scheduler.cancel id with
    | (_, none) => (s, .flag false)
    | (scheduler, some job) =>
      (({ s with scheduler }.log (Scheduler.Note.cancelled id).log).release job, .flag true)
  | .stop => ({ s with scheduler := s.scheduler.stop }, .done)
  | .isStopped => (s, .flag s.scheduler.isStopped)
  | .pending => (s, .count s.scheduler.pending)
  | .compare a b => (s, .order (Ord.compare a b))
  | .runBackground rests => ({ s with wanted := some rests }, .done)
  | .note v => (s, .note v)
  | _ => (s, .unknown)

/-- Tells whoever waits for a run how it ended. -/
def deliver (s : Scheduling ν) (origin : Origin) (outcome : Outcome) : Scheduling ν :=
  match origin with
  | .session => { s with answer := some outcome }
  | .callback tag => s.tell (.acted tag (.ended (some outcome)))
  | .background =>
    { s with background := s.background.map fun b => { b with outcome := some outcome } }

/-- The innermost callback panics: its run ends, and whoever waits for the run learns of it. -/
def unwind (s : Scheduling ν) (job : Job ν) (reason : Panic) : Scheduling ν :=
  match s.scheduler.unwind, s.frames with
  | some scheduler, frame :: outer =>
    ({ s with scheduler, frames := outer }.release job).deliver frame.origin (.panicked reason)
  | _, _ => s

/-- The innermost callback comes to its end, and its run goes on. -/
def finish (s : Scheduling ν) (job : Job ν) : Scheduling ν :=
  match s.scheduler.finish with
  | some scheduler => { s with scheduler }.release job
  | none => s

/-- Where a session stands after one move of the runs in progress. -/
inductive Progress (ν : Type) where
  /-- The runs go on. -/
  | goes (next : Scheduling ν)
  /-- The innermost run fires the signal of a number. -/
  | signalled (next : Scheduling ν) (id : TimerId)
  /-- The callback of a tag waits for the end of the background run. -/
  | joins (next : Scheduling ν) (tag : String)
  /-- The innermost run waits for something to fall due. -/
  | waits

/-- The tag under which the actions of a job are recorded. -/
def Job.tag : Job ν → String
  | .script plan => plan.tag
  | _ => ""

/-- The innermost callback does its next action, or comes to its end. -/
def act (s : Scheduling ν) (job : Job ν) : Progress ν :=
  match s.frames with
  | [] => .waits
  | frame :: outer =>
    match frame.todo with
    | [] => .goes (s.finish job)
    | op :: todo =>
      let s := { s with frames := { frame with todo } :: outer }
      match op with
      | .panic message => .goes (s.unwind job (.message message))
      | .run guarded => .goes (s.run guarded (.callback job.tag))
      | .join => .joins s job.tag
      | op =>
        match s.answerAtOnce op with
        | (s, .ended (some (.panicked reason))) => .goes (s.unwind job reason)
        | (s, reply) => .goes (s.tell (.acted job.tag reply))

/-- The innermost run has taken a timer and begins what it carries. -/
def fire (s : Scheduling ν) (id : TimerId) (job : Job ν) : Progress ν :=
  match job with
  | .empty => .goes ((s.log .skippedEmpty).finish job)
  | .guard => .goes (s.unwind job .guard)
  | .signal => .signalled s id
  | .script script =>
    let s := s.tell (.ran script.tag 0)
    match s.frames with
    | [] => .goes s
    | frame :: outer =>
      .goes { s with frames := { frame with todo := script.round 0 } :: outer }

/-- One move of the innermost run. -/
def advance (s : Scheduling ν) : Progress ν :=
  match s.scheduler.turn with
  | .leaves scheduler pending =>
    let s := { s with scheduler }.log (Scheduler.Note.stopped pending).log
    match s.frames with
    | [] => .goes s
    | frame :: outer => .goes ({ s with frames := outer }.deliver frame.origin .stopped)
  | .fires scheduler id job => ({ s with scheduler }.log (Scheduler.Note.firing id).log).fire id job
  | .waits => .waits
  | .busy =>
    match s.scheduler.runs with
    | .firing _ .signal :: _ => .goes (s.finish .signal)
    | .firing _ job :: _ => s.act job
    | _ => .waits

/-- What the session waits for while the runs in progress go on. -/
inductive Goal where
  /-- Its own run is over. -/
  | ownRun
  /-- The background run fires the signal of a number, or is over. -/
  | signal (id : TimerId)
  /-- The background run has nothing to do at the moment, or is over. -/
  | backgroundIdle
  /-- The background run is over. -/
  | backgroundEnd
deriving DecidableEq

/-- Whether the session has what it waited for. -/
def reached (s : Scheduling ν) : Goal → Bool
  | .ownRun => s.answer.isSome
  | _ => s.background.all (·.outcome.isSome)

/-- Whether the session waits so long that the next deadline comes. -/
def Goal.outlastsDeadlines : Goal → Bool
  | .ownRun => true
  | .backgroundEnd => true
  | _ => false

/-- How many runs the session has in progress on its own thread; they stand before those of the
background run. -/
def ownDepth (s : Scheduling ν) : Nat :=
  match s.frames.findIdx? (·.origin matches .session) with
  | none => 0
  | some i => i + 1

/-- The runs in the background go on while a callback of the session's own thread waits. -/
def yieldToBackground (s : Scheduling ν) : Scheduling ν :=
  let own := s.ownDepth
  { s with
    scheduler := s.scheduler.yieldRuns own
    frames := s.frames.drop own ++ s.frames.take own
    muted := true }

/-- Says how the background run ended, if there was one, and forgets it. -/
def collect (s : Scheduling ν) : Scheduling ν × Reply ν :=
  ({ s with background := none, wanted := none },
    .ended (s.background.bind (·.outcome)))

/-- Lets the runs in progress go on until the session has what it waits for, making so many moves
at most. A signal that nobody waits for is passed over. -/
def drive (goal : Goal) : Nat → Scheduling ν → Scheduling ν
  | 0, s => s
  | fuel + 1, s =>
    if s.reached goal then s
    else
      match s.advance with
      | .goes next => drive goal fuel next
      | .waits =>
        if goal.outlastsDeadlines then drive goal fuel { s with scheduler := s.scheduler.sleep }
        else s
      | .signalled next id => if goal = .signal id then next else drive goal fuel next
      | .joins next tag =>
        let (next, reply) :=
          if next.ownDepth = 0 then (next, .ended none)
          else collect { drive .backgroundEnd fuel next.yieldToBackground with muted := next.muted }
        drive goal fuel (next.tell (.acted tag reply))

/-- How many moves a session makes at most for one operation. -/
def patience : Nat := 10000000

/-- Lets the background run go on without recording its log lines. -/
def driveMuted (s : Scheduling ν) (goal : Goal) : Scheduling ν :=
  { drive goal patience { s with muted := true } with muted := false }

/-- Begins the background run that was asked for. -/
def beginWanted (s : Scheduling ν) : Scheduling ν :=
  match s.wanted with
  | none => s
  | some rests =>
    let s := { s with wanted := none, background := some ⟨rests, none⟩, muted := true }
    { s.enter .background with muted := false }

/-- After an operation of the session, the background run works off everything that is due before
a signal that is scheduled now. A run that does not rest goes on to wait. -/
def signal (s : Scheduling ν) : Scheduling ν :=
  match s.background with
  | none => s
  | some background =>
    if s.scheduler.isStopped then s
    else
      match s.schedule 0 .signal with
      | (s, none) => s
      | (s, some id) =>
        if background.outcome.isSome then s
        else
          let s := s.driveMuted (.signal id)
          if background.rests then s else s.driveMuted .backgroundIdle

/-- Does one operation of the session. -/
def perform (s : Scheduling ν) (op : Op ν) : Scheduling ν × Reply ν :=
  match op with
  | .run guarded =>
    let s := drive .ownRun patience ({ s with answer := none }.run guarded .session)
    (s.beginWanted.signal, .ended s.answer)
  | .join => (s.driveMuted .backgroundEnd).collect
  | op =>
    let (s, reply) := s.answerAtOnce op
    (s.beginWanted.signal, reply)

/-- Takes what was recorded and logged during an operation, in order. -/
def takeRecord (s : Scheduling ν) :
    Scheduling ν × List (Happening ν (Reply ν)) × List LogLine :=
  ({ s with record := [], lines := [] }, s.record.reverse, s.lines.reverse)

end Scheduling

end EventLoop.Session
