import EventLoop.Reactor.Loop
import EventLoop.Session.Descriptors
import EventLoop.Session.Script

/-!
Sessions with a reactor and its queues, whose callbacks follow scripts.

* `Reacting.Op` is what can be done, by the session and by its callbacks; `Reacting.Reply` is what
  comes back.
* `Reacting` is the reactor with its driver, the jobs of the callbacks and the record of what
  happened.
* `Reacting.drive` lets a run go on until it is over, and `Reacting.perform` does one operation.
-/

namespace EventLoop.Session

namespace Reacting

variable {ν : Type}

/-- The operations of a session; `ν` is what items are and what a note says. -/
inductive Op (ν : Type) where
  | add (fd : Fd) (interest : Interest) (callback : Option (Script (Op ν)))
  | remove (fd : Fd) (interest : Interest)
  | requestWrite (fd : Fd)
  | registered
  | isStopped
  | stop
  | wake (callback : Option (Script (Op ν)))
  /-- A run that a guard ends after so many more rounds. -/
  | run (rounds : Nat)
  | push (queue : QueueId) (item : ν)
  | setConsumer (queue : QueueId) (callback : Option (Script (Op ν)))
  | clearConsumer (queue : QueueId)
  | drain (queue : QueueId)
  | length (queue : QueueId)
  | breakWatching
  | breakWakeup
  | file (op : Descriptors.Op)
  | note (value : ν)
  | panic (message : String)
  | unknown

instance : Inhabited (Op ν) := ⟨.unknown⟩

/-- How a run ended. -/
inductive Outcome where
  | stopped
  | panicked (reason : Panic)
  | failed (error : OsError)

/-- What an operation answers. -/
inductive Reply (ν : Type) where
  | done
  | flag (value : Bool)
  | count (value : Nat)
  | items (values : List ν)
  | length (value : Nat)
  | file (answer : Descriptors.Answer)
  | note (value : ν)
  | ended (outcome : Outcome)
  | unknown

/-- What a callback of a session does. -/
inductive Job (ν : Type) where
  /-- A callable that holds nothing. -/
  | empty
  | script (script : Script (Op ν)) (runs : Nat)
  /-- Ends the run after so many more rounds. -/
  | guard (rounds : Nat)

end Reacting

/-- A session with a reactor. -/
structure Reacting (ν : Type) where
  loop : Loop ν
  /-- What the callbacks do that were handed over. -/
  jobs : Std.ExtTreeMap CallbackId (Reacting.Job ν)
  /-- What the running callback still has to do. -/
  todo : List (Reacting.Op ν)
  /-- Why the running callback broke off. -/
  reason : Panic
  /-- What happened during the current operation, the latest first. -/
  record : List (Happening ν (Reacting.Reply ν))
  /-- What was logged during the current operation, the latest first. -/
  lines : List LogLine
  /-- How the latest run ended. -/
  outcome : Option Reacting.Outcome

namespace Reacting

variable {ν : Type}

/-- Records what happened to the callbacks. -/
def tell (s : Reacting ν) (h : Happening ν (Reply ν)) : Reacting ν :=
  { s with record := h :: s.record }

/-- The job of a callback. -/
def job (s : Reacting ν) (id : CallbackId) : Job ν := s.jobs[id]?.getD .empty

/-- Lays down what the next callback handed over does. -/
def assign (s : Reacting ν) (job : Job ν) : Reacting ν :=
  { s with jobs := s.jobs.insert s.loop.nextCallback job }

/-- The job of a callback that has not run yet. -/
def Job.of (callback : Option (Script (Op ν))) : Job ν :=
  match callback with
  | none => .empty
  | some plan => .script plan 0

/-- A callback begins to run. -/
def start (s : Reacting ν) (id : CallbackId) (role : Reactor.Role ν) : Reacting ν :=
  match s.job id with
  | .empty => { s with lines := .skippedEmpty :: s.lines, todo := [] }
  | .guard _ => { s with todo := [] }
  | .script plan runs =>
    let s := { s with jobs := s.jobs.insert id (.script plan (runs + 1)), todo := plan.round runs }
    match role with
    | .consumer _ items => s.tell (.consumed plan.tag runs items)
    | _ => s.tell (.ran plan.tag runs)

/-- A callback is released. -/
def release (s : Reacting ν) (id : CallbackId) : Reacting ν :=
  match s.job id with
  | .script plan _ => if plan.tracked then s.tell (.released plan.tag) else s
  | _ => s

/-- How a run ended, given what the callback that broke off said. -/
def Outcome.of (reason : Panic) : Reactor.Exit → Outcome
  | .stopped => stopped
  | .failed e => failed e
  | .panicked => panicked reason
  | .mismatched held asked => panicked (.message (Token.mismatch held asked))

/-- Takes note of what happened in the reactor. -/
def observe (s : Reacting ν) (n : Reactor.Note ν) : Reacting ν :=
  let s := { s with lines := n.log?.toList ++ s.lines }
  match n with
  | .started id role => s.start id role
  | .released id => s.release id
  | .left exit => { s with outcome := some (.of s.reason exit) }
  | _ => s

/-- Makes one move of the reactor, if it is possible. -/
def move (s : Reacting ν) (m : Loop.Move ν) : Reacting ν × Option (Loop.Reply ν) :=
  match s.loop.step m with
  | none => (s, none)
  | some (loop, reply, notes) => (notes.foldl observe { s with loop }, some reply)

/-- The reply of the session for one of the reactor. -/
def Reply.of : Option (Loop.Reply ν) → Reply ν
  | none => unknown
  | some .done => done
  | some (.flag b) => flag b
  | some (.count n) => count n
  | some (.items xs) => items xs
  | some (.file a) => file (.of a)

/-- Makes one move and answers what the reactor answers. -/
def moved (s : Reacting ν) (m : Loop.Move ν) : Reacting ν × Reply ν :=
  let (s, reply) := s.move m
  (s, .of reply)

/-- Does an operation that is answered at once. -/
def answerAtOnce (s : Reacting ν) : Op ν → Reacting ν × Reply ν
  | .add fd i callback => (s.assign (.of callback)).moved (.add fd i)
  | .remove fd i => s.moved (.remove fd i)
  | .requestWrite fd => s.moved (.requestWrite fd)
  | .registered => (s, .count s.loop.reactor.registered)
  | .isStopped => (s, .flag s.loop.reactor.stopped)
  | .stop => s.moved .stop
  | .wake none => s.moved (.wakeUp false)
  | .wake (some plan) => (s.assign (.of (some plan))).moved (.wakeUp true)
  | .push q item => s.moved (.push q item)
  | .setConsumer q callback => (s.assign (.of callback)).moved (.setConsumer q)
  | .clearConsumer q => s.moved (.clearConsumer q)
  | .drain q => s.moved (.drain q)
  | .length q => (s, .length (s.loop.reactor.queue q).items.length)
  | .breakWatching => s.moved .breakWatching
  | .breakWakeup => s.moved .breakWakeup
  | .file op =>
    if !op.inRange then (s, .file .badNumber)
    else
      match s.move (.file op.action) with
      | (s, none) => (s, .file .badNumber)
      | (s, reply) => (s, .of reply)
  | .note v => (s, .note v)
  | .run _ => (s, .unknown)
  | .panic _ => (s, .unknown)
  | .unknown => (s, .unknown)

/-- Hands over a guard that ends a run after so many more rounds. -/
def setGuard (s : Reacting ν) (rounds : Nat) : Reacting ν :=
  ((s.assign (.guard rounds)).move (.wakeUp true)).1

/-- The running callback panics. -/
def unwind (s : Reacting ν) (reason : Panic) : Reacting ν := ({ s with reason }.move .unwind).1

/-- The running callback does its next action, or comes to its end. -/
def act (s : Reacting ν) (id : CallbackId) : Reacting ν :=
  match s.job id with
  | .empty => (s.move .finish).1
  | .guard 0 => s.unwind .guard
  | .guard (rounds + 1) => ((s.setGuard rounds).move .finish).1
  | .script plan _ =>
    match s.todo with
    | [] => (s.move .finish).1
    | .panic message :: _ => s.unwind (.message message)
    | op :: todo =>
      let (s, reply) := { s with todo }.answerAtOnce op
      s.tell (.acted plan.tag reply)

/-- Lets a run go on until it is over, making so many moves at most. -/
def drive : Nat → Reacting ν → Reacting ν
  | 0, s => s
  | fuel + 1, s =>
    match s.loop.active with
    | some a => drive fuel (s.act a.callback)
    | none =>
      match s.loop.stage with
      | .outside => s
      | _ => drive fuel (s.move .advance).1

/-- How many moves a session makes at most for one operation. -/
def patience : Nat := 10000000

/-- Does one operation of the session. -/
def perform (s : Reacting ν) : Op ν → Reacting ν × Reply ν
  | .run rounds =>
    let s := drive patience ((({ s with outcome := none }.setGuard rounds).move .enter).1)
    (s, (s.outcome.map Reply.ended).getD .unknown)
  | op => s.answerAtOnce op

/-- A session with a fresh reactor. -/
def fresh (capacity : Nat) : Reacting ν :=
  { loop := .start (.boot none) capacity
    jobs := ∅
    todo := []
    reason := .guard
    record := []
    lines := (Reactor.Note.created capacity : Reactor.Note ν).log?.toList
    outcome := none }

/-- Takes what was recorded and logged during an operation, in order. -/
def takeRecord (s : Reacting ν) : Reacting ν × List (Happening ν (Reply ν)) × List LogLine :=
  ({ s with record := [], lines := [] }, s.record.reverse, s.lines.reverse)

end Reacting

end EventLoop.Session
