import EventLoop.Pool.Builder
import EventLoop.Session.Script

/-!
Sessions with a worker pool. Jobs do operations of the session and may be held until they are
released; at most one submission waits for a worker.

* `Pooling.Op` is what can be done, by the session and by its jobs; `Pooling.Reply` is what comes
  back.
* `Pooling` is the pool with the held jobs, the waiting submission and the record.
* `Pooling.perform` does one operation of the session.
-/

namespace EventLoop.Session

namespace Pooling

/-- The operations of a session. -/
inductive Op where
  /-- Submits a job, or a callable that holds nothing. -/
  | submit (tag : String) (empty held panics : Bool) (actions : List Op)
  | release (tag : String)
  | stats
  | threadName
  | drop
  | unknown

instance : Inhabited Op := ⟨.unknown⟩

/-- A job of a session. -/
structure Job where
  tag : String
  /-- It is a callable that holds nothing. -/
  empty : Bool
  /-- It waits for its release once it has started. -/
  held : Bool
  /-- It panics in the end. -/
  panics : Bool
  actions : List Op

/-- A job that waits for its release on its worker. -/
structure Held where
  tag : String
  panics : Bool
  slot : SlotId
  /-- A later held job has the same tag, so that this one cannot be named any more. -/
  hidden : Bool

/-- How many workers are active, and how many there are. -/
structure Counts where
  active : Nat
  size : Nat

/-- What an operation answers. -/
inductive Reply where
  | submitted (worker : Option String) (counts : Counts)
  | failed (failure : Pool.SpawnFailure)
  /-- The submission waits. -/
  | blocked
  /-- Another submission waits. -/
  | refused
  /-- A job must not wait for a worker. -/
  | saturated
  | noPool
  | notHeld
  | released (counts : Counts) (unblocked : Option String)
  | stats (counts : Counts) (limit : Option Nat)
  | threadName (name : String)
  | dropped (tags : List String)
  | unknown

end Pooling

/-- A session with a worker pool. -/
structure Pooling where
  builder : PoolBuilder
  pool : Option Pool
  /-- The jobs that wait for their release, the latest first. -/
  held : List Pooling.Held
  /-- The job of the submission that sleeps in the pool. -/
  waiting : Option Pooling.Job
  /-- What happened during the current operation, the latest first. -/
  record : List (Happening Empty Pooling.Reply)
  /-- What was logged during the current operation, the latest first. -/
  lines : List LogLine

namespace Pooling

/-- A session with a pool. -/
def start (builder : PoolBuilder) (pool : Pool) : Pooling := ⟨builder, some pool, [], none, [], []⟩

/-- The counts of a pool. -/
def Counts.of (p : Pool) : Counts := ⟨p.active, p.size⟩

/-- The counts at present. -/
def counts (s : Pooling) : Counts := s.pool.elim ⟨0, 0⟩ Counts.of

/-- Changes the pool where the change is possible. -/
def change (s : Pooling) (f : Pool → Option Pool) : Pooling :=
  match s.pool.bind f with
  | none => s
  | some pool => { s with pool := some pool }

/-- Writes the log lines of what happened on the session's own thread. -/
def log (s : Pooling) (own : Bool) (notes : List Pool.Note) : Pooling :=
  if own then { s with lines := (notes.map Pool.Note.log).reverse ++ s.lines } else s

/-- A worker is through with a job: it is lost if the job panics. -/
def complete (s : Pooling) (slot : SlotId) (panics : Bool) : Pooling :=
  s.change fun p => if panics then p.lose slot else p.finish slot

/-- A started job waits for its release. -/
def hold (s : Pooling) (tag : String) (panics : Bool) (slot : SlotId) : Pooling :=
  let earlier := s.held.map fun h => { h with hidden := h.hidden || h.tag == tag }
  { s with held := ⟨tag, panics, slot, false⟩ :: earlier }

/-- The held job that a tag names. -/
def heldAs? (s : Pooling) (tag : String) : Option Held :=
  s.held.find? fun h => h.tag == tag && !h.hidden

/-- All held jobs go on. -/
def openAll (s : Pooling) : Pooling :=
  { s.held.foldl (fun s h => s.complete h.slot h.panics) s with held := [] }

/-- Shuts the pool down, after all held jobs went on. -/
def shutDown (s : Pooling) (own : Bool) : Pooling × Reply :=
  let tags := ((s.held.filter (!·.hidden)).map (·.tag)).mergeSort fun a b => decide (a ≤ b)
  let s := s.openAll
  let notes := s.pool.elim [] fun p => p.retire.farewell
  ({ s with pool := none }.log own notes, .dropped tags)

mutual

/-- A worker does the actions of its job. A held job then waits on its worker, any other one is
complete. -/
def runJob : Nat → Pooling → Job → SlotId → Pooling
  | 0, s, _, _ => s
  | fuel + 1, s, job, slot =>
    let s := job.actions.foldl (fun s op =>
      let (s, reply) := answer fuel s (some slot) op
      { s with record := .acted job.tag reply :: s.record }) s
    if job.held then s.hold job.tag job.panics slot
    else s.complete slot job.panics

/-- The job of a submission that was accepted is handed over and run. -/
def employ : Nat → Pooling → Job → JobId → SlotId → Pooling
  | 0, s, _, _, _ => s
  | fuel + 1, s, job, id, slot =>
    let s := (s.change (·.handOver id)).change fun p => (p.take slot).map (·.1)
    runJob fuel s job slot

/-- Does one operation, for a job on its worker or for the session itself. -/
def answer : Nat → Pooling → Option SlotId → Op → Pooling × Reply
  | 0, s, _, _ => (s, .unknown)
  | fuel + 1, s, worker, op =>
    let own := worker.isNone
    match op with
    | .submit tag empty held panics actions =>
      let job : Job :=
        if empty then ⟨tag, true, false, false, []⟩ else ⟨tag, false, held, panics, actions⟩
      match s.pool with
      | none => (s, .noPool)
      | some p =>
        if s.waiting.isSome then (s, .refused)
        else
          match p.submit with
          | (pool, .full, _) =>
            if own then ({ s with pool := some pool, waiting := some job }, .blocked)
            else (s, .saturated)
          | (pool, .failed e, notes) => ({ s with pool := some pool }.log own notes, .failed e)
          | (pool, .accepted id slot, notes) =>
            -- the log lines are those of the thread that submits
            let s := employ fuel ({ s with pool := some pool }.log own notes) job id slot
            let name := if empty then none else some (Pool.threadName s.builder.name slot)
            (s, .submitted name s.counts)
    | .release tag =>
      match s.heldAs? tag with
      | none => (s, .notHeld)
      | some h =>
        let s := { s with held := s.held.filter (·.slot != h.slot) }.complete h.slot h.panics
        match s.waiting, s.pool.bind Pool.retry with
        | some job, some (pool, .accepted id slot, _) =>
          let s := employ fuel { s with pool := some pool, waiting := none } job id slot
          (s, .released s.counts (some (Pool.threadName s.builder.name slot)))
        | _, _ => (s, .released s.counts none)
    | .stats =>
      match s.pool with
      | none => (s, .noPool)
      | some p => (s, .stats (.of p) p.limit)
    | .threadName =>
      match worker with
      | none => (s, .unknown)
      | some slot => (s, .threadName (Pool.threadName s.builder.name slot))
    | .drop =>
      match s.pool with
      | none => (s, .noPool)
      | some _ => if s.waiting.isSome then (s, .refused) else s.shutDown own
    | .unknown => (s, .unknown)

end

/-- How deeply jobs may submit jobs. -/
def depth : Nat := 1000000

/-- Does one operation of the session. -/
def perform (s : Pooling) (op : Op) : Pooling × Reply := answer depth s none op

/-- Takes what was recorded and logged during an operation, in order. -/
def takeRecord (s : Pooling) : Pooling × List (Happening Empty Reply) × List LogLine :=
  ({ s with record := [], lines := [] }, s.record.reverse, s.lines.reverse)

end Pooling

end EventLoop.Session
