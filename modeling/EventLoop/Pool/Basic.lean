import EventLoop.Failure
import EventLoop.Log
import EventLoop.Text.Utf8

/-!
A pool of workers. Each worker has a slot that is handed one job at a time; the slots of workers
that have nothing to do stand on a list, and the one that came back last is used first. A worker
whose job panics is lost, and its slot stays taken.

* `Pool` is the state: slots, free list, the submissions that have chosen a slot and not handed
  their job over yet, and those that wait for a slot.
* `Pool.submit` chooses a slot for a new job, or has its submission sleep; `Pool.retry` is the same
  for a submission that was woken; `Pool.handOver` puts the job into the slot.
* `Pool.take`, `Pool.finish` and `Pool.lose` are what a worker does with a job; `Pool.release` gives
  its slot back.
* `Pool.stop` begins the shutdown, `Pool.leave` ends an idle worker, and `Pool.retire` is the whole
  shutdown of a pool without jobs.
* `Pool.Move` lists all of these, and `Pool.step` makes one move.
-/

namespace EventLoop

/-- The number of a job. Numbers are handed out in the order of submission. -/
abbrev JobId := Nat

/-- The number of a slot and of its worker. -/
abbrev SlotId := Nat

namespace Pool

/-- What the worker of a slot is doing. -/
inductive Worker where
  /-- Waiting for a job. -/
  | idle
  | running (job : JobId)
  /-- Lost in the panic of its job. -/
  | lost
  /-- Ended by the shutdown. -/
  | gone
deriving DecidableEq

/-- A worker with the place where its next job is put. -/
structure Slot where
  pending : Option JobId
  worker : Worker
deriving DecidableEq

/-- The slot of a worker that was just started. -/
def Slot.fresh : Slot := ⟨none, .idle⟩

/-- What the threads of workers are called where nothing else is asked for. -/
def defaultName : String := "treadle-worker"

/-- The name of the thread of a worker, given what the threads are called. -/
def threadName (name : String) (slot : SlotId) : String := s!"{name}-{slot}"

/-- The character that no name of a thread may contain, since it marks the end of names. -/
def endOfName : Char := Char.ofNat 0

/-- The complaint about a thread's name that contains the end of names: it tells the place of the
first one and all bytes of the name. -/
def unusableName (name : String) : String :=
  let bytes := Text.Utf8.toBytes name
  let place := bytes.findIdx (· == 0)
  let shown := String.intercalate ", " (bytes.map fun b => toString b.toNat)
  s!"thread name may not contain interior null bytes: NulError({place}, [{shown}])"

/-- Why a worker could not be started. -/
inductive SpawnFailure where
  /-- The system did not start its thread. -/
  | refused (error : SpawnError)
  /-- Its thread cannot be called so. -/
  | unusableName (name : String)
deriving DecidableEq

/-- The text for users. -/
def SpawnFailure.render : SpawnFailure → String
  | refused error => error.render
  | unusableName name => Pool.unusableName name

end Pool

/-- A pool of workers. -/
structure Pool where
  slots : List Pool.Slot
  /-- The slots of idle workers, the one to be used next in front. -/
  free : List SlotId
  /-- The submissions that have chosen a slot and not handed their job over yet. -/
  claims : List (JobId × SlotId)
  /-- How many submissions sleep until a slot is released. -/
  sleeping : Nat
  /-- How many submissions were woken by a release and have not looked for a slot again. -/
  woken : Nat
  /-- How many workers there may be; a pool without a limit always has room. -/
  limit : Option Nat
  /-- What the threads of the workers are called. -/
  name : String
  /-- How many more threads the system is going to start. -/
  threads : Option Nat
  stopping : Bool
  nextJob : JobId
deriving DecidableEq

namespace Pool

/-- What happens in a pool. -/
inductive Note where
  | spawned (slot : SlotId)
  | handedToIdle (slot : SlotId)
  | handedToNew (slot : SlotId)
  | workerLost
  | shutDown (workers : Nat)
deriving DecidableEq

/-- The log line of a happening. -/
def Note.log : Note → LogLine
  | spawned i => .debug s!"spawned worker #{i}"
  | handedToIdle i => .trace s!"job handed to idle worker #{i}"
  | handedToNew i => .trace s!"job handed to new worker #{i}"
  | workerLost => .warn "worker thread terminated by a panicking job"
  | shutDown workers => .debug s!"worker pool shut down ({workers} workers)"

/-- A pool without workers. -/
def start (limit : Option Nat) (name : String) (threads : Option Nat) : Pool :=
  ⟨[], [], [], 0, 0, limit, name, threads, false, 0⟩

/-- How many workers there are. -/
def size (p : Pool) : Nat := p.slots.length

/-- How many slots are not free. -/
def active (p : Pool) : Nat := p.slots.length - p.free.length

/-- Whether one more worker may be started. -/
def hasRoom (p : Pool) : Bool := p.limit.all fun limit => p.size < limit

/-- Starts a worker, unless its thread cannot be called as it should be, or the system does not
start another thread. -/
def spawn (p : Pool) : Except SpawnFailure (Pool × SlotId) :=
  let name := threadName p.name p.size
  if endOfName ∈ name.toList then .error (.unusableName name)
  else
    match p.threads with
    | some 0 => .error (.refused ⟨p.size, .os .wouldBlock⟩)
    | threads =>
      .ok ({ p with slots := p.slots ++ [.fresh], threads := threads.map (· - 1) }, p.size)

/-- Starts workers until the limit is reached. They stand on the free list, the latest in front. -/
def fill (p : Pool) : Nat → Pool × List Note × Option SpawnFailure
  | 0 => (p, [], none)
  | missing + 1 =>
    match p.spawn with
    | .error failure => (p, [], some failure)
    | .ok (q, i) =>
      let (q, notes, failure) := fill { q with free := i :: q.free } missing
      (q, .spawned i :: notes, failure)

/-- Starts all workers of a pool with a limit in advance. -/
def prestart (p : Pool) : Pool × List Note × Option SpawnFailure :=
  match p.limit with
  | none => (p, [], none)
  | some limit => p.fill (limit - p.size)

/-- What became of a submission. -/
inductive Submission where
  /-- It has chosen the slot of a worker. -/
  | accepted (job : JobId) (slot : SlotId)
  | failed (failure : SpawnFailure)
  /-- It has to wait for a slot. -/
  | full
deriving DecidableEq

/-- Notes that a new job is going to be handed to a slot. -/
def claim (p : Pool) (slot : SlotId) : Pool × Submission :=
  ({ p with claims := (p.nextJob, slot) :: p.claims, nextJob := p.nextJob + 1 },
    .accepted p.nextJob slot)

/-- Chooses a slot for a new job: a free one, or that of a new worker while there is room. A
submission that finds neither sleeps. -/
def submit (p : Pool) : Pool × Submission × List Note :=
  match p.free with
  | i :: free =>
    let (p, chosen) := { p with free }.claim i
    (p, chosen, [.handedToIdle i])
  | [] =>
    if p.hasRoom then
      match p.spawn with
      | .error failure => (p, .failed failure, [])
      | .ok (p, i) =>
        let (p, chosen) := p.claim i
        (p, chosen, [.spawned i, .handedToNew i])
    else ({ p with sleeping := p.sleeping + 1 }, .full, [])

/-- A submission that was woken looks for a slot again, like a new one. -/
def retry (p : Pool) : Option (Pool × Submission × List Note) :=
  if p.woken = 0 then none else some { p with woken := p.woken - 1 }.submit

/-- Replaces a slot. -/
def setSlot (p : Pool) (i : SlotId) (slot : Slot) : Pool := { p with slots := p.slots.set i slot }

/-- Hands a job over to the slot that its submission has chosen; a slot that holds a job refuses a
second one. -/
def handOver (p : Pool) (job : JobId) : Option Pool := do
  let i ← p.claims.lookup job
  let slot ← p.slots[i]?
  if slot.pending.isSome then none
  else
    some ({ p with claims := p.claims.filter (·.1 != job) }.setSlot i
      { slot with pending := some job })

/-- An idle worker takes the job out of its slot. -/
def take (p : Pool) (i : SlotId) : Option (Pool × JobId) := do
  let slot ← p.slots[i]?
  let job ← slot.pending
  if slot.worker = .idle then some (p.setSlot i ⟨none, .running job⟩, job) else none

/-- Puts a slot on the free list, and wakes one of the submissions that sleep. -/
def release (p : Pool) (i : SlotId) : Pool :=
  { p with
    free := i :: p.free
    sleeping := p.sleeping - 1
    woken := p.woken + min p.sleeping 1 }

/-- A worker is done with its job and gives its slot back. -/
def finish (p : Pool) (i : SlotId) : Option Pool := do
  let slot ← p.slots[i]?
  match slot.worker with
  | .running _ => some ((p.setSlot i { slot with worker := .idle }).release i)
  | _ => none

/-- The job of a worker panics, and the worker is lost. -/
def lose (p : Pool) (i : SlotId) : Option Pool := do
  let slot ← p.slots[i]?
  match slot.worker with
  | .running _ => some (p.setSlot i { slot with worker := .lost })
  | _ => none

/-- The shutdown begins. -/
def stop (p : Pool) : Pool := { p with stopping := true }

/-- An idle worker without a job ends during the shutdown. -/
def leave (p : Pool) (i : SlotId) : Option Pool := do
  let slot ← p.slots[i]?
  if p.stopping && slot.pending.isNone && slot.worker = .idle then
    some (p.setSlot i { slot with worker := .gone })
  else none

/-- The whole shutdown of a pool in which no job is left: it begins, and every worker that is not
lost ends. -/
def retire (p : Pool) : Pool := (List.range p.size).foldl (fun p i => (p.leave i).getD p) p.stop

/-- What the end of the shutdown reports: every lost worker, and how many workers there were. -/
def farewell (p : Pool) : List Note :=
  (p.slots.filter (·.worker = .lost)).map (fun _ => Note.workerLost) ++ [.shutDown p.size]

/-- What can happen to a pool. -/
inductive Move where
  | submit
  /-- A submission that was woken looks for a slot again. -/
  | retry
  | handOver (job : JobId)
  | take (slot : SlotId)
  | finish (slot : SlotId)
  | lose (slot : SlotId)
  | stop
  | leave (slot : SlotId)
deriving DecidableEq

/-- Makes one move, if it is possible. The shutdown does not begin while a submission is under way,
and nothing is submitted after it has begun. -/
def step (p : Pool) : Move → Option Pool
  | .submit => if p.stopping then none else some p.submit.1
  | .retry => if p.stopping then none else p.retry.map (·.1)
  | .handOver job => p.handOver job
  | .take i => (p.take i).map (·.1)
  | .finish i => p.finish i
  | .lose i => p.lose i
  | .stop => if p.claims = [] ∧ p.sleeping = 0 ∧ p.woken = 0 then some p.stop else none
  | .leave i => p.leave i

end Pool

end EventLoop
