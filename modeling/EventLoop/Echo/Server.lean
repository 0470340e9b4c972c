import EventLoop.Pool.Basic
import EventLoop.Reactor.Loop
import EventLoop.Timer.Scheduler

/-!
A server that answers every client with what the client sent, in capital letters. The reactor tells
it when a client can be read or written, a worker turns each request into a reply, and a timer for
each connection would close it after a while of silence.

* `Server` is the state: the reactor, the scheduler, the pool, the table of open connections, the
  replies that wait to be written, and the job that the worker is doing.
* `Server.connect`, `Server.touch` and `Server.close` begin a connection, restart its timer and end
  it.
* `Server.onReadable` and `Server.flush` are what the server does when it is called back.
* `Server.finishJob` is the end of the job in progress.
* `Server.turn` lets the driver of the reactor make one move, `Server.settle` works off everything.
-/

namespace EventLoop.Echo

/-- What the server reads at once at most. -/
def chunkSize : Nat := 1024

/-- How long a connection may be silent. -/
def idleTimeout : Delay := Delay.of 5 0

/-- The capital of an ASCII letter; any other byte stays as it is. -/
def capital (b : UInt8) : UInt8 := if 0x61 ≤ b ∧ b ≤ 0x7A then b - 0x20 else b

/-- The reply to a request. -/
def reply (request : List UInt8) : List UInt8 := request.map capital

/-- An open connection with its idle timer. -/
structure Connection where
  idle : Option TimerId
deriving DecidableEq

/-- A request that the worker is turning into a reply. -/
structure Job where
  fd : Fd
  request : List UInt8
  slot : SlotId

/-- What a callback of the server is for. -/
inductive Handler where
  | reader (fd : Fd)
  | writer (fd : Fd)
deriving DecidableEq

/-- What the server prints. -/
inductive Printed where
  | closed (fd : Fd)
  | writeFailed (error : OsError)
  | acceptFailed (error : OsError)
  | noWorker (failure : Pool.SpawnFailure)
deriving DecidableEq

/-- The echo server. -/
structure Server where
  loop : Loop Empty
  /-- The timers carry the connection that they are for. -/
  scheduler : Scheduler Fd
  pool : Pool
  connections : Std.ExtTreeMap Fd Connection
  /-- What is still to be written, also for connections that are closed. -/
  outboxes : Std.ExtTreeMap Fd (Array UInt8)
  handlers : Std.ExtTreeMap CallbackId Handler
  job : Option Job
  /-- What was printed, the latest first. -/
  printed : List Printed

namespace Server

/-- A server with so many workers, whose reactor waits. -/
def start (kernel : Kernel) (workers : Nat) : Server :=
  { loop := { Loop.start kernel Reactor.defaultCapacity with stage := .head }
    scheduler := .start 0
    pool := .start (some workers) Pool.defaultName none
    connections := ∅
    outboxes := ∅
    handlers := ∅
    job := none
    printed := [] }

/-- The operating system. -/
def kernel (s : Server) : Kernel := s.loop.reactor.kernel

/-- Replaces the state of the operating system. -/
def setKernel (s : Server) (kernel : Kernel) : Server :=
  { s with loop := { s.loop with reactor := { s.loop.reactor with kernel } } }

/-- Prints a line. -/
def print (s : Server) (line : Printed) : Server := { s with printed := line :: s.printed }

/-- What is still to be written to a connection. -/
def outbox (s : Server) (fd : Fd) : Array UInt8 := s.outboxes[fd]?.getD #[]

/-- Appends to what is still to be written. -/
def appendOutbox (s : Server) (fd : Fd) (bytes : List UInt8) : Server :=
  { s with outboxes := s.outboxes.alter fd fun old => some ((old.getD #[]).append bytes.toArray) }

/-- Forgets the first bytes of what is still to be written. -/
def dropOutbox (s : Server) (fd : Fd) (count : Nat) : Server :=
  { s with outboxes := s.outboxes.modify fd fun bytes => bytes.extract count }

/-! ### Connections -/

/-- Restarts the idle timer of a connection. A connection that is not open keeps none. The clock
does not come so far that there is no end of the timeout. -/
def touch (s : Server) (fd : Fd) : Server :=
  match s.scheduler.schedule idleTimeout 0 fd with
  | (_, none) => s
  | (scheduler, some timer) =>
    match s.connections[fd]? with
    | none => { s with scheduler := (scheduler.cancel timer).1 }
    | some connection =>
      { s with
        connections := s.connections.insert fd { connection with idle := some timer }
        scheduler :=
          match connection.idle with
          | none => scheduler
          | some previous => (scheduler.cancel previous).1 }

/-- Closes a connection, if it is open: its callbacks and its timer go, and nothing passes over it
any more. -/
def close (s : Server) (fd : Fd) : Server :=
  match s.connections[fd]? with
  | none => s
  | some connection =>
    let (loop, _) := s.loop.remove fd .both
    let s := { s with
      connections := s.connections.erase fd
      loop := loop
      scheduler :=
        match connection.idle with
        | none => s.scheduler
        | some timer => (s.scheduler.cancel timer).1 }
    (s.setKernel (s.kernel.shutBoth fd)).print (.closed fd)

/-- Registers a callback for a descriptor. -/
def register (s : Server) (fd : Fd) (i : Interest) (handler : Handler) : Server × Bool :=
  let handlers := s.handlers.insert s.loop.nextCallback handler
  let (loop, added, _) := s.loop.add fd i
  ({ s with loop, handlers }, added)

/-- Begins a connection. One that the reactor refuses is closed at once. -/
def connect (s : Server) (fd : Fd) : Server × Bool :=
  let s := { s with
    connections := s.connections.insert fd ⟨none⟩
    outboxes := s.outboxes.insert fd #[] }
  let s := s.touch fd
  let (s, reads) := s.register fd .readOnly (.reader fd)
  let (s, writes) := if reads then s.register fd .writeOnly (.writer fd) else (s, false)
  if writes then (s, true) else (s.close fd, false)

/-! ### Requests and replies -/

/-- The worker completes its job: the reply joins what is to be written, and the connection is to
be told when it can be written. The reply of a closed connection waits in vain. -/
def finishJob (s : Server) : Server :=
  match s.job with
  | none => s
  | some job =>
    let s := s.appendOutbox job.fd (reply job.request)
    let (reactor, _) := s.loop.reactor.requestWrite job.fd
    { s with
      loop := { s.loop with reactor }
      pool := (s.pool.finish job.slot).getD s.pool
      job := none }

/-- Hands a request to the worker, once that is through with the request before. -/
def offload (s : Server) (fd : Fd) (request : List UInt8) : Server :=
  let s := s.finishJob
  match s.pool.submit with
  | (pool, .accepted id slot, _) =>
    let pool := ((pool.handOver id).bind fun p => p.take slot).elim pool (·.1)
    { s with pool, job := some ⟨fd, request, slot⟩ }
  | (pool, .failed failure, _) => { s with pool }.print (.noWorker failure)
  | (_, .full, _) => s

/-- Reads requests until there are no more, so many at most. The end of the input, or an error,
closes the connection. -/
def readRequests : Nat → Server → Fd → Server
  | 0, s, _ => s
  | fuel + 1, s, fd =>
    match s.kernel.receive fd chunkSize with
    | (kernel, .ok []) => (s.setKernel kernel).close fd
    | (kernel, .ok request) =>
      readRequests fuel (((s.setKernel kernel).touch fd).offload fd request) fd
    | (kernel, .error e) =>
      let s := s.setKernel kernel
      if e = .wouldBlock then s else s.close fd

/-- A connection can be read: all that has arrived is read. -/
def onReadable (s : Server) (fd : Fd) : Server := readRequests (s.kernel.arrived fd + 1) s fd

/-- Writes replies until there are no more, in so many writes at most. Where the connection takes
no more it is to be told when it does; any other error is printed. -/
def writeReplies : Nat → Server → Fd → Server × Bool
  | 0, s, _ => (s, false)
  | fuel + 1, s, fd =>
    if (s.outbox fd).isEmpty then (s, false)
    else
      match s.kernel.send fd (s.outbox fd).toList with
      | .ok (kernel, 0) => (s.setKernel kernel, true)
      | .ok (kernel, count) => writeReplies fuel ((s.setKernel kernel).dropOutbox fd count) fd
      | .error e =>
        if e = .wouldBlock then
          let (reactor, _) := s.loop.reactor.requestWrite fd
          ({ s with loop := { s.loop with reactor } }, false)
        else (s.print (.writeFailed e), true)

/-- A connection can be written: what waits to be written is written. A connection that cannot take
it is closed. -/
def flush (s : Server) (fd : Fd) : Server :=
  let (s, failed) := writeReplies ((s.outbox fd).size + 1) s fd
  if failed then s.close fd else s

/-! ### Accepting -/

/-- What a listener answers. -/
inductive Accepted where
  | stream (fd : Fd)
  | failed (error : OsError)

/-- Accepts connections until the listener has no more. -/
def accept (s : Server) : List Accepted → Server
  | [] => s
  | .failed e :: _ => if e = .wouldBlock then s else s.print (.acceptFailed e)
  | .stream fd :: rest => accept (s.connect fd).1 rest

/-! ### The driver -/

/-- Does what a callback of the server is for. -/
def handle (s : Server) : Handler → Server
  | .reader fd => s.onReadable fd
  | .writer fd => s.flush fd

/-- The driver of the reactor makes one move, or a callback runs from its beginning to its end. -/
def turn (s : Server) : Server :=
  match s.loop.active with
  | some a =>
    let s := s.handlers[a.callback]?.elim s s.handle
    { s with loop := s.loop.finish.elim s.loop (·.1) }
  | none => { s with loop := s.loop.advance.elim s.loop (·.1) }

/-- Whether a wait would report nothing. -/
def isQuiet (s : Server) : Bool := s.kernel.ready.all fun key => (s.kernel.report? key).isNone

/-- Whether the driver is about to wait. -/
def isWaiting (s : Server) : Bool := s.loop.active.isNone && s.loop.stage = .head

/-- Lets the driver go round until a wait has reported nothing, in so many moves at most. -/
def dispatchAll : Nat → Server → Server
  | 0, s => s
  | fuel + 1, s =>
    if s.isWaiting && s.isQuiet then s.turn.turn else dispatchAll fuel s.turn

/-- How many moves the driver makes at most until it rests. -/
def patience : Nat := 10000000

/-- Everything ready is dispatched, and then the worker completes its job. -/
def round (s : Server) : Server := (dispatchAll patience s).finishJob

/-- After three rounds everything that was sent is answered. -/
def settle (s : Server) : Server := s.round.round.round

end Server

end EventLoop.Echo
