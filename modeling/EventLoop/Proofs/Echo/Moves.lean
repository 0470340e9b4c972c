import EventLoop.Proofs.Echo.Doings
import EventLoop.Proofs.Kernel.Line
import EventLoop.Proofs.Machine

/-!
Everything that can happen to the echo server, one thing at a time and in any order: clients come,
write and read, the driver of the reactor moves, callbacks run, jobs come to their end, connections
are touched and closed, and time passes without any timer firing and without coming to an end.

* `Server.holds` says that the server has something to do with a number; nobody else uses it then.
* `Server.Move` lists what can happen, `Server.Note` what is noted of it, and `Server.step` makes
  one move.
* `Server.strides` and `Server.after` are the history and the end of a run; `Server.connected` are
  the connections that were begun, `Server.listening` the numbers that the server listens to, and
  `Server.sent` and `Server.received` what a client wrote and read.
-/

namespace EventLoop.Echo

/-- The connection that a callback is for. -/
def Handler.fd : Handler → Fd
  | reader fd | writer fd => fd

namespace Server

/-- What the running callback is for, if it is the server's. -/
def running (s : Server) : Option Handler := s.loop.active.bind fun a => s.handlers[a.callback]?

/-- The server has something to do with a number: it has a registration, the worker has a request
that came from there, or a callback for it is running. -/
def holds (s : Server) (fd : Fd) : Bool :=
  (s.loop.reactor.registry.get? fd).isSome || s.job.any (·.fd == fd) ||
    s.running.any (·.fd == fd)

/-- What can happen to the server. -/
inductive Move where
  /-- Something is done with files that the server has nothing to do with. -/
  | file (action : Kernel.Action)
  /-- The server is told when a listener has clients. -/
  | listen (fd : Fd)
  /-- A connection is begun, for a number that the server does not use so far. -/
  | connect (fd : Fd)
  /-- The driver makes its next move, or the running callback does what it is for. -/
  | turn
  /-- A connection can be read. -/
  | readable (fd : Fd)
  /-- A connection is read so many times at most. -/
  | reads (rounds : Nat) (fd : Fd)
  /-- A connection can be written. -/
  | writable (fd : Fd)
  /-- The worker completes its job. -/
  | finishJob
  /-- Another worker completes a job. -/
  | answer (fd : Fd) (bytes : List UInt8)
  | touch (fd : Fd)
  | close (fd : Fd)
  /-- Time passes, and no timer fires. It does not go so far that an idle timer could not be
  restarted. -/
  | pass (delay : Delay)

/-- What is noted of a move. -/
inductive Note where
  | listening (fd : Fd)
  | connected (fd : Fd)
  | sent (fd : Fd) (bytes : List UInt8)
  | received (fd : Fd) (bytes : List UInt8)

/-- What is noted of the use of a file. -/
def fileNotes : Kernel.Action → Kernel.Answer → List Note
  | .write fd data, .written count => [.sent fd (data.take count)]
  | .read fd _, .received bytes _ => [.received fd bytes]
  | _, _ => []

/-- Makes one move, if it is possible. -/
def step (s : Server) : Move → Option (Server × List Note)
  | .file action =>
    if action.numbers.any s.holds then none
    else (s.kernel.act action).map fun (k, answer) => (s.setKernel k, fileNotes action answer)
  | .listen fd =>
    let (loop, added, _) := s.loop.add fd .readOnly
    some ({ s with loop }, if added then [.listening fd] else [])
  | .connect fd => if s.holds fd then none else some ((s.connect fd).1, [.connected fd])
  | .turn => some (s.turn, [])
  | .readable fd => some (s.onReadable fd, [])
  | .reads rounds fd => some (readRequests rounds s fd, [])
  | .writable fd => some (s.flush fd, [])
  | .finishJob => some (s.finishJob, [])
  | .answer fd bytes => some (s.answer fd bytes, [])
  | .touch fd => some (s.touch fd, [])
  | .close fd => some (s.close fd, [])
  | .pass delay =>
    if s.scheduler.clock + delay + idleTimeout ≤ Instant.latest then
      some ({ s with scheduler := s.scheduler.pass delay }, [])
    else none

/-! ### Runs -/

/-- One move of the server that was made. -/
abbrev Stride := Machine.Stride step

/-- The history of the run that makes the moves of a list. -/
abbrev strides (s : Server) (ms : List Move) : List Stride := Machine.strides step s ms

/-- The server that the run ends in. -/
abbrev after (s : Server) (ms : List Move) : Server := Machine.after step s ms

/-- Time passes only before its end. -/
lemma Stride.passes {t : Stride} {delay : Delay} (hm : t.move = .pass delay) :
    t.before.scheduler.clock + delay + idleTimeout ≤ Instant.latest ∧
      t.after = { t.before with scheduler := t.before.scheduler.pass delay } ∧ t.notes = [] := by
  have hmade := t.made
  simp only [hm, step, Option.ite_none_right_eq_some, Option.some.injEq, Prod.mk.injEq] at hmade
  exact ⟨hmade.1, hmade.2.1.symm, hmade.2.2.symm⟩

/-- The connections that were begun, in their order. -/
def connected (past : List Stride) : List Fd :=
  Machine.noted (fun | .connected fd => some fd | _ => none) past

/-- The numbers that the server listens to. -/
def listening (past : List Stride) : List Fd :=
  Machine.noted (fun | .listening fd => some fd | _ => none) past

/-- What was written to a number by others than the server. -/
def sent (fd : Fd) (past : List Stride) : List UInt8 :=
  (Machine.noted (fun | .sent x bytes => if x = fd then some bytes else none | _ => none)
    past).flatten

/-- What was read from a number by others than the server. -/
def received (fd : Fd) (past : List Stride) : List UInt8 :=
  (Machine.noted (fun | .received x bytes => if x = fd then some bytes else none | _ => none)
    past).flatten

end Server

end EventLoop.Echo
