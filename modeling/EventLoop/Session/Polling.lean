import EventLoop.Poller
import EventLoop.Session.Descriptors

/-!
Watching and polling by hand, with files opened by hand.

* `Polling` is the operating system together with the number of events that a poll brings.
* `Polling.step` does one operation.
-/

namespace EventLoop.Session

/-- A kernel that is polled by hand. -/
structure Polling where
  kernel : Kernel
  /-- How many events a poll brings at most. -/
  capacity : Nat

namespace Polling

/-- The operations. -/
inductive Op where
  | file (op : Descriptors.Op)
  | watch (fd : Fd) (token : Token) (interest : Interest)
  | rewatch (fd : Fd) (token : Token) (interest : Interest)
  | unwatch (fd : Fd)
  | wake
  | drain
  | poll
  | clear

/-- What an operation answers. -/
inductive Answer where
  | file (answer : Descriptors.Answer)
  | done
  | failed (error : OsError)
  | batch (batch : Batch)
  | cleared

/-- A freshly made poller. -/
def start (capacity : Nat) : Polling := ⟨.boot none, capacity⟩

/-- Takes over the outcome of a change to the watched set. -/
def adopt (p : Polling) : Except OsError Kernel → Polling × Answer
  | .error e => (p, .failed e)
  | .ok kernel => ({ p with kernel }, .done)

/-- Does one operation. -/
def step (p : Polling) : Op → Polling × Answer
  | .file op =>
    let (kernel, answer) := Descriptors.step p.kernel op
    ({ p with kernel }, .file answer)
  | .watch fd token i => p.adopt (p.kernel.watch fd token i)
  | .rewatch fd token i => p.adopt (p.kernel.rewatch fd token i)
  | .unwatch fd => p.adopt (p.kernel.unwatch fd)
  | .wake => p.adopt p.kernel.wake
  | .drain => ({ p with kernel := p.kernel.drain }, .done)
  | .poll =>
    match p.kernel.poll p.capacity with
    | .error e => (p, .failed e)
    | .ok (kernel, batch) => ({ p with kernel }, .batch batch)
  | .clear => (p, .cleared)

end Polling

end EventLoop.Session
