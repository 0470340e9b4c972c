import EventLoop.Kernel.Watching

/-!
Waiting for descriptors and for wakeups at once.

* `Event` is a readiness of one registration, told apart by its token.
* `Batch` is what one poll brings: whether the driver was woken, and the events.
* `Kernel.poll` waits once; a wakeup that is reported is taken back at once.
-/

namespace EventLoop

/-- The readiness of one registration. -/
structure Event where
  token : Token
  readable : Bool
  writable : Bool
deriving DecidableEq

/-- The event that a report tells of. -/
def Report.event (r : Report) : Event := ⟨r.token, r.readiness.readable, r.readiness.writable⟩

/-- What one poll brings. -/
structure Batch where
  woken : Bool
  events : List Event
deriving DecidableEq

/-- The batch of a list of reports: those under the wakeup token are a wakeup, the others events. -/
def Batch.ofReports (reports : List Report) : Batch :=
  { woken := reports.any (·.token == .wakeup)
    events := (reports.filter (·.token != .wakeup)).map Report.event }

/-- Waits once for at most so many entries. A reported wakeup is drained. -/
def Kernel.poll (k : Kernel) (most : Nat) : Except OsError (Kernel × Batch) := do
  let (k, reports) ← k.wait most
  let batch := Batch.ofReports reports
  return (if batch.woken then k.drain else k, batch)

end EventLoop
