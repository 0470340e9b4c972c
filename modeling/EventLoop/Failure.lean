import EventLoop.OsError
import EventLoop.Text.Quoted

/-!
The failures that the components report to their callers.

* `Fault` is a failed input or output operation, either an error of the system or one with a text
  of its own.
* `SetupError` says which part of a reactor could not be made.
* `SpawnError` says which worker thread could not be started.
* `CallError` says why a callable could not be called.

Each failure has a text for users (`render`) and one for developers (`debug`).
-/

namespace EventLoop

/-- A failed operation: an error of the system, or one described by a text. -/
inductive Fault where
  | os (error : OsError)
  | other (message : String)
deriving DecidableEq

namespace Fault

/-- The text for users. -/
def render : Fault → String
  | os e => e.render
  | other m => m

/-- The text for developers names the parts of the failure. -/
def debug : Fault → String
  | os e =>
    s!"Os \x7b code: {e.code}, kind: {e.kind}, message: {Text.quoted e.message} \x7d"
  | other m => s!"Custom \x7b kind: Other, error: {Text.quoted m} \x7d"

end Fault

/-- The parts of a reactor whose making can fail. -/
inductive SetupPart where
  | poller
  | wakeupSource
  | wakeupRegistration
deriving DecidableEq

namespace SetupPart

/-- The name of a part. -/
def label : SetupPart → String
  | poller => "Poller"
  | wakeupSource => "WakeupSource"
  | wakeupRegistration => "WakeupRegistration"

/-- What was being done when the part failed. -/
def activity : SetupPart → String
  | poller => "create epoll instance"
  | wakeupSource => "create wakeup eventfd"
  | wakeupRegistration => "register wakeup eventfd"

end SetupPart

/-- A reactor could not be made: the part that failed and why. -/
structure SetupError where
  part : SetupPart
  source : Fault
deriving DecidableEq

namespace SetupError

/-- The text for users. -/
def render (e : SetupError) : String := s!"failed to {e.part.activity}: {e.source.render}"

/-- The text for developers. -/
def debug (e : SetupError) : String := s!"{e.part.label}({e.source.debug})"

end SetupError

/-- A worker thread could not be started: its index and why. -/
structure SpawnError where
  index : Nat
  source : Fault
deriving DecidableEq

namespace SpawnError

/-- The text for users. -/
def render (e : SpawnError) : String :=
  s!"failed to spawn worker thread #{e.index}: {e.source.render}"

/-- The text for developers. -/
def debug (e : SpawnError) : String :=
  s!"SpawnError \x7b index: {e.index}, source: {e.source.debug} \x7d"

end SpawnError

/-- Why a callable could not be called. -/
inductive CallError where
  /-- It holds nothing. -/
  | empty
deriving DecidableEq

namespace CallError

/-- The text for users. -/
def render : CallError → String
  | empty => "called an empty callable"

/-- The text for developers. -/
def debug : CallError → String
  | empty => "EmptyCallableError"

end CallError

end EventLoop
