import EventLoop.Failure
import EventLoop.Reactor.Basic

/-!
Making a reactor. It needs two descriptors from the system, one for the watched set and one for the
wakeup counter, and it must be allowed to hear of at least one event at a time, and of no more than
memory can be addressed for.

* `ReactorBuilder` is the plan; `ReactorBuilder.eventCapacity` changes it.
* `Reactor.create` makes a reactor, given how many descriptors the system has left, and
  `Reactor.Creation` is what can come of it.
-/

namespace EventLoop

/-- What a reactor is to be like. -/
structure ReactorBuilder where
  capacity : Nat
deriving DecidableEq

namespace ReactorBuilder

/-- The plan where nothing else is asked for. -/
def standard : ReactorBuilder := ⟨Reactor.defaultCapacity⟩

/-- The complaint about a reactor that may not hear of any event. -/
def noEvents : String := "event_capacity must be > 0"

/-- Changes how many events a poll brings at most. -/
def eventCapacity (_ : ReactorBuilder) (n : Nat) : Except String ReactorBuilder :=
  if n = 0 then .error noEvents else .ok ⟨n⟩

end ReactorBuilder

namespace Reactor

variable {ι : Type}

/-- How many bytes the record of one event takes. -/
def eventBytes : Nat := 12

/-- The largest size of a piece of memory: the largest signed word of 64 bits. -/
def mostBytes : Nat := 9223372036854775807

/-- The complaint about a capacity for which no memory can be addressed. -/
def tooManyEvents : String := "capacity overflow"

/-- What comes of making a reactor. -/
inductive Creation (ι : Type) where
  | made (reactor : Reactor ι)
  | failed (error : SetupError)
  /-- The records of so many events fit into no piece of memory. -/
  | tooMany

/-- Makes a reactor, given how many descriptors the system has left. The room for its events comes
last, when everything else is in place. -/
def create (spare : Option Nat) (capacity : Nat) : Creation ι × List (Note ι) :=
  match spare with
  | some 0 => (.failed ⟨.poller, .os .tooManyOpen⟩, [])
  | some 1 => (.failed ⟨.wakeupSource, .os .tooManyOpen⟩, [])
  | _ =>
    (if capacity * eventBytes ≤ mostBytes then .made (start (.boot none) capacity) else .tooMany,
      [.created capacity])

end Reactor

end EventLoop
