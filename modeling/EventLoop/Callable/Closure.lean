import Std.Data.ExtTreeMap

/-!
Closures with captured state. A call changes what the closure captured and shows the new state;
whether a closure panics when it is called or copied is fixed when it is made.

* `Captures` is what a closure has captured, `Captures.next` the effect of a call on it.
* `Closure` is a closure with a name for the record.
-/

namespace EventLoop

/-- The number of a cell that several closures share. -/
abbrev CellId := Nat

/-- The shared cells with their values. -/
abbrev Cells := Std.ExtTreeMap CellId Nat

/-- What a closure has captured. Numbers are words of 64 bits where nothing else is said. -/
inductive Captures where
  | nothing
  | counter (value step : Nat)
  /-- A number of eight bits. -/
  | byte (value : Nat)
  | triple (a b c : Nat)
  /-- A number of 128 bits. -/
  | wide (value : Nat)
  /-- A cell that copies of the closure share. -/
  | shared (cell : CellId)
deriving DecidableEq

/-- What a call shows of the captured state. -/
inductive Observation where
  | nothing
  | number (value : Nat)
  | triple (a b c : Nat)
  | wide (value : Nat)
deriving DecidableEq

namespace Captures

/-- How many numbers a word of 8 bits can hold. -/
def size8 : Nat := 256

/-- How many numbers a word of 64 bits can hold. -/
def size64 : Nat := 18446744073709551616

/-- How many numbers a word of 128 bits can hold. -/
def size128 : Nat := size64 * size64

/-- What a call makes of the captured state and of the shared cells, and what it shows. -/
def next (cells : Cells) : Captures → Captures × Cells × Observation
  | nothing => (nothing, cells, .nothing)
  | counter value step =>
    let value := (value + step) % size64
    (counter value step, cells, .number value)
  | byte value =>
    let value := (value + 1) % size8
    (byte value, cells, .number value)
  | triple a b c =>
    let d := (a + b + c) % size64
    (triple b c d, cells, .triple b c d)
  | wide value =>
    let value := (value * 3 + 1) % size128
    (wide value, cells, .wide value)
  | shared cell =>
    let value := (cells[cell]?.getD 0 + 1) % size64
    (shared cell, cells.insert cell value, .number value)

end Captures

/-- A closure. -/
structure Closure where
  name : String
  /-- Whether its copying and its end are recorded. -/
  probed : Bool
  captures : Captures
  panicsInCall : Bool
  panicsInCopy : Bool
deriving DecidableEq

end EventLoop
