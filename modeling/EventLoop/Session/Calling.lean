import EventLoop.Callable.Callables
import EventLoop.Callable.Closure
import EventLoop.Failure
import EventLoop.Log

/-!
Sessions with callables in eight registers.

* `Calling.World` is what the closures of a session share, with the record that they keep of
  themselves; `Closure.type` are the operations of these closures.
* `Bench` are the callables of a session.
* `Calling.Op` is what can be done, `Calling.Reply` what comes back.
* `Calling.Op.moves` says which moves an operation consists of.
* `Calling.perform` does one operation.
-/

namespace EventLoop

namespace Session.Calling

/-- What is recorded of the closures. -/
inductive Happening where
  | plainCall (name : String)
  | called (tag : String) (shown : Observation)
  | copied (tag : String)
  | dropped (tag : String)

/-- What the closures reach outside of themselves. -/
structure World where
  cells : Cells
  nextCell : CellId
  /-- What was recorded so far. -/
  record : List Happening

/-- Records a happening. -/
def World.note (w : World) (what : Happening) : World := { w with record := w.record ++ [what] }

/-- A new shared cell. -/
def World.newCell (w : World) (value : Nat) : World × CellId :=
  ({ w with cells := w.cells.insert w.nextCell value, nextCell := w.nextCell + 1 }, w.nextCell)

/-- Calls a closure. Its state is changed and shown before it may panic. -/
def Closure.call (c : Closure) (w : World) : Closure × World × Option String :=
  let (captures, cells, shown) := c.captures.next w.cells
  let happening := if c.probed then .called c.name shown else .plainCall c.name
  ({ c with captures }, { w with cells }.note happening,
    if c.panicsInCall then some s!"call {c.name}" else none)

/-- Copies a closure, which is recorded before it may panic. -/
def Closure.clone (c : Closure) (w : World) : Except String Closure × World :=
  (if c.panicsInCopy then .error s!"clone {c.name}" else .ok c,
    if c.probed then w.note (.copied c.name) else w)

/-- Ends a closure. -/
def Closure.drop (c : Closure) (w : World) : World :=
  if c.probed then w.note (.dropped c.name) else w

/-- The operations of the closures of a session. -/
def Closure.type : VTable Closure World := ⟨Closure.call, Closure.clone, Closure.drop⟩

end Session.Calling

/-- The callables of a session. -/
abbrev Bench := Callables Closure Session.Calling.World

/-- A session begins without callables. -/
def Bench.start : Bench := Callables.start ⟨∅, 0, []⟩

namespace Session.Calling

/-- The kinds of closures that a session makes. -/
inductive Shape where
  /-- Captures nothing and leaves no trace but its name. -/
  | plain (name : String)
  | bare
  | counter
  | byte
  | triple
  | wide
  | shared

/-- A closure to be made. -/
structure Plan where
  shape : Shape
  tag : String
  x : Nat
  y : Nat
  z : Nat
  panicsInCall : Bool
  panicsInCopy : Bool

/-- The operations on the registers. -/
inductive Op where
  | create (n : PlaceId) (plan : Plan)
  /-- Stores an empty callable. -/
  | empty (n : PlaceId)
  | call (n : PlaceId)
  | invoke (n : PlaceId)
  /-- Takes the callable out of the register and uses it up in one call. -/
  | once (n : PlaceId)
  /-- Takes the callable out of the register and drops it after so many calls. -/
  | repeatedly (n : PlaceId) (calls : Nat)
  /-- Calls the callable on another thread. -/
  | elsewhere (n : PlaceId)
  | isEmpty (n : PlaceId)
  | debug (n : PlaceId)
  | clear (n : PlaceId)
  | clone (source target : PlaceId)
  | take (source target : PlaceId)
  | swap (m n : PlaceId)
  | list
  | dropAll

/-- What an operation answers. -/
inductive Reply where
  | done
  | flag (value : Bool)
  | flags (values : List Bool)
  | text (value : String)
  | empty
  | panicked (message : String)

/-- How many registers there are. -/
def registers : Nat := 8

/-- The register that a number stands for. -/
def register (n : Nat) : PlaceId := n % registers

/-- The closure of a plan; what its copies share is made first. -/
def Plan.closure (w : World) (p : Plan) : World × Closure :=
  let probed (captures : Captures) : Closure :=
    ⟨p.tag, true, captures, p.panicsInCall, p.panicsInCopy⟩
  match p.shape with
  | .plain name => (w, ⟨name, false, .nothing, false, false⟩)
  | .bare => (w, probed .nothing)
  | .counter => (w, probed (.counter p.x p.y))
  | .byte => (w, probed (.byte (p.x % Captures.size8)))
  | .triple => (w, probed (.triple p.x p.y p.z))
  | .wide => (w, probed (.wide (p.x * Captures.size64 + p.y)))
  | .shared =>
    let (w, cell) := w.newCell p.x
    (w, probed (.shared cell))

/-- Whether a register is empty. -/
def isEmpty (b : Bench) (n : PlaceId) : Bool := (b.get (.slot n)).isEmpty

/-- The moves that an operation consists of. -/
def Op.moves (b : Bench) : Op → Bench × List (Callables.Move Closure World)
  | create n plan =>
    let (world, closure) := plan.closure b.world
    ({ b with world }, [.create Closure.type closure, .put n])
  | empty n => (b, [.put n])
  | call n => (b, [.call (.slot n)])
  | invoke n => (b, [.invoke (.slot n)])
  | once n => (b, .grab n :: Callables.once)
  | repeatedly n calls =>
    (b, .grab n :: (List.replicate calls (.invoke .hand) ++ [.drop .hand]))
  | elsewhere n => (b, [.grab n, .call .hand, .put n])
  | clear n => (b, [.clear (.slot n)])
  | clone source target => (b, [.copy source, .put target])
  | take source target => (b, [.grab source, .put target])
  | swap m n => (b, [.swap m n])
  | dropAll => (b, (List.range registers).map fun n => .clear (.slot n))
  | isEmpty _ | debug _ | list => (b, [])

/-- What an operation answers when nothing panicked. -/
def Op.reply (b : Bench) : Op → Reply
  | create n _ | empty n | isEmpty n => .flag (Calling.isEmpty b n)
  | elsewhere n => .flag (!Calling.isEmpty b n)
  | clear _ => .flag true
  | debug n => .text (BoundedFn.text (Calling.isEmpty b n))
  | clone _ target => .flag (Calling.isEmpty b target)
  | take m n | swap m n => .flags [Calling.isEmpty b m, Calling.isEmpty b n]
  | list => .flags ((List.range registers).map (Calling.isEmpty b))
  | call _ | invoke _ | once _ | repeatedly _ _ | dropAll => .done

/-- The log line of a happening. -/
def logOf? : BoundedFn.Note Closure World → Option LogLine
  | .skipped => some .skippedEmpty
  | _ => none

/-- Does one operation; what it records is answered and not kept. -/
def perform (b : Bench) (op : Op) : Bench × Reply × List Happening × List LogLine :=
  let (b, moves) := op.moves b
  let (b, outcome, notes) := b.perform moves
  let reply :=
    match outcome, op with
    | .panicked message, _ => .panicked message
    | .empty, .call _ => .empty
    | _, _ => op.reply b
  ({ b with world := { b.world with record := [] } }, reply, b.world.record,
    notes.filterMap logOf?)

end Session.Calling

end EventLoop
