import EventLoop.Registry

/-!
Working on a table of registrations by hand. Numbered slots hold registrations that are being
drafted; a handler is a cell with a text, and every copy of a registration shares the cells.

* `Drafts` is the table with the slots and the cells.
* `Drafts.Op` is what can be done, `Drafts.Answer` what comes back.
* `Drafts.step` does one operation.
-/

namespace EventLoop.Session

/-- A change to a registration: each part that is given replaces the part of the registration. -/
structure Drafts.Edit where
  read : Option (Option String)
  write : Option (Option String)
  armed : Option Bool
  /-- One handler for reading and writing. -/
  same : Option String

/-- A table of registrations with the drafts for it. -/
structure Drafts where
  registry : Registry Nat
  slots : Std.ExtTreeMap Nat (Registration Nat)
  /-- The texts of the handlers. -/
  cells : Std.ExtTreeMap Nat String
  nextCell : Nat

namespace Drafts

/-- The operations on a table and its drafts. -/
inductive Op where
  | current (fd : Fd) (slot : Nat)
  | fresh (slot : Nat) (token : Token)
  | edit (slot : Nat) (change : Edit)
  | rename (slot : Nat) (text : String)
  | overlaps (slot : Nat) (interest : Interest)
  | insert (fd : Fd) (slot : Nat)
  | get (fd : Fd)
  | remove (fd : Fd)
  | editInPlace (fd : Fd) (change : Edit)
  | resolve (token : Token)
  | size

/-- A registration with the texts of its handlers. -/
structure View where
  token : Token
  read : Option String
  write : Option String
  armed : Bool
  interest : Interest
  active : Interest
  isEmpty : Bool

/-- What an operation answers. -/
inductive Answer where
  | registration (view : Option View)
  | route (target : Option (Fd × View))
  | flag (value : Bool)
  | count (value : Nat)
  | mismatch (held asked : Token)

/-- No registrations and no drafts. -/
def empty : Drafts := ⟨.empty, ∅, ∅, 0⟩

/-- The registration in a slot; a slot that was never filled holds one without handlers. -/
def slot (d : Drafts) (n : Nat) : Registration Nat := d.slots[n]?.getD (.fresh 0)

/-- Fills a slot. -/
def fill (d : Drafts) (n : Nat) (r : Registration Nat) : Drafts :=
  { d with slots := d.slots.insert n r }

/-- The registration with the texts of its handlers. -/
def view (d : Drafts) (r : Registration Nat) : View :=
  let text (cell : Nat) : String := d.cells[cell]?.getD ""
  { token := r.token
    read := r.read.map text
    write := r.write.map text
    armed := r.armed
    interest := r.interest
    active := r.active
    isEmpty := r.isEmpty }

/-- A new cell with a text. -/
def newCell (d : Drafts) (text : String) : Drafts × Nat :=
  ({ d with cells := d.cells.insert d.nextCell text, nextCell := d.nextCell + 1 }, d.nextCell)

/-- A new cell where a text is given. -/
def newCell? (d : Drafts) : Option String → Drafts × Option Nat
  | none => (d, none)
  | some text => let (d, cell) := d.newCell text; (d, some cell)

/-- Applies a change to a registration, the read handler first and a common handler last. -/
def apply (d : Drafts) (change : Edit) (r : Registration Nat) : Drafts × Registration Nat :=
  let (d, r) :=
    match change.read with
    | none => (d, r)
    | some text => let (d, cell) := d.newCell? text; (d, { r with read := cell })
  let (d, r) :=
    match change.write with
    | none => (d, r)
    | some text => let (d, cell) := d.newCell? text; (d, { r with write := cell })
  let r := { r with armed := change.armed.getD r.armed }
  match change.same with
  | none => (d, r)
  | some text =>
    let (d, cell) := d.newCell text
    (d, { r with read := some cell, write := some cell })

/-- Does one operation. -/
def step (d : Drafts) : Op → Drafts × Answer
  | .current fd n =>
    let (registry, r) := d.registry.currentOrFresh fd
    let d := { d with registry }.fill n r
    (d, .registration (d.view r))
  | .fresh n token =>
    let d := d.fill n (.fresh token)
    (d, .registration (d.view (.fresh token)))
  | .edit n change =>
    let (d, r) := d.apply change (d.slot n)
    let d := d.fill n r
    (d, .registration (d.view r))
  | .rename n text =>
    match (d.slot n).read with
    | none => (d, .registration none)
    | some cell =>
      let d := { d with cells := d.cells.insert cell text }
      (d, .registration (d.view (d.slot n)))
  | .overlaps n i => (d, .flag ((d.slot n).overlaps i))
  | .insert fd n =>
    let d := { d with registry := d.registry.insert fd (d.slot n) }
    (d, .count d.registry.size)
  | .get fd => (d, .registration ((d.registry.get? fd).map d.view))
  | .remove fd =>
    let (registry, removed) := d.registry.remove fd
    ({ d with registry }, .registration (removed.map d.view))
  | .editInPlace fd change =>
    match d.registry.get? fd with
    | none => (d, .registration none)
    | some r =>
      let (d, r) := d.apply change r
      ({ d with registry := d.registry.modify fd fun _ => r }, .registration (d.view r))
  | .resolve token =>
    match d.registry.resolve token with
    | .absent => (d, .route none)
    | .found fd r => (d, .route (some (fd, d.view r)))
    | .mismatched held => (d, .mismatch held token)
  | .size => (d, .count d.registry.size)

end Drafts

end EventLoop.Session
