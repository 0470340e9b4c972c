/-!
Callables of fixed size. A callable is a buffer in which one closure of any type fits, beside the
operations of this type; without operations it is empty, whatever the buffer holds.

* `VTable` are the operations of a type of closures; what they do is the business of whoever wrote
  the closure.
* `Instance` is a closure that exists; every copy is an instance of its own.
* `BoundedFn` is a callable. Each of its operations answers how it ended and what happened to
  instances on the way, a `BoundedFn.Note` for each.
-/

namespace EventLoop

/-- How many bytes a closure may take. -/
def inlineCapacity : Nat := 32

/-- The operations of a type of closures, with `κ` for what a closure has captured and `σ` for what
is outside of it. -/
structure VTable (κ σ : Type) where
  /-- Calls a closure, with the message where the call panics. Whatever it has done by then is
  done. -/
  call : κ → σ → κ × σ × Option String
  /-- Copies a closure. Where the copying panics there is no copy, and the source is as it was. -/
  clone : κ → σ → Except String κ × σ
  /-- Ends a closure. -/
  drop : κ → σ → σ

/-- A closure that exists. -/
structure Instance (κ σ : Type) where
  id : Nat
  /-- The operations of the type that it was made as. -/
  type : VTable κ σ
  captures : κ

/-- A callable. -/
structure BoundedFn (κ σ : Type) where
  /-- What was written into the buffer last. The buffer is not wiped when this is dropped. -/
  buffer : Option (Instance κ σ)
  vtable : Option (VTable κ σ)

namespace BoundedFn

variable {κ σ : Type}

/-- How an operation ends. -/
inductive Outcome where
  | done
  /-- The callable to be called is empty. -/
  | empty
  | panicked (message : String)
  /-- The buffer was read though nothing was ever written into it. -/
  | undefined
deriving DecidableEq

/-- What happens to instances. -/
inductive Note (κ σ : Type) where
  | created (what : Instance κ σ)
  /-- A copy of an instance is begun. -/
  | copying (source : Instance κ σ)
  | copied (copy : Instance κ σ)
  | called (what : Instance κ σ)
  | dropped (what : Instance κ σ)
  /-- An empty callable was passed over. -/
  | skipped

/-- The callable that owns an instance. -/
def new (what : Instance κ σ) : BoundedFn κ σ := ⟨some what, some what.type⟩

/-- A callable without a closure. -/
def empty : BoundedFn κ σ := ⟨none, none⟩

/-- Whether there is no closure. -/
def isEmpty (f : BoundedFn κ σ) : Bool := f.vtable.isNone

/-- The text of a callable for developers: it tells only whether the callable is empty. -/
def text (isEmpty : Bool) : String := s!"BoundedFn \x7b empty: {isEmpty} \x7d"

/-- Calls the closure. -/
def call (f : BoundedFn κ σ) (world : σ) : BoundedFn κ σ × σ × Outcome × List (Note κ σ) :=
  match f.vtable, f.buffer with
  | none, _ => (f, world, .empty, [])
  | some _, none => (f, world, .undefined, [])
  | some ops, some what =>
    let (captures, world, message) := ops.call what.captures world
    let f := { f with buffer := some { what with captures } }
    (f, world, message.elim .done .panicked, [.called what])

/-- Calls the closure, passing over an empty callable. -/
def invoke (f : BoundedFn κ σ) (world : σ) : BoundedFn κ σ × σ × Outcome × List (Note κ σ) :=
  match f.call world with
  | (f, world, .empty, notes) => (f, world, .done, notes ++ [.skipped])
  | result => result

/-- Moves the closure out, and leaves an empty callable behind. -/
def take (f : BoundedFn κ σ) : BoundedFn κ σ × BoundedFn κ σ := (f, empty)

/-- Drops the closure, if there is one. -/
def clear (f : BoundedFn κ σ) (world : σ) : BoundedFn κ σ × σ × Outcome × List (Note κ σ) :=
  match f.vtable, f.buffer with
  | none, _ => (f, world, .done, [])
  | some _, none => ({ f with vtable := none }, world, .undefined, [])
  | some ops, some what =>
    ({ f with vtable := none }, ops.drop what.captures world, .done, [.dropped what])

/-- Copies a callable; a copy of its closure gets a number of its own. -/
def clone (f : BoundedFn κ σ) (world : σ) (id : Nat) :
    BoundedFn κ σ × σ × Outcome × List (Note κ σ) :=
  match f.vtable, f.buffer with
  | none, _ => (empty, world, .done, [])
  | some _, none => (empty, world, .undefined, [])
  | some ops, some source =>
    match ops.clone source.captures world with
    | (.error message, world) => (empty, world, .panicked message, [.copying source])
    | (.ok captures, world) =>
      let copy : Instance κ σ := ⟨id, ops, captures⟩
      (new copy, world, .done, [.copying source, .copied copy])

end BoundedFn

end EventLoop
