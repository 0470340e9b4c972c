import Std.Data.ExtTreeMap
import EventLoop.Interest

/-!
Who is to be told about which descriptor. Every descriptor with a handler has one registration; the
kernel knows a registration by its token, and an index leads from the token back to the descriptor.

* `Registration` holds the handlers of one descriptor; `Registration.interest` is what they cover
  and `Registration.active` what the kernel is asked for at present.
* `Registry` is the table of registrations with the index of their tokens.
* `Registry.currentOrFresh`, `Registry.insert` and `Registry.remove` work on a descriptor,
  `Registry.resolve` follows a token.
-/

namespace EventLoop

/-- The number of a descriptor. -/
abbrev Fd := Int

/-- The number by which the kernel knows a registration. -/
abbrev Token := Nat

/-- The handlers of one descriptor. A write handler is told about readiness only while it is
armed. -/
structure Registration (η : Type) where
  token : Token
  read : Option η
  write : Option η
  armed : Bool
deriving DecidableEq

namespace Registration

variable {η : Type}

/-- A registration without handlers. -/
def fresh (token : Token) : Registration η := ⟨token, none, none, false⟩

/-- The interest that the handlers cover. -/
def interest (r : Registration η) : Interest := ⟨r.read.isSome, r.write.isSome⟩

/-- The interest that the kernel is asked for: a disarmed write handler asks for nothing. -/
def active (r : Registration η) : Interest := ⟨r.read.isSome, r.write.isSome && r.armed⟩

/-- A registration is empty when it has no handler. -/
def isEmpty (r : Registration η) : Bool := r.interest.isEmpty

/-- A registration overlaps an interest when it has a handler for a part of it. -/
def overlaps (r : Registration η) (i : Interest) : Bool :=
  (i.read && r.read.isSome) || (i.write && r.write.isSome)

/-- The registration with a handler added for an interest; a new write handler is armed. -/
def add (r : Registration η) (i : Interest) (handler : η) : Registration η :=
  { r with
    read := if i.read then some handler else r.read
    write := if i.write then some handler else r.write
    armed := i.write || r.armed }

/-- The registration without its handlers for an interest. -/
def drop (r : Registration η) (i : Interest) : Registration η :=
  { r with
    read := if i.read then none else r.read
    write := if i.write then none else r.write
    armed := !i.write && r.armed }

/-- The handlers of a registration for an interest, the read handler first. -/
def handlersFor (r : Registration η) (i : Interest) : List η :=
  (if i.read then r.read.toList else []) ++ if i.write then r.write.toList else []

@[simp] theorem interest_add (r : Registration η) (i : Interest) (handler : η) :
    (r.add i handler).interest = i.union r.interest := by
  rcases i with ⟨_ | _, _ | _⟩ <;> simp [add, interest, Interest.union]

end Registration

/-- The registrations of all descriptors, with the index of their tokens. -/
structure Registry (η : Type) where
  entries : Std.ExtTreeMap Fd (Registration η)
  tokens : Std.ExtTreeMap Token Fd
  /-- The token that the next new registration gets. -/
  nextToken : Token

/-- Where a token leads. -/
inductive Route (η : Type) where
  /-- The token is not in use. -/
  | absent
  /-- The token leads to the registration that carries it. -/
  | found (fd : Fd) (registration : Registration η)
  /-- The token leads to a registration that carries another one. -/
  | mismatched (held : Token)

namespace Registry

variable {η : Type}

/-- A table without registrations. -/
def empty : Registry η := ⟨∅, ∅, 0⟩

instance : Inhabited (Registry η) := ⟨empty⟩

/-- The registration of a descriptor. -/
def get? (r : Registry η) (fd : Fd) : Option (Registration η) := r.entries[fd]?

/-- The registration of a descriptor, or one without handlers under a token never used before. -/
def currentOrFresh (r : Registry η) (fd : Fd) : Registry η × Registration η :=
  match r.get? fd with
  | some registration => (r, registration)
  | none => ({ r with nextToken := r.nextToken + 1 }, .fresh r.nextToken)

/-- Makes a registration the one of a descriptor. The token of a registration that it replaces is
dropped from the index when the index leads to another descriptor by then. -/
def insert (r : Registry η) (fd : Fd) (registration : Registration η) : Registry η :=
  let tokens := r.tokens.insert registration.token fd
  let tokens :=
    match r.get? fd with
    | some previous =>
      if tokens[previous.token]? = some fd then tokens else tokens.erase previous.token
    | none => tokens
  { r with entries := r.entries.insert fd registration, tokens }

/-- Removes the registration of a descriptor together with its token. -/
def remove (r : Registry η) (fd : Fd) : Registry η × Option (Registration η) :=
  match r.get? fd with
  | none => (r, none)
  | some registration =>
    ({ r with entries := r.entries.erase fd, tokens := r.tokens.erase registration.token },
      some registration)

/-- Follows a token to the registration of its descriptor. -/
def resolve (r : Registry η) (token : Token) : Route η :=
  match r.tokens[token]? with
  | none => .absent
  | some fd =>
    match r.get? fd with
    | none => .absent
    | some registration =>
      if registration.token = token then .found fd registration
      else .mismatched registration.token

/-- Changes the registration of a descriptor where it stands. -/
def modify (r : Registry η) (fd : Fd) (change : Registration η → Registration η) : Registry η :=
  match r.get? fd with
  | none => r
  | some registration => { r with entries := r.entries.insert fd (change registration) }

/-- How many descriptors have a registration. -/
def size (r : Registry η) : Nat := r.entries.size

/-! ### What each operation does to the registration of a descriptor -/

@[simp] theorem get?_empty (fd : Fd) : (empty : Registry η).get? fd = none := by
  simp [get?, empty]

@[simp] theorem get?_insert (r : Registry η) (fd other : Fd) (registration : Registration η) :
    (r.insert fd registration).get? other =
      if fd = other then some registration else r.get? other := by
  simp [get?, insert, Std.ExtTreeMap.getElem?_insert]

@[simp] theorem get?_remove (r : Registry η) (fd other : Fd) :
    (r.remove fd).1.get? other = if fd = other then none else r.get? other := by
  unfold remove
  split
  · next h => split <;> simp_all
  · simp [get?, Std.ExtTreeMap.getElem?_erase]

@[simp] theorem get?_currentOrFresh (r : Registry η) (fd other : Fd) :
    (r.currentOrFresh fd).1.get? other = r.get? other := by
  unfold currentOrFresh
  split <;> rfl

@[simp] theorem get?_modify (r : Registry η) (fd other : Fd)
    (change : Registration η → Registration η) :
    (r.modify fd change).get? other =
      if fd = other then (r.get? fd).map change else r.get? other := by
  unfold modify
  split
  · next h => split <;> simp_all
  · next h => simp_all [get?, Std.ExtTreeMap.getElem?_insert]

end Registry

/-- The complaint about a token that leads to a registration carrying another token. -/
def Token.mismatch (held asked : Token) : String :=
  "assertion \x60left == right\x60 failed\n" ++ s!"  left: {held}\n right: {asked}"

end EventLoop
