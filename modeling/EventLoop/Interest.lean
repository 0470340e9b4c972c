/-!
What a caller wants to hear about a descriptor: that it can be read, that it can be written, both
or neither.

* `Interest` is the pair of the two wishes; `none`, `readOnly`, `writeOnly` and `both` are its four
  values.
* `Interest.union` asks for whatever one of two interests asks for.
* `Interest.render` is the text that log lines show, `Interest.name` the short name of each value
  and `Interest.ofName` reads it.
-/

namespace EventLoop

/-- The kinds of readiness that a caller asks to be told about. -/
structure Interest where
  read : Bool
  write : Bool
deriving DecidableEq, Inhabited

namespace Interest

/-- The interest in nothing. -/
def none : Interest := ⟨false, false⟩

/-- The interest in reading alone. -/
def readOnly : Interest := ⟨true, false⟩

/-- The interest in writing alone. -/
def writeOnly : Interest := ⟨false, true⟩

/-- The interest in reading and writing. -/
def both : Interest := ⟨true, true⟩

/-- An interest is empty when it asks for nothing. -/
def isEmpty (i : Interest) : Bool := !i.read && !i.write

/-- The union of two interests asks for whatever one of them asks for. -/
def union (i j : Interest) : Interest := ⟨i.read || j.read, i.write || j.write⟩

/-- One copy of a thing for each part of the interest. -/
def each {α : Type} (i : Interest) (x : α) : List α :=
  (if i.read then [x] else []) ++ if i.write then [x] else []

/-- The text of an interest names both wishes. -/
def render (i : Interest) : String :=
  s!"Interest \x7b read: {i.read}, write: {i.write} \x7d"

/-- The short name of an interest. -/
def name (i : Interest) : String :=
  match i.read, i.write with
  | false, false => "none"
  | true, false => "read"
  | false, true => "write"
  | true, true => "both"

/-- The interest of a short name; other names ask for nothing. -/
def ofName (s : String) : Interest :=
  if s = "read" then readOnly
  else if s = "write" then writeOnly
  else if s = "both" then both
  else none

/-- How many different interests a list holds. -/
def distinct (is : List Interest) : Nat := is.eraseDups.length

@[simp] theorem isEmpty_none : none.isEmpty = true := rfl

@[simp] theorem union_none (i : Interest) : i.union none = i := by
  cases i; simp [union, none]

@[simp] theorem ofName_name (i : Interest) : ofName i.name = i := by
  rcases i with ⟨_ | _, _ | _⟩ <;> decide

theorem isEmpty_iff {i : Interest} : i.isEmpty = true ↔ i = none := by
  rcases i with ⟨_ | _, _ | _⟩ <;> simp [isEmpty, none]

end Interest

end EventLoop
