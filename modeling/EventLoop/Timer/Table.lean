import Std.Data.ExtTreeMap
import EventLoop.Timer.Clock

/-!
The table of pending timers. Entries stand in the order in which they fall due, and an index leads
from the number of a timer to its deadline, so that a timer can be withdrawn by number.

* `Timers` is the table; `Timers.empty` has no timers.
* `Timers.insert` adds a timer under the next number.
* `Timers.remove` withdraws a timer by number.
* `Timers.popDue` takes the first timer that is due, `Timers.popAllDue` all of them.
* `Timers.nextDeadline?` is the earliest deadline, `Timers.size` the number of pending timers.
-/

namespace EventLoop

/-- The number of a timer. Numbers are handed out in ascending order. -/
abbrev TimerId := Nat

/-- The text of a timer number. -/
def TimerId.render (id : TimerId) : String := s!"timer#{id}"

/-- The text of a timer number for developers. -/
def TimerId.debug (id : TimerId) : String := s!"TimerId({id})"

/-- The place of a timer in the order of firing. -/
structure TimerKey where
  deadline : Instant
  id : TimerId
deriving DecidableEq, Inhabited

namespace TimerKey

/-- Timers fire by deadline, and in the order of their numbers where deadlines are equal. -/
def compare (a b : TimerKey) : Ordering :=
  (Ord.compare a.deadline b.deadline).then (Ord.compare a.id b.id)

/-- The order of firing as a relation. -/
def before (a b : TimerKey) : Bool :=
  a.deadline < b.deadline || (a.deadline == b.deadline && a.id < b.id)

/-- The relation and the comparison tell the same order. -/
theorem before_iff_compare {a b : TimerKey} : a.before b = true ↔ a.compare b = .lt := by
  simp only [before, compare, Bool.or_eq_true, Bool.and_eq_true, decide_eq_true_eq, beq_iff_eq,
    Ordering.then_eq_lt, Int.compare_eq_lt, Int.compare_eq_eq, Nat.compare_eq_lt]

theorem before_trans {a b c : TimerKey} (hab : a.before b = true) (hbc : b.before c = true) :
    a.before c = true := by
  simp only [before, Bool.or_eq_true, Bool.and_eq_true, decide_eq_true_eq, beq_iff_eq] at *
  grind

end TimerKey

/-- The pending timers, each with what it carries. -/
structure Timers (α : Type) where
  /-- The timers in the order of firing. -/
  entries : List (TimerKey × α)
  /-- The deadline of every pending timer. -/
  index : Std.ExtTreeMap TimerId Instant
  /-- The number that the next timer gets. -/
  nextId : TimerId
  /-- A stopped table is not worked off any more. -/
  stopped : Bool

namespace Timers

variable {α : Type}

/-- A table without timers. -/
def empty : Timers α := ⟨[], ∅, 0, false⟩

instance : Inhabited (Timers α) := ⟨empty⟩

/-- The entries with one more at its place in the order of firing. -/
def place (key : TimerKey) (payload : α) : List (TimerKey × α) → List (TimerKey × α)
  | [] => [(key, payload)]
  | head :: rest =>
    if key.before head.1 then (key, payload) :: head :: rest
    else head :: place key payload rest

/-- Adds a timer under the next number, and says which number that is. -/
def insert (t : Timers α) (deadline : Instant) (payload : α) : Timers α × TimerId :=
  ({ t with
      entries := place ⟨deadline, t.nextId⟩ payload t.entries
      index := t.index.insert t.nextId deadline
      nextId := t.nextId + 1 },
    t.nextId)

/-- Withdraws the timer of a number and hands back what it carried, if it is pending. -/
def remove (t : Timers α) (id : TimerId) : Timers α × Option α :=
  match t.index[id]? with
  | none => (t, none)
  | some deadline =>
    let key : TimerKey := ⟨deadline, id⟩
    ({ t with
        entries := t.entries.eraseP (·.1 == key)
        index := t.index.erase id },
      (t.entries.find? (·.1 == key)).map (·.2))

/-- Takes the first timer out of the table if its deadline has been reached. -/
def popDue (t : Timers α) (now : Instant) : Timers α × Option (TimerId × α) :=
  match t.entries with
  | [] => (t, none)
  | (key, payload) :: rest =>
    if key.deadline ≤ now then
      ({ t with entries := rest, index := t.index.erase key.id }, some (key.id, payload))
    else (t, none)

/-- Takes all timers whose deadline has been reached, in the order of firing. -/
def popAllDue (t : Timers α) (now : Instant) : Timers α × List (TimerId × α) :=
  go t.entries.length t
where
  /-- Pops due timers, so many at most. -/
  go : Nat → Timers α → Timers α × List (TimerId × α)
    | 0, t => (t, [])
    | fuel + 1, t =>
      match t.popDue now with
      | (t, none) => (t, [])
      | (t, some popped) =>
        let (t, more) := go fuel t
        (t, popped :: more)

/-- The earliest deadline of a pending timer. -/
def nextDeadline? (t : Timers α) : Option Instant := t.entries.head?.map (·.1.deadline)

/-- How many timers are pending. -/
def size (t : Timers α) : Nat := t.entries.length

/-- Marks the table as stopped. -/
def stop (t : Timers α) : Timers α := { t with stopped := true }

/-- Placing an entry adds it and loses no other. -/
theorem place_perm (key : TimerKey) (payload : α) (entries : List (TimerKey × α)) :
    (place key payload entries).Perm ((key, payload) :: entries) := by
  induction entries with
  | nil => exact .refl _
  | cons head rest ih =>
    unfold place
    split
    · exact .refl _
    · exact (ih.cons head).trans (.swap _ _ _)

@[simp] theorem size_insert (t : Timers α) (deadline : Instant) (payload : α) :
    (t.insert deadline payload).1.size = t.size + 1 := by
  simpa [insert, size] using (place_perm ⟨deadline, t.nextId⟩ payload t.entries).length_eq

end Timers

end EventLoop
