import Std.Data.ExtTreeMap
import EventLoop.Callable.BoundedFn

/-!
A collection of callables: any number of slots for them, and a hand that holds one while it is
moved from one slot to another, passed on by value, or given up.

* `Callables` has the slots, the hand, and the surroundings of the closures.
* `Callables.Move` is what can be done, and `Callables.step` does it.
* `Callables.perform` does several moves in turn, up to the first panic.
-/

namespace EventLoop

/-- The number of a slot for a callable. -/
abbrev PlaceId := Nat

/-- Callables in slots, and a hand that moves them. What is not there is empty. -/
structure Callables (κ σ : Type) where
  slots : Std.ExtTreeMap PlaceId (BoundedFn κ σ)
  hand : BoundedFn κ σ
  /-- What the closures can reach outside of themselves. -/
  world : σ
  nextInstance : Nat

namespace Callables

open BoundedFn (Outcome Note)

variable {κ σ : Type}

/-- Where a callable is. -/
inductive Place where
  | slot (n : PlaceId)
  | hand
deriving DecidableEq

/-- What can be done with callables. -/
inductive Move (κ σ : Type) where
  /-- Makes a callable of a closure, in the hand. -/
  | create (type : VTable κ σ) (captures : κ)
  /-- Copies a slot into the hand. -/
  | copy (n : PlaceId)
  /-- Takes the closure of a slot into the hand, which leaves the slot empty. -/
  | grab (n : PlaceId)
  /-- Assigns what the hand holds to a slot, where the old callable is dropped. -/
  | put (n : PlaceId)
  /-- Drops the closure of a place, whose callable stays. -/
  | clear (place : Place)
  /-- Drops the callable of a place. -/
  | drop (place : Place)
  /-- Exchanges two slots. -/
  | swap (m n : PlaceId)
  /-- Calls a callable, which fails when it is empty. -/
  | call (place : Place)
  /-- Calls a callable, passing over an empty one. -/
  | invoke (place : Place)

/-- No callables. -/
def start (world : σ) : Callables κ σ := ⟨∅, .empty, world, 0⟩

/-- The callable at a place. -/
def get (b : Callables κ σ) : Place → BoundedFn κ σ
  | .slot n => b.slots[n]?.getD .empty
  | .hand => b.hand

/-- Writes a callable over the one at a place. -/
def set (b : Callables κ σ) (place : Place) (f : BoundedFn κ σ) : Callables κ σ :=
  match place with
  | .slot n => { b with slots := b.slots.insert n f }
  | .hand => { b with hand := f }

/-- Gives up the callable at a place as it is. -/
def forget (b : Callables κ σ) (place : Place) : Callables κ σ :=
  match place with
  | .slot n => { b with slots := b.slots.erase n }
  | .hand => { b with hand := .empty }

/-- Replaces the callable at a place by what an operation on it makes of it. -/
def update (b : Callables κ σ) (place : Place)
    (op : BoundedFn κ σ → σ → BoundedFn κ σ × σ × Outcome × List (Note κ σ)) :
    Callables κ σ × Outcome × List (Note κ σ) :=
  let (f, world, outcome, notes) := op (b.get place) b.world
  ({ b with world }.set place f, outcome, notes)

/-- Drops the callable at a place. -/
def dropAt (b : Callables κ σ) (place : Place) : Callables κ σ × Outcome × List (Note κ σ) :=
  let (b, outcome, notes) := b.update place BoundedFn.clear
  (b.forget place, outcome, notes)

/-- Uses up what the hand holds in one call, passing over an empty callable. -/
def once : List (Move κ σ) := [.invoke .hand, .drop .hand]

/-- Does one move. A hand that holds something cannot take hold of something else. -/
def step (b : Callables κ σ) :
    Move κ σ → Option (Callables κ σ × Outcome × List (Note κ σ))
  | .create type captures =>
    if !b.hand.isEmpty then none
    else
      let what : Instance κ σ := ⟨b.nextInstance, type, captures⟩
      some ({ b with hand := .new what, nextInstance := b.nextInstance + 1 }, .done,
        [.created what])
  | .copy n =>
    if !b.hand.isEmpty then none
    else
      let (copy, world, outcome, notes) := (b.get (.slot n)).clone b.world b.nextInstance
      let nextInstance := if copy.isEmpty then b.nextInstance else b.nextInstance + 1
      some ({ b with hand := copy, world, nextInstance }, outcome, notes)
  | .grab n =>
    if !b.hand.isEmpty then none
    else
      let (taken, left) := (b.get (.slot n)).take
      some ((b.set (.slot n) left).set .hand taken, .done, [])
  | .put n =>
    let (b, outcome, notes) := b.dropAt (.slot n)
    some ((b.set (.slot n) b.hand).forget .hand, outcome, notes)
  | .clear place => some (b.update place BoundedFn.clear)
  | .drop place => some (b.dropAt place)
  | .swap m n =>
    some ((b.set (.slot m) (b.get (.slot n))).set (.slot n) (b.get (.slot m)), .done, [])
  | .call place => some (b.update place BoundedFn.call)
  | .invoke place => some (b.update place BoundedFn.invoke)

/-- Does several moves in turn. A panic ends the sequence, and what the hand holds then is
dropped. -/
def perform (b : Callables κ σ) :
    List (Move κ σ) → Callables κ σ × Outcome × List (Note κ σ)
  | [] => (b, .done, [])
  | move :: moves =>
    match b.step move with
    | none => perform b moves
    | some (b, .panicked message, notes) =>
      let (b, _, more) := b.dropAt .hand
      (b, .panicked message, notes ++ more)
    | some (b, outcome, notes) =>
      let (b, later, more) := perform b moves
      (b, if later = .done then outcome else later, notes ++ more)

end Callables

end EventLoop
