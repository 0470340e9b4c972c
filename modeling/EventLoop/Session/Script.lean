/-!
Callbacks that follow a script. A session is a sequence of operations on one component; what the
component calls back does operations of the same kind, laid down in advance for each of its runs.

* `Script` lays down what a callback does in which run.
* `Panic` is the reason why a callback broke off.
* `Happening` is what a session records of the callbacks.
-/

namespace EventLoop.Session

/-- What a callback does whenever it runs. -/
structure Script (α : Type) where
  /-- The name under which the callback appears in the record. -/
  tag : String
  /-- What it does in its first, second, … run. -/
  rounds : List (List α)
  /-- Whether later runs repeat the last round. -/
  repeats : Bool
  /-- Whether its release is recorded. -/
  tracked : Bool

/-- What a callback does in a run, the first run being number zero. -/
def Script.round {α : Type} (s : Script α) (run : Nat) : List α :=
  match s.rounds[run]? with
  | some actions => actions
  | none => if s.repeats then s.rounds.getLast?.getD [] else []

/-- Why a callback broke off. -/
inductive Panic where
  /-- A guard ended the run that it guards. -/
  | guard
  | message (text : String)
deriving DecidableEq

/-- What a session records of the callbacks. -/
inductive Happening (ι ρ : Type) where
  /-- A callback begins its run. -/
  | ran (tag : String) (run : Nat)
  /-- A consumer begins its run with a batch of items. -/
  | consumed (tag : String) (run : Nat) (items : List ι)
  /-- An action of a callback was answered. -/
  | acted (tag : String) (reply : ρ)
  /-- A callback was released. -/
  | released (tag : String)

end EventLoop.Session
