import EventLoop.Pool.Basic

/-!
Laying down what a pool is to be like, and making it.

* `PoolBuilder` is the plan, `PoolBuilder.Choice` a change of it.
* `PoolBuilder.build` makes the pool and starts its workers in advance where that was asked for.
-/

namespace EventLoop

/-- What a pool is to be like. -/
structure PoolBuilder where
  limit : Option Nat
  prestarted : Bool
  /-- What the threads of the workers are called. -/
  name : String

namespace PoolBuilder

/-- A change of the plan. -/
inductive Choice where
  | limit (workers : Nat)
  | unbounded
  | prestarted (value : Bool)
  | name (value : String)

/-- A plan for so many workers at most. -/
def bounded (workers : Nat) : PoolBuilder := ⟨some workers, false, Pool.defaultName⟩

/-- The complaint about a limit of no workers. -/
def noWorkers : String := "max_threads must be > 0"

/-- Changes the plan. A pool must be allowed at least one worker. -/
def choose (b : PoolBuilder) : Choice → Except String PoolBuilder
  | .limit workers => if workers = 0 then .error noWorkers else .ok { b with limit := some workers }
  | .unbounded => .ok { b with limit := none }
  | .prestarted value => .ok { b with prestarted := value }
  | .name value => .ok { b with name := value }

/-- Makes the pool, given how many threads the system is going to start. A pool that could not
start all its workers in advance is shut down again. -/
def build (b : PoolBuilder) (threads : Option Nat) :
    Except Pool.SpawnFailure Pool × List Pool.Note :=
  let p := Pool.start b.limit b.name threads
  if b.prestarted then
    match p.prestart with
    | (p, notes, none) => (.ok p, notes)
    | (p, notes, some failure) => (.error failure, notes ++ p.retire.farewell)
  else (.ok p, [])

end PoolBuilder

end EventLoop
