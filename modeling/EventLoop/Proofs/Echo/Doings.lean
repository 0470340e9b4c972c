import EventLoop.Echo.Server
import Mathlib.Logic.Relation
import Mathlib.Tactic.Lemma

/-!
What the server does for a connection, taken apart. Whatever happens inside of a callback of the
server is a chain of a few kinds of doings, so that what all of them keep is kept by the callbacks.

* `Server.requestWrite`, `Server.answer` and `Server.assign` are parts of what the server does that
  have no name of their own there; `offload_eq` and `finishJob_eq` put them together again.
* `Server.Doing` lists the doings; `readRequests_doings` and `flush_doings` are the main statements
  here.
-/

namespace EventLoop.Echo.Server

/-- A connection is to be told when it can be written. -/
def requestWrite (s : Server) (fd : Fd) : Server :=
  { s with loop := { s.loop with reactor := (s.loop.reactor.requestWrite fd).1 } }

/-- A reply joins what is to be written. -/
def answer (s : Server) (fd : Fd) (bytes : List UInt8) : Server :=
  (s.appendOutbox fd bytes).requestWrite fd

/-- Hands a request to the worker, which has nothing to do. -/
def assign (s : Server) (fd : Fd) (request : List UInt8) : Server :=
  match s.pool.submit with
  | (pool, .accepted id slot, _) =>
    let pool := ((pool.handOver id).bind fun p => p.take slot).elim pool (·.1)
    { s with pool, job := some ⟨fd, request, slot⟩ }
  | (pool, .failed failure, _) => { s with pool }.print (.noWorker failure)
  | (_, .full, _) => s

lemma offload_eq (s : Server) (fd : Fd) (request : List UInt8) :
    s.offload fd request = s.finishJob.assign fd request := rfl

lemma finishJob_of_none {s : Server} (h : s.job = none) : s.finishJob = s := by
  rw [finishJob, h]

lemma finishJob_eq {s : Server} {job : Job} (h : s.job = some job) :
    s.finishJob =
      { s.answer job.fd (reply job.request) with
        pool := (s.pool.finish job.slot).getD s.pool
        job := none } := by
  rw [finishJob, h]
  rfl

@[simp] lemma finishJob_job (s : Server) : s.finishJob.job = none := by
  cases h : s.job with
  | none => rw [finishJob_of_none h, h]
  | some job => rw [finishJob_eq h]

/-! ### The doings -/

/-- One thing that the server does for a connection. The end of a job may be that of any
connection. -/
inductive Doing (fd : Fd) (s : Server) : Server → Prop
  | receives (most : Nat) : Doing fd s (s.setKernel (s.kernel.receive fd most).1)
  | sends {data : List UInt8} {k : Kernel} {count : Nat}
      (sent : s.kernel.send fd data = .ok (k, count)) : Doing fd s (s.setKernel k)
  | drops (count : Nat) : Doing fd s (s.dropOutbox fd count)
  | requests : Doing fd s (s.requestWrite fd)
  | touches : Doing fd s (s.touch fd)
  | closes : Doing fd s (s.close fd)
  | complains (error : OsError) : Doing fd s (s.print (.writeFailed error))
  | completes : Doing fd s s.finishJob
  | assigns (request : List UInt8) (idle : s.job = none) : Doing fd s (s.assign fd request)

/-- One doing after the other. -/
abbrev Doings (fd : Fd) : Server → Server → Prop := Relation.ReflTransGen (Doing fd)

lemma offload_doings (s : Server) (fd : Fd) (request : List UInt8) :
    Doings fd s (s.offload fd request) := by
  rw [offload_eq]
  exact .tail (.single .completes) (.assigns request s.finishJob_job)

/-- **Reading requests is a chain of doings**, whatever is read and whenever it ends. -/
theorem readRequests_doings (rounds : Nat) (s : Server) (fd : Fd) :
    Doings fd s (readRequests rounds s fd) := by
  induction rounds generalizing s with
  | zero => exact .refl
  | succ rounds ih =>
      have hreceives : Doing fd s (s.setKernel (s.kernel.receive fd chunkSize).1) := .receives _
      rw [readRequests]
      split
      · next k h =>
          rw [h] at hreceives
          exact .tail (.single hreceives) .closes
      · next k request _ h =>
          rw [h] at hreceives
          exact (((Relation.ReflTransGen.single hreceives).tail .touches).trans
            (offload_doings _ fd request)).trans (ih _)
      · next k e h =>
          rw [h] at hreceives
          dsimp only
          split
          · exact .single hreceives
          · exact .tail (.single hreceives) .closes

lemma onReadable_doings (s : Server) (fd : Fd) : Doings fd s (s.onReadable fd) :=
  readRequests_doings _ s fd

lemma writeReplies_doings (rounds : Nat) (s : Server) (fd : Fd) :
    Doings fd s (writeReplies rounds s fd).1 := by
  induction rounds generalizing s with
  | zero => exact .refl
  | succ rounds ih =>
      rw [writeReplies]
      split
      · exact .refl
      · split
        · next k h => exact .single (.sends h)
        · next k count _ h =>
            exact ((Relation.ReflTransGen.single (.sends h)).tail (.drops count)).trans (ih _)
        · next e h =>
            split
            · exact .single .requests
            · exact .single (.complains e)

/-- **Writing replies is a chain of doings**, with the end of the connection if that fails. -/
theorem flush_doings (s : Server) (fd : Fd) : Doings fd s (s.flush fd) := by
  have h := writeReplies_doings ((s.outbox fd).size + 1) s fd
  rw [flush]
  dsimp only
  split
  · exact h.tail .closes
  · exact h

lemma handle_doings (s : Server) (handler : Handler) : ∃ fd, Doings fd s (s.handle handler) := by
  cases handler with
  | reader fd => exact ⟨fd, onReadable_doings s fd⟩
  | writer fd => exact ⟨fd, flush_doings s fd⟩

end EventLoop.Echo.Server
