import EventLoop.Proofs.Echo.Tables

/-!
The worker of the echo server, and the driver of its reactor while connections are served.

* `Pool.Rests` and `Pool.Works` are what the pool of the server looks like: it has one worker at
  most, since a request is handed over when the one before is done with.
* `Server.Still` says that the driver stands where it stood; `Doing.still` says that nothing that is
  done for a connection moves it.
* `Server.Fit` says that the worker has a job exactly while the server knows of one, and that no
  wakeup is under way; `Doing.fit` and `Stride.fit` are the main statements here.
-/

namespace EventLoop

namespace Pool

/-- Nobody has a job: there is no worker yet, or one that waits. -/
inductive Rests (workers : Nat) : Pool → Prop
  | unstaffed (next : JobId) :
      Rests workers ⟨[], [], [], 0, 0, some workers, defaultName, none, false, next⟩
  | waiting (next : JobId) :
      Rests workers ⟨[.fresh], [0], [], 0, 0, some workers, defaultName, none, false, next⟩

/-- The one worker has a job. -/
inductive Works (workers : Nat) : Pool → Prop
  | running (job next : JobId) :
      Works workers
        ⟨[⟨none, .running job⟩], [], [], 0, 0, some workers, defaultName, none, false, next⟩

variable {workers : Nat} {p : Pool}

/-- A pool that rests accepts the next job. -/
lemma Rests.submit (h : p.Rests workers) (hworkers : 0 < workers) : ∃ job notes, p.submit =
    (⟨[.fresh], [], [(job, 0)], 0, 0, some workers, defaultName, none, false, job + 1⟩,
      .accepted job 0, notes) := by
  cases h with
  | unstaffed next =>
      have hname : endOfName ∉ (threadName defaultName 0).toList := by decide
      refine ⟨next, [.spawned 0, .handedToNew 0], ?_⟩
      simp [Pool.submit, hasRoom, spawn, size, claim, hworkers, hname]
  | waiting next => exact ⟨next, _, rfl⟩

/-- The job that was accepted comes to the worker. -/
lemma take_handOver (workers : Nat) (job : JobId) :
    (((⟨[.fresh], [], [(job, 0)], 0, 0, some workers, defaultName, none, false, job + 1⟩ :
      Pool).handOver job).bind fun p => p.take 0) =
      some (⟨[⟨none, .running job⟩], [], [], 0, 0, some workers, defaultName, none, false, job + 1⟩,
        job) := by
  simp [handOver, take, setSlot, Slot.fresh]

lemma Works.finish (h : p.Works workers) : ∃ q, p.finish 0 = some q ∧ q.Rests workers := by
  cases h with
  | running job next => exact ⟨_, rfl, .waiting next⟩

end Pool

namespace Echo.Server

open Reactor (Direction)

/-! ### Where the driver stands -/

/-- The driver stands where it stood, and the server has the same callbacks. -/
structure Still (s s' : Server) : Prop where
  stage : s'.loop.stage = s.loop.stage
  active : s'.loop.active = s.loop.active
  wakeups : s'.loop.reactor.wakeups = s.loop.reactor.wakeups
  nextCallback : s'.loop.nextCallback = s.loop.nextCallback
  handlers : s'.handlers = s.handlers

lemma Still.refl (s : Server) : Still s s := ⟨rfl, rfl, rfl, rfl, rfl⟩

lemma Still.trans {s s' s'' : Server} (h : Still s s') (h' : Still s' s'') : Still s s'' :=
  ⟨h'.stage.trans h.stage, h'.active.trans h.active, h'.wakeups.trans h.wakeups,
    h'.nextCallback.trans h.nextCallback, h'.handlers.trans h.handlers⟩

lemma Still.running {s s' : Server} (h : Still s s') : s'.running = s.running := by
  rw [Server.running, Server.running, h.active, h.handlers]

lemma requestWrite_still (s : Server) (fd : Fd) : Still s (s.requestWrite fd) :=
  ⟨rfl, rfl, (s.loop.reactor.requested fd).sameWork.wakeups, rfl, rfl⟩

lemma touch_still (s : Server) (fd : Fd) : Still s (s.touch fd) := by
  rw [touch]
  split
  · exact .refl s
  · split <;> exact ⟨rfl, rfl, rfl, rfl, rfl⟩

lemma close_still (s : Server) (fd : Fd) : Still s (s.close fd) := by
  rw [close]
  split
  · exact .refl s
  · exact ⟨rfl, rfl, (s.loop.reactor.removed fd .both).sameWork.wakeups, rfl, rfl⟩

lemma assign_still (s : Server) (fd : Fd) (request : List UInt8) :
    Still s (s.assign fd request) := by
  rw [assign]
  split <;> exact ⟨rfl, rfl, rfl, rfl, rfl⟩

lemma answer_still (s : Server) (fd : Fd) (bytes : List UInt8) : Still s (s.answer fd bytes) := by
  have hjoins : Still s (s.appendOutbox fd bytes) := ⟨rfl, rfl, rfl, rfl, rfl⟩
  exact hjoins.trans (requestWrite_still _ fd)

lemma finishJob_still (s : Server) : Still s s.finishJob := by
  cases hjob : s.job with
  | none =>
      rw [finishJob_of_none hjob]
      exact .refl s
  | some job =>
      rw [finishJob_eq hjob]
      exact (s.answer_still job.fd (reply job.request)).trans ⟨rfl, rfl, rfl, rfl, rfl⟩

/-- Nothing that the server does for a connection moves the driver. -/
lemma Doing.still {fd : Fd} {s s' : Server} (hdoing : Doing fd s s') : Still s s' := by
  cases hdoing with
  | receives _ => exact ⟨rfl, rfl, rfl, rfl, rfl⟩
  | sends _ => exact ⟨rfl, rfl, rfl, rfl, rfl⟩
  | drops _ => exact ⟨rfl, rfl, rfl, rfl, rfl⟩
  | requests => exact s.requestWrite_still fd
  | touches => exact s.touch_still fd
  | closes => exact s.close_still fd
  | complains _ => exact ⟨rfl, rfl, rfl, rfl, rfl⟩
  | completes => exact s.finishJob_still
  | assigns request _ => exact s.assign_still fd request

lemma Doings.still {fd : Fd} {s s' : Server} (hdoings : Doings fd s s') : Still s s' := by
  induction hdoings with
  | refl => exact .refl s
  | tail _ hdoing ih => exact ih.trans hdoing.still

/-! ### The worker -/

/-- The worker rests while there is no job, and works on it while there is one. -/
inductive Staffed (workers : Nat) : Option Job → Pool → Prop
  | rests {p : Pool} (rests : p.Rests workers) : Staffed workers none p
  | works {p : Pool} {fd : Fd} {request : List UInt8} (works : p.Works workers) :
      Staffed workers (some ⟨fd, request, 0⟩) p

variable {workers : Nat} {s s' : Server}

/-- What handing over a request does. -/
lemma assign_of_rests (hworkers : 0 < workers) (h : s.pool.Rests workers) (fd : Fd)
    (request : List UInt8) : ∃ p, p.Works workers ∧
      s.assign fd request = { s with pool := p, job := some ⟨fd, request, 0⟩ } := by
  obtain ⟨job, notes, hsubmit⟩ := h.submit hworkers
  refine ⟨_, .running job (job + 1), ?_⟩
  rw [assign, hsubmit]
  simp only [Pool.take_handOver, Option.elim_some]

lemma finishJob_staffed (h : Staffed workers s.job s.pool) :
    Staffed workers s.finishJob.job s.finishJob.pool := by
  cases hjob : s.job with
  | none =>
      rw [finishJob_of_none hjob]
      exact h
  | some job =>
      rw [hjob] at h
      cases h with
      | works hworks =>
          obtain ⟨q, hq, hrests⟩ := hworks.finish
          rw [finishJob_eq hjob]
          simp only [hq, Option.getD_some]
          exact .rests hrests

lemma assign_staffed (hworkers : 0 < workers) (h : Staffed workers s.job s.pool)
    (idle : s.job = none) (fd : Fd) (request : List UInt8) :
    Staffed workers (s.assign fd request).job (s.assign fd request).pool := by
  rw [idle] at h
  cases h with
  | rests hrests =>
      obtain ⟨p, hworks, hassign⟩ := assign_of_rests hworkers hrests fd request
      rw [hassign]
      exact .works hworks

/-! ### What holds between two moves -/

/-- The worker has a job exactly while the server knows of one, no wakeup is under way, and every
callback that runs and every open number came from somewhere. -/
structure Fit (workers : Nat) (s : Server) : Prop where
  staffed : Staffed workers s.job s.pool
  unwoken : s.loop.reactor.wakeups = []
  unworked : s.loop.stage.unworked = []
  drawn : ∀ a, s.loop.active = some a → a.callback < s.loop.nextCallback
  numbered : s.kernel.Numbered

lemma Fit.still (h : Fit workers s) (hstill : Still s s') (hnumbered : s'.kernel.Numbered)
    (hstaffed : Staffed workers s'.job s'.pool) : Fit workers s' where
  staffed := hstaffed
  unwoken := hstill.wakeups.trans h.unwoken
  unworked := by rw [hstill.stage, h.unworked]
  drawn a ha := by
    rw [hstill.nextCallback]
    exact h.drawn a (hstill.active ▸ ha)
  numbered := hnumbered

/-! ### Files -/

lemma requestWrite_files (s : Server) (fd : Fd) : s.kernel.SameFiles (s.requestWrite fd).kernel :=
  (s.loop.reactor.requested fd).tells.sameFiles

lemma touch_kernel (s : Server) (fd : Fd) : (s.touch fd).kernel = s.kernel := by
  rw [touch]
  split
  · rfl
  · split <;> rfl

lemma assign_kernel (s : Server) (fd : Fd) (request : List UInt8) :
    (s.assign fd request).kernel = s.kernel := by
  rw [assign]
  split <;> rfl

lemma answer_files (s : Server) (fd : Fd) (bytes : List UInt8) :
    s.kernel.SameFiles (s.answer fd bytes).kernel := (s.appendOutbox fd bytes).requestWrite_files fd

lemma finishJob_files (s : Server) : s.kernel.SameFiles s.finishJob.kernel := by
  cases hjob : s.job with
  | none =>
      rw [finishJob_of_none hjob]
      exact .refl s.kernel
  | some job =>
      rw [finishJob_eq hjob]
      exact s.answer_files job.fd (reply job.request)

lemma close_numbered (h : s.kernel.Numbered) (fd : Fd) : (s.close fd).kernel.Numbered := by
  rw [close]
  split
  · exact h
  · exact (Kernel.stirred_shut _ fd true true).numbered
      ((s.loop.reactor.removed fd .both).tells.sameFiles.numbered h)

/-- **Whatever the server does for a connection keeps it fit for the next request.** -/
theorem Doing.fit {fd : Fd} (hworkers : 0 < workers) (hdoing : Doing fd s s')
    (h : Fit workers s) : Fit workers s' := by
  have hstill := hdoing.still
  cases hdoing with
  | receives most =>
      exact h.still hstill ((Kernel.stirred_receive s.kernel fd most).numbered h.numbered) h.staffed
  | sends sent => exact h.still hstill ((Kernel.stirred_send sent).numbered h.numbered) h.staffed
  | drops count => exact h.still hstill h.numbered h.staffed
  | requests => exact h.still hstill ((s.requestWrite_files fd).numbered h.numbered) h.staffed
  | touches =>
      refine h.still hstill (by rw [touch_kernel]; exact h.numbered) ?_
      have hkept : (s.touch fd).job = s.job ∧ (s.touch fd).pool = s.pool := by
        rw [touch]
        split
        · exact ⟨rfl, rfl⟩
        · split <;> exact ⟨rfl, rfl⟩
      rw [hkept.1, hkept.2]
      exact h.staffed
  | closes =>
      refine h.still hstill (close_numbered h.numbered fd) ?_
      have hkept : (s.close fd).job = s.job ∧ (s.close fd).pool = s.pool := by
        rw [close]
        split <;> exact ⟨rfl, rfl⟩
      rw [hkept.1, hkept.2]
      exact h.staffed
  | complains error => exact h.still hstill h.numbered h.staffed
  | completes =>
      exact h.still hstill (s.finishJob_files.numbered h.numbered) (finishJob_staffed h.staffed)
  | assigns request idle =>
      exact h.still hstill (by rw [assign_kernel]; exact h.numbered)
        (assign_staffed hworkers h.staffed idle fd request)

lemma Doings.fit {fd : Fd} (hworkers : 0 < workers) (hdoings : Doings fd s s')
    (h : Fit workers s) : Fit workers s' := by
  induction hdoings with
  | refl => exact h
  | tail _ hdoing ih => exact hdoing.fit hworkers ih

/-- The tables are consistent, and the server is fit for the next request. -/
structure Sound (workers : Nat) (s : Server) : Prop where
  orderly : Orderly s
  fit : Fit workers s

lemma Doing.sound {fd : Fd} (hworkers : 0 < workers) (hdoing : Doing fd s s')
    (h : Sound workers s) : Sound workers s' :=
  ⟨(hdoing.orderly h.orderly).1, hdoing.fit hworkers h.fit⟩

lemma Sound.finishJob (hworkers : 0 < workers) (h : Sound workers s) : Sound workers s.finishJob :=
  have hdoing : Doing 0 s s.finishJob := .completes
  hdoing.sound hworkers h

lemma Sound.assign (hworkers : 0 < workers) (h : Sound workers s) (idle : s.job = none) (fd : Fd)
    (request : List UInt8) : Sound workers (s.assign fd request) :=
  (Doing.assigns request idle).sound hworkers h

lemma Doings.sound {fd : Fd} (hworkers : 0 < workers) (hdoings : Doings fd s s')
    (h : Sound workers s) : Sound workers s' :=
  ⟨(hdoings.orderly h.orderly).1, hdoings.fit hworkers h.fit⟩

end Echo.Server

end EventLoop
