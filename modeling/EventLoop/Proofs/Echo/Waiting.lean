import EventLoop.Proofs.Echo.Conversation

/-!
A client that the server does not know of yet. It may send already; what it sends waits for the
server.

* `Server.Waiting` says that a client waits, and with what. `Doing.waiting` says that nothing that
  the server does for others ends this.
* `Waiting.connect` is the main statement here: the server can begin the connection, and a
  conversation begins.
-/

namespace EventLoop.Echo.Server

open Reactor (Direction)

/-- A client waits for the server: its line is up, and everything that it sent is under way. -/
structure Waiting (c : Client) (sent : List UInt8) (s : Server) : Prop where
  line : c.Line s.kernel sent []
  unregistered : s.loop.reactor.registry.get? c.served = none
  idle : s.jobOf c.served = none
  own : s.connections[c.own]? = none
  cramped : c.limit = some 0 → sent = []

variable {c : Client} {sent : List UInt8} {workers : Nat} {s s' : Server}

lemma Waiting.apart (h : Waiting c sent s) (hs : Apart c s s') : Waiting c sent s' :=
  ⟨h.line.beside hs.files, hs.registered.trans h.unregistered, hs.job.trans h.idle,
    (hs.connected _ (.inr rfl)).mpr h.own, h.cramped⟩

/-- Whatever the server does for others, the client goes on waiting. -/
lemma Doing.waiting {fd : Fd} (hdoing : Doing fd s s') (hfd : c.Other fd) (ho : Orderly s)
    (h : Waiting c sent s) : Waiting c sent s' := by
  rcases hdoing.apart h.line ho.wired.attentive.paired hfd with rfl | hapart
  · exact h.apart (finishJob_apart h.idle)
  · exact h.apart hapart

lemma Doings.waiting {fd : Fd} (hdoings : Doings fd s s') (hfd : c.Other fd) (ho : Orderly s)
    (h : Waiting c sent s) : Waiting c sent s' := by
  induction hdoings with
  | refl => exact h
  | tail hbefore hdoing ih => exact hdoing.waiting hfd (Doings.orderly hbefore ho).1 ih

/-! ### The client's own moves -/

/-- What the client sends waits behind what it sent before. -/
lemma Waiting.send (h : Waiting c sent s) (data : List UInt8) :
    (∃ k taken, s.kernel.send c.own data = .ok (k, taken.length) ∧ data.take taken.length = taken ∧
        Waiting c (sent ++ taken) (s.setKernel k)) ∨
      s.kernel.send c.own data = .error .wouldBlock := by
  rcases h.line.send data with ⟨k, taken, hsend, htaken, -, hnothing, hline⟩ | hsend
  · refine .inl ⟨k, taken, hsend, htaken, hline, h.unregistered, h.idle, h.own, fun hlimit => ?_⟩
    rw [h.cramped hlimit, hnothing hlimit, List.append_nil]
  · exact .inr hsend

/-- There is nothing to read for the client yet. -/
lemma Waiting.receiveAll (h : Waiting c sent s) (most : Option Nat) :
    (s.kernel.receiveAll c.own most).2.1 = [] ∧
      Waiting c sent (s.setKernel (s.kernel.receiveAll c.own most).1) := by
  obtain ⟨rest, hrest, hline⟩ := h.line.symm.receiveAll most
  obtain ⟨hnothing, rfl⟩ := List.append_eq_nil_iff.mp hrest.symm
  exact ⟨hnothing, hline.symm, h.unregistered, h.idle, h.own, h.cramped⟩

/-! ### The beginning of a conversation -/

/-- Registering a callback for the end of a connection, in a direction that has none. -/
lemma register_isOk (hagreed : s.loop.reactor.Agreed) {fd : Fd} {f : FileId}
    (hf : s.kernel.fileOf? fd = some f) (he : (s.kernel.endpoint? f).isSome) {i : Interest}
    {d : Direction} (hcovers : ∀ d', i.covers d' = true ↔ d' = d)
    (hfree : s.loop.reactor.handlerOf fd d = none) (handler : Handler) :
    ∃ t, s.register fd i handler = (t, true) ∧ s.kernel.SameFiles t.kernel ∧
      t.connections = s.connections ∧ t.outboxes = s.outboxes ∧ t.job = s.job ∧
      t.loop.reactor.Agreed ∧
      ∀ d', d' ≠ d → t.loop.reactor.handlerOf fd d' = s.loop.reactor.handlerOf fd d' := by
  have hadded := s.loop.reactor.added fd i s.loop.nextCallback
  have hapart : (s.loop.reactor.registry.currentOrFresh fd).2.overlaps i = false := by
    rw [← Reactor.currentOrFresh_handler] at hfree
    have hread := hcovers .reading
    have hwrite := hcovers .writing
    cases d <;> simp_all [Registration.overlaps, Registration.handler, Interest.covers]
  have hasked : i.isEmpty = false := by
    have hread := hcovers .reading
    have hwrite := hcovers .writing
    cases d <;> simp_all [Interest.isEmpty, Interest.covers]
  have hok := hagreed.add_isOk s.loop.nextCallback hf (Kernel.canWatch_of_endpoint he) hasked hapart
  refine ⟨_, Prod.ext rfl hok, hadded.tells.sameFiles, rfl, rfl, rfl, hadded.agreed hagreed,
    fun d' hd' => ?_⟩
  show (s.loop.add fd i).1.reactor.handlerOf fd d' = _
  rw [handlerOf_add, if_neg]
  exact fun hnew => hd' ((hcovers d').mp hnew.2.2)

/-- The server can begin a connection for a number that it has nothing to do with, if that stands
for the end of a connection. -/
lemma connect_begins (ho : Orderly s) {fd : Fd} {f : FileId}
    (hfree : ∀ d, s.loop.reactor.handlerOf fd d = none) (hf : s.kernel.fileOf? fd = some f)
    (he : (s.kernel.endpoint? f).isSome) :
    s.kernel.SameFiles (s.connect fd).1.kernel ∧
      (s.connect fd).1.connections =
        s.connections.insert fd ⟨some s.scheduler.timers.nextId⟩ ∧
      (s.connect fd).1.outboxes = s.outboxes.insert fd #[] ∧ (s.connect fd).1.job = s.job := by
  have hbegun := begun_eq ho fd
  have hloop : (s.begun fd).loop = s.loop := by rw [hbegun]
  have hkernel : (s.begun fd).kernel = s.kernel := by rw [kernel, hloop]; rfl
  obtain ⟨t, hreads, hfiles, hconnections, houtboxes, hjob, htagreed, hthandlerOf⟩ :=
    register_isOk (s := s.begun fd) (by rw [hloop]; exact ho.wired.agreed) (by rwa [hkernel])
      (by rwa [hkernel]) covers_readOnly (by rw [hloop]; exact hfree .reading) (.reader fd)
  have hf' : t.kernel.fileOf? fd = some f := by rw [hfiles.fileOf?, hkernel, hf]
  have he' : (t.kernel.endpoint? f).isSome := by rwa [hfiles.endpoint?, hkernel]
  have hfree' : t.loop.reactor.handlerOf fd .writing = none := by
    rw [hthandlerOf .writing (by decide), hloop, hfree]
  obtain ⟨u, hwrites, hfiles', hconnections', houtboxes', hjob', -, -⟩ :=
    register_isOk htagreed hf' he' covers_writeOnly hfree' (.writer fd)
  have hconnected := connected_of_connect s fd
  generalize (s.connect fd).1 = s' at hconnected
  cases hconnected with
  | unread reads => simp [hreads] at reads
  | unwritten reads writes =>
      obtain ⟨rfl, -⟩ := Prod.mk.inj (hreads.symm.trans reads)
      simp [hwrites] at writes
  | opened reads writes =>
      obtain ⟨rfl, -⟩ := Prod.mk.inj (hreads.symm.trans reads)
      obtain ⟨rfl, -⟩ := Prod.mk.inj (hwrites.symm.trans writes)
      rw [hkernel] at hfiles
      refine ⟨hfiles.trans hfiles', ?_, ?_, ?_⟩
      · rw [hconnections', hconnections, hbegun]
      · rw [houtboxes', houtboxes, hbegun]
      · rw [hjob', hjob, hbegun]

/-- **With the connection a conversation begins**, in which nothing was read so far. -/
theorem Waiting.connect (ho : Orderly s) (h : Waiting c sent s) (waived : Prop) :
    Conversing c waived [] sent [] (s.connect c.served).1 := by
  have hfree : ∀ d, s.loop.reactor.handlerOf c.served d = none := fun d => by
    rw [Reactor.handlerOf, h.unregistered]
    rfl
  obtain ⟨hfiles, hconnections, houtboxes, hjob⟩ :=
    connect_begins ho hfree h.line.fileA (by rw [h.line.endA]; rfl)
  have hline := h.line.beside hfiles.beside
  have hapart : c.served ≠ c.own := fun heq => h.line.apart
    (Option.some.inj (h.line.fileA.symm.trans ((congrArg s.kernel.fileOf? heq).trans h.line.fileB)))
  have houtbox : (s.connect c.served).1.outbox c.served = #[] := by
    rw [Server.outbox, houtboxes]
    simp
  have hwork : (s.connect c.served).1.inWork c.served = [] := by
    rw [inWork, jobOf, hjob, ← jobOf, h.idle]
    rfl
  refine ⟨?_, ?_, ?_, ⟨[], ?_, ?_⟩, fun hsome => absurd houtbox hsome, h.cramped⟩
  · rwa [hline.inbox, hline.symm.inbox]
  · simp [hconnections]
  · rw [hconnections, Std.ExtTreeMap.getElem?_insert, if_neg (by simpa using hapart), h.own]
  · rw [hline.inbox]
    rfl
  · rw [hline.symm.inbox, houtbox, hwork]
    rfl

end EventLoop.Echo.Server
