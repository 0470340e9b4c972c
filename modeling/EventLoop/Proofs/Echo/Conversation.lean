import EventLoop.Proofs.Echo.Others

/-!
A conversation of the server with a client. What the client sent is under way to the server, or was
read; and the replies to what was read are with the client, under way to it, in the outbox, or about
to come from the worker, in this order.

* `Server.inWork` is the reply that the worker is about to give, and `Server.armed` says that the
  server is told when a connection can be written.
* `Server.Conversing` is the invariant of the conversation. Its parameters are what was read and not
  handed to the worker yet, what the client sent and what it got.
* `Conversing.finishJob`, `Conversing.assign`, `Conversing.readRequests` and `Conversing.flush` say
  that whatever the server does for the client keeps it.
* `Doing.conversing` says that so does whatever the server does for others.
-/

namespace EventLoop.Echo.Server

open Reactor (Direction)

/-- The reply that the worker is about to give to a connection. -/
def inWork (s : Server) (fd : Fd) : List UInt8 := (s.jobOf fd).elim [] fun job => reply job.request

/-- The write callback of a connection is armed. -/
def armed (s : Server) (fd : Fd) : Bool := (s.loop.reactor.registry.get? fd).any (·.armed)

/-- A conversation with a client: bytes that are in the hand of the server were read and not handed
to the worker yet. The server is told when it can write what is in the outbox, unless that is
waived. -/
structure Conversing (c : Client) (waived : Prop) (hand sent got : List UInt8) (s : Server) :
    Prop where
  line : c.Line s.kernel (s.kernel.inbox c.served) (s.kernel.inbox c.own)
  opened : s.connections[c.served]? ≠ none
  own : s.connections[c.own]? = none
  replies : ∃ read, sent = read ++ hand ++ s.kernel.inbox c.served ∧
    got ++ s.kernel.inbox c.own ++ (s.outbox c.served).toList ++ s.inWork c.served = reply read
  notified : s.outbox c.served ≠ #[] → s.armed c.served = true ∨ waived
  cramped : c.limit = some 0 → sent = []

variable {c : Client} {waived : Prop} {hand sent got : List UInt8} {workers : Nat} {s s' : Server}

lemma reply_append (bytes more : List UInt8) : reply (bytes ++ more) = reply bytes ++ reply more :=
  List.map_append

lemma Conversing.mono (h : Conversing c waived hand sent got s) {waived' : Prop}
    (hwaived : waived → waived') : Conversing c waived' hand sent got s :=
  ⟨h.line, h.opened, h.own, h.replies, fun houtbox => (h.notified houtbox).imp_right hwaived,
    h.cramped⟩

/-- Nothing that is done to others does anything to a conversation. -/
lemma Conversing.apart (h : Conversing c waived hand sent got s) (hs : Apart c s s') :
    Conversing c waived hand sent got s' := by
  have hline := h.line.beside hs.files
  have hserver : s'.kernel.inbox c.served = s.kernel.inbox c.served := hline.inbox
  have hclient : s'.kernel.inbox c.own = s.kernel.inbox c.own := hline.symm.inbox
  refine ⟨?_, ?_, ?_, ?_, ?_, h.cramped⟩
  · rwa [hserver, hclient]
  · rw [ne_eq, hs.connected _ (.inl rfl)]
    exact h.opened
  · rw [hs.connected _ (.inr rfl)]
    exact h.own
  · rw [hserver, hclient, hs.outbox, inWork, hs.job]
    exact h.replies
  · rw [hs.outbox, armed, hs.registered]
    exact h.notified

/-! ### Jobs -/

/-- A connection is told when it can be written, if it asks for that. -/
lemma armed_requestWrite (h : Orderly s) {fd : Fd} (hfd : s.connections[fd]? ≠ none) :
    (s.requestWrite fd).armed fd = true := by
  obtain ⟨current, idr, idw, hc, hreads, hwrites⟩ := h.registration hfd
  have hwrites : current.write.isNone = false := by rw [hwrites]; rfl
  -- a connection is watched already, and so it can be watched otherwise
  obtain ⟨k, hk⟩ : ∃ k, Reactor.sync s.loop.reactor.kernel fd current.token current.active
      { current with armed := true }.active = .ok k :=
    h.wired.agreed.sync_isOk hc fun hidle => by
      simp [Registration.active, Interest.isEmpty, hreads] at hidle
  rw [armed, requestWrite, Reactor.requestWrite, hc]
  simp only [hwrites, Bool.false_eq_true, if_false]
  split
  · next harmed => simpa [hc] using harmed
  · simp only [hk, Registry.get?_modify, if_true, hc, Option.map_some, Option.any_some]

lemma outbox_appendOutbox (s : Server) (fd : Fd) (bytes : List UInt8) :
    ((s.appendOutbox fd bytes).outbox fd).toList = (s.outbox fd).toList ++ bytes := by
  simp [Server.outbox, appendOutbox]

lemma outbox_dropOutbox (s : Server) (fd : Fd) (count : Nat) :
    ((s.dropOutbox fd count).outbox fd).toList = (s.outbox fd).toList.drop count := by
  rw [Server.outbox, Server.outbox, dropOutbox, Std.ExtTreeMap.getElem?_modify_self]
  cases s.outboxes[fd]? with
  | none => simp
  | some bytes => simp

/-- **The end of the client's job is no loss:** the reply joins the outbox, and the server will be
told when it can write. -/
theorem Conversing.finishJob (h : Conversing c waived hand sent got s) (ho : Orderly s) :
    Conversing c waived hand sent got s.finishJob := by
  cases hjob : s.jobOf c.served with
  | none => exact h.apart (finishJob_apart hjob)
  | some job =>
      obtain ⟨hsome, hfd⟩ := Option.filter_eq_some_iff.mp hjob
      have hfd : job.fd = c.served := by simpa using hfd
      have hline := h.line.beside s.finishJob_files.beside
      have hserver : s.finishJob.kernel.inbox c.served = s.kernel.inbox c.served := hline.inbox
      have hclient : s.finishJob.kernel.inbox c.own = s.kernel.inbox c.own := hline.symm.inbox
      have houtbox : (s.finishJob.outbox c.served).toList =
          (s.outbox c.served).toList ++ reply job.request := by
        rw [finishJob_eq hsome, hfd]
        exact outbox_appendOutbox s c.served _
      have hconnections : s.finishJob.connections = s.connections := by
        rw [finishJob_eq hsome]
        rfl
      have harmed : s.finishJob.armed c.served = true := by
        rw [finishJob_eq hsome, hfd]
        have hjoined : Orderly (s.appendOutbox c.served (reply job.request)) :=
          ⟨ho.timed, ho.early, ho.wired⟩
        exact armed_requestWrite hjoined h.opened
      refine ⟨by rwa [hserver, hclient], by rw [hconnections]; exact h.opened,
        by rw [hconnections]; exact h.own, ?_, fun _ => .inl harmed, h.cramped⟩
      obtain ⟨read, hsent, hreplies⟩ := h.replies
      refine ⟨read, by rw [hserver, hsent], ?_⟩
      rw [hclient, houtbox, inWork, jobOf, finishJob_job, ← hreplies, inWork, hjob]
      simp

/-- The worker gets what is in the hand of the server. -/
theorem Conversing.assign (hworkers : 0 < workers) (h : Conversing c waived hand sent got s)
    (hfit : Fit workers s) (idle : s.job = none) :
    Conversing c waived [] sent got (s.assign c.served hand) := by
  have hstaffed := hfit.staffed
  rw [idle] at hstaffed
  cases hstaffed with
  | rests hrests =>
      obtain ⟨p, -, hassign⟩ := assign_of_rests hworkers hrests c.served hand
      have hnothing : s.inWork c.served = [] := by simp [inWork, jobOf, idle]
      have hgiven : inWork { s with pool := p, job := some ⟨c.served, hand, 0⟩ } c.served =
          reply hand := by simp [inWork, jobOf, Option.filter]
      obtain ⟨read, hsent, hreplies⟩ := h.replies
      rw [hnothing, List.append_nil] at hreplies
      rw [hassign]
      refine ⟨h.line, h.opened, h.own, ⟨read ++ hand, ?_, ?_⟩, h.notified, h.cramped⟩
      · rw [List.append_nil]
        exact hsent
      · rw [hgiven, reply_append, ← hreplies]
        rfl

/-! ### Moving bytes -/

/-- Bytes move on the line. -/
lemma Conversing.moved (h : Conversing c waived hand sent got s) {k : Kernel}
    {forServer forClient hand' sent' got' : List UInt8} (hline : c.Line k forServer forClient)
    (hreplies : ∀ read, sent = read ++ hand ++ s.kernel.inbox c.served →
      got ++ s.kernel.inbox c.own ++ (s.outbox c.served).toList ++ s.inWork c.served = reply read →
      sent' = read ++ hand' ++ forServer ∧
        got' ++ forClient ++ (s.outbox c.served).toList ++ s.inWork c.served = reply read)
    (hcramped : c.limit = some 0 → sent' = []) :
    Conversing c waived hand' sent' got' (s.setKernel k) := by
  obtain ⟨read, hsent, hreply⟩ := h.replies
  refine ⟨?_, h.opened, h.own, ⟨read, ?_⟩, h.notified, hcramped⟩
  · show c.Line k (k.inbox c.served) (k.inbox c.own)
    rwa [hline.inbox, hline.symm.inbox]
  · show sent' = read ++ hand' ++ k.inbox c.served ∧
      got' ++ k.inbox c.own ++ (s.outbox c.served).toList ++ s.inWork c.served = reply read
    rw [hline.inbox, hline.symm.inbox]
    exact hreplies read hsent hreply

/-- What the client sends arrives behind what it sent before. -/
lemma Conversing.send (h : Conversing c waived hand sent got s) (data : List UInt8) :
    (∃ k taken, s.kernel.send c.own data = .ok (k, taken.length) ∧ data.take taken.length = taken ∧
        Conversing c waived hand (sent ++ taken) got (s.setKernel k)) ∨
      s.kernel.send c.own data = .error .wouldBlock := by
  rcases h.line.send data with ⟨k, taken, hsend, htaken, -, hnothing, hline⟩ | hsend
  · refine .inl ⟨k, taken, hsend, htaken, h.moved hline (fun read hsent hreply => ⟨?_, hreply⟩)
      fun hlimit => ?_⟩
    · rw [hsent, List.append_assoc _ _ taken]
    · rw [h.cramped hlimit, hnothing hlimit, List.append_nil]
  · exact .inr hsend

/-- What the client reads is what it gets. -/
lemma Conversing.receiveAll (h : Conversing c waived hand sent got s) (most : Option Nat) :
    Conversing c waived hand sent (got ++ (s.kernel.receiveAll c.own most).2.1)
      (s.setKernel (s.kernel.receiveAll c.own most).1) := by
  obtain ⟨rest, hrest, hline⟩ := h.line.symm.receiveAll most
  refine h.moved hline.symm (fun read hsent hreply => ⟨hsent, ?_⟩) h.cramped
  rw [← hreply, List.append_assoc got, ← hrest]

/-- What the server reads is in its hand. -/
lemma Conversing.received (h : Conversing c waived [] sent got s) {k : Kernel} {most : Nat}
    (hline : c.Line k ((s.kernel.inbox c.served).drop most) (s.kernel.inbox c.own)) :
    Conversing c waived ((s.kernel.inbox c.served).take most) sent got (s.setKernel k) := by
  refine h.moved hline (fun read hsent hreply => ⟨?_, hreply⟩) h.cramped
  rw [List.append_assoc, List.take_append_drop, hsent, List.append_nil]

/-- **Reading requests loses nothing**, wherever the chunks end. -/
theorem Conversing.readRequests (hworkers : 0 < workers) (rounds : Nat) (hs : Sound workers s)
    (h : Conversing c waived [] sent got s) :
    Conversing c waived [] sent got (readRequests rounds s c.served) := by
  induction rounds generalizing s with
  | zero => exact h
  | succ rounds ih =>
      rw [Server.readRequests]
      rcases h.line.receive chunkSize with ⟨-, hnone⟩ | ⟨hsome, k, hreceive, hline⟩
      · simp only [hnone, if_true]
        exact h
      · have hreceived := h.received hline
        cases hrequest : (s.kernel.inbox c.served).take chunkSize with
        | nil => simp [chunkSize, hsome] at hrequest
        | cons byte bytes =>
            rw [hrequest] at hreceived
            simp only [hreceive, hrequest]
            have hreceives : Doing c.served s
                (s.setKernel (s.kernel.receive c.served chunkSize).1) := .receives chunkSize
            rw [hreceive] at hreceives
            -- the connection is touched, the job before is completed, and the worker gets the next
            have htouched := hreceived.apart (touch_apart c (s.setKernel k) c.served)
            have hs₁ : Sound workers ((s.setKernel k).touch c.served) :=
              Doing.touches.sound hworkers (hreceives.sound hworkers hs)
            generalize (s.setKernel k).touch c.served = s₁ at htouched hs₁ ⊢
            have hs₂ : Sound workers s₁.finishJob := hs₁.finishJob hworkers
            have hassigned := (htouched.finishJob hs₁.orderly).assign hworkers hs₂.fit
              s₁.finishJob_job
            rw [offload_eq]
            exact ih (hs₂.assign hworkers s₁.finishJob_job _ _) hassigned

/-! ### Writing replies -/

/-- The server asks to be told when it can write. -/
lemma Conversing.requestWrite (h : Conversing c waived hand sent got s) (ho : Orderly s) :
    Conversing c False hand sent got (s.requestWrite c.served) := by
  have hline := h.line.beside (s.requestWrite_files c.served).beside
  refine ⟨?_, h.opened, h.own, ?_, fun _ => .inl (armed_requestWrite ho h.opened), h.cramped⟩
  · rwa [hline.inbox, hline.symm.inbox]
  · rw [hline.inbox, hline.symm.inbox]
    exact h.replies

/-- Where nothing waits to be written, nobody has to be told. -/
lemma Conversing.written (h : Conversing c waived hand sent got s)
    (hnothing : s.outbox c.served = #[]) : Conversing c False hand sent got s :=
  ⟨h.line, h.opened, h.own, h.replies, fun houtbox => absurd hnothing houtbox, h.cramped⟩

/-- The first bytes of the outbox are written. -/
lemma Conversing.wrote (h : Conversing c waived hand sent got s) {k : Kernel} {count : Nat}
    (hline : c.Line k (s.kernel.inbox c.served)
      (s.kernel.inbox c.own ++ (s.outbox c.served).toList.take count)) :
    Conversing c True hand sent got ((s.setKernel k).dropOutbox c.served count) := by
  obtain ⟨read, hsent, hreply⟩ := h.replies
  have houtbox := outbox_dropOutbox (s.setKernel k) c.served count
  refine ⟨?_, h.opened, h.own, ⟨read, ?_, ?_⟩, fun _ => .inr trivial, h.cramped⟩
  · show c.Line k (k.inbox c.served) (k.inbox c.own)
    rwa [hline.inbox, hline.symm.inbox]
  · show sent = read ++ hand ++ k.inbox c.served
    rw [hline.inbox, hsent]
  · show got ++ k.inbox c.own ++ _ ++ s.inWork c.served = reply read
    rw [houtbox, hline.symm.inbox, ← hreply]
    show _ ++ (s.outbox c.served).toList.drop count ++ _ = _
    rw [List.append_assoc got, List.append_assoc (s.kernel.inbox c.own), List.take_append_drop,
      ← List.append_assoc got]

/-- **Writing replies never fails while the line is up**, and it ends with nothing left, or with the
server to be told when it can write the rest. -/
theorem Conversing.writeReplies (rounds : Nat) (hrounds : (s.outbox c.served).size < rounds)
    (ho : Orderly s) (h : Conversing c True hand sent got s) :
    (writeReplies rounds s c.served).2 = false ∧
      Conversing c False hand sent got (writeReplies rounds s c.served).1 := by
  induction rounds generalizing s with
  | zero => exact absurd hrounds (Nat.not_lt_zero _)
  | succ rounds ih =>
      rw [Server.writeReplies]
      split
      · next hnothing => exact ⟨rfl, h.written (by simpa using hnothing)⟩
      · next hsome =>
          have hbytes : (s.outbox c.served).toList ≠ [] := by simpa using hsome
          have hsize : 0 < (s.outbox c.served).size := by
            rw [← Array.length_toList]
            exact List.length_pos_iff.mpr hbytes
          rcases h.line.symm.send (s.outbox c.served).toList with
            ⟨k, taken, hsend, htaken, hmoves, -, hline⟩ | hsend
          · -- something was taken, so less is left
            have htook : taken ≠ [] := hmoves hbytes
            rw [← htaken] at hline
            have hwrote := h.wrote hline.symm
            have hless : (((s.setKernel k).dropOutbox c.served taken.length).outbox c.served).size <
                rounds := by
              have htaken := List.length_pos_iff.mpr htook
              rw [← Array.length_toList, outbox_dropOutbox, List.length_drop, Array.length_toList]
              show (s.outbox c.served).size - taken.length < rounds
              omega
            have hsent : Doing c.served s (s.setKernel k) := .sends hsend
            have hdone := ih hless ((Doing.drops _).orderly (hsent.orderly ho).1).1 hwrote
            cases taken with
            | nil => exact absurd rfl htook
            | cons byte bytes =>
                simp only [hsend]
                exact hdone
          · simp only [hsend, if_true]
            exact ⟨trivial, h.requestWrite ho⟩

/-- **A flush leaves nothing to be written**, or the server to be told when it can be. -/
theorem Conversing.flush (ho : Orderly s) (h : Conversing c waived hand sent got s) :
    Conversing c False hand sent got (s.flush c.served) := by
  obtain ⟨hdone, hwritten⟩ := (h.mono fun _ => trivial).writeReplies _ (Nat.lt_succ_self _) ho
  rw [Server.flush]
  simp only [hdone, Bool.false_eq_true, if_false]
  exact hwritten

/-! ### Serving others -/

/-- **Whatever the server does for others does nothing to a conversation**, but for completing the
client's job. -/
theorem Doing.conversing {fd : Fd} (hdoing : Doing fd s s') (hfd : c.Other fd) (ho : Orderly s)
    (h : Conversing c waived hand sent got s) : Conversing c waived hand sent got s' := by
  rcases hdoing.apart h.line ho.wired.attentive.paired hfd with rfl | hapart
  · exact h.finishJob ho
  · exact h.apart hapart

lemma Doings.conversing {fd : Fd} (hdoings : Doings fd s s') (hfd : c.Other fd) (ho : Orderly s)
    (h : Conversing c waived hand sent got s) : Conversing c waived hand sent got s' := by
  induction hdoings with
  | refl => exact h
  | tail hbefore hdoing ih => exact hdoing.conversing hfd (Doings.orderly hbefore ho).1 ih

end EventLoop.Echo.Server
