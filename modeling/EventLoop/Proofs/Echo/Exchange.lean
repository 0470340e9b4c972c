import EventLoop.Proofs.Echo.Waiting

/-!
A client and the server from move to move, before the connection is begun and afterwards.

* `Server.Expecting` says that the client waits, and `Server.Talking` that there is a conversation,
  and both that nothing is going on that could disturb it.
* `Move.fds` are the numbers that a move is about, and `Move.Fair` says that a move leaves the
  connection up and its jobs to the worker.
* `Stride.expecting` and `Stride.talking` are the main statements here: no move of others disturbs
  the client, and neither does what the server does for the client.
-/

namespace EventLoop.Echo.Server

open Reactor (Direction)

variable {c : Client} {sent got : List UInt8} {workers : Nat} {s s' : Server}

/-- A client waits, and no callback is running that is about it. -/
structure Expecting (c : Client) (sent : List UInt8) (s : Server) : Prop where
  waiting : Waiting c sent s
  elsewhere : ∀ handler, s.running = some handler → c.Other handler.fd

/-- A conversation between two moves: the server holds nothing in its hand, and it is told when it
can write, unless it is about to. -/
structure Talking (c : Client) (sent got : List UInt8) (s : Server) : Prop where
  conversing : Conversing c (s.running = some (.writer c.served)) [] sent got s
  elsewhere : ∀ handler, s.running = some handler → handler.fd ≠ c.own

lemma Expecting.of_running (h : Expecting c sent s) {sent' : List UInt8} (hs : Waiting c sent' s')
    (hrunning : s'.running = s.running) : Expecting c sent' s' :=
  ⟨hs, by rw [hrunning]; exact h.elsewhere⟩

lemma Talking.of_running (h : Talking c sent got s) {sent' got' : List UInt8}
    (hs : Conversing c (s.running = some (.writer c.served)) [] sent' got' s')
    (hrunning : s'.running = s.running) : Talking c sent' got' s' :=
  ⟨by rw [hrunning]; exact hs, by rw [hrunning]; exact h.elsewhere⟩

/-! ### Turns of the driver -/

/-- The end of the running callback. -/
def finished (s : Server) : Server := { s with loop := s.loop.finish.elim s.loop (·.1) }

lemma finished_running (s : Server) : s.finished.running = none := by
  rw [Server.running, finished, (finish_kept s.loop).1]
  rfl

lemma finished_apart (c : Client) (s : Server) : Apart c s s.finished := by
  obtain ⟨-, -, -, -, hkernel, hregistry⟩ := finish_kept s.loop
  refine ⟨?_, by rw [finished, hregistry], fun _ _ => Iff.rfl, rfl, rfl⟩
  rw [finished, kernel, kernel, hkernel]
  exact .refl _ _ _

/-- Where a callback is running, it does what it is for and comes to its end. -/
lemma turn_of_active {a : Loop.Activation Empty} (hactive : s.loop.active = some a) :
    s.turn = (s.running.elim s s.handle).finished := by
  rw [turn, Server.running, hactive]
  rfl

/-- Where no callback is running, the driver moves. -/
lemma turn_of_idle (hs : Sound workers s) (hidle : s.loop.active = none) :
    ∃ l, s.turn = { s with loop := l } ∧ Driven s { s with loop := l } := by
  rw [turn, hidle]
  refine ⟨_, rfl, ?_⟩
  cases hadvance : s.loop.advance with
  | none => exact driven_of_idle (.refl _) hidle rfl
  | some p => exact (advance_driven hs.orderly hs.fit hidle (Loop.advance_eq_some hadvance).2).1

lemma Expecting.turn (hs : Sound workers s) (h : Expecting c sent s) :
    Expecting c sent s.turn := by
  cases hactive : s.loop.active with
  | some a =>
      rw [turn_of_active hactive]
      have hhandled : Waiting c sent (s.running.elim s s.handle) := by
        cases hrunning : s.running with
        | none => exact h.waiting
        | some handler =>
            have hother := h.elsewhere handler hrunning
            cases handler with
            | reader fd => exact (onReadable_doings s fd).waiting hother hs.orderly h.waiting
            | writer fd => exact (flush_doings s fd).waiting hother hs.orderly h.waiting
      exact ⟨hhandled.apart (finished_apart c _), fun handler hrunning => by
        simp [finished_running] at hrunning⟩
  | none =>
      obtain ⟨l, hturn, hdriven⟩ := turn_of_idle hs hactive
      have hserved := hs.orderly.unregistered h.waiting.unregistered
      have hregistered := (hdriven.registered c.served).resolve_right fun hnone =>
        hnone.1 h.waiting.unregistered
      rw [hturn]
      refine ⟨h.waiting.apart
        ⟨hdriven.files.beside, hregistered, fun _ _ => Iff.rfl, rfl, rfl⟩,
        fun handler hrunning => ?_⟩
      have hconnected := hdriven.running handler hrunning
      exact ⟨fun heq => hconnected (heq ▸ hserved), fun heq => hconnected (heq ▸ h.waiting.own)⟩

/-- **Whatever the driver does, the conversation goes on**, also while it disarms the callback that
writes the replies: it is about to run it. -/
theorem Talking.turn (hworkers : 0 < workers) (hs : Sound workers s) (h : Talking c sent got s) :
    Talking c sent got s.turn := by
  have ho := hs.orderly
  cases hactive : s.loop.active with
  | some a =>
      rw [turn_of_active hactive]
      have hhandled : Conversing c False [] sent got (s.running.elim s s.handle) := by
        cases hrunning : s.running with
        | none => exact h.conversing.mono fun hwriter => by simp [hrunning] at hwriter
        | some handler =>
            have hother := h.elsewhere handler hrunning
            cases handler with
            | reader fd =>
                have hreading : Conversing c False [] sent got s :=
                  h.conversing.mono fun hwriter => by simp [hrunning] at hwriter
                by_cases hfd : fd = c.served
                · subst hfd
                  exact hreading.readRequests hworkers _ hs
                · exact (onReadable_doings s fd).conversing ⟨hfd, hother⟩ ho hreading
            | writer fd =>
                by_cases hfd : fd = c.served
                · subst hfd
                  exact h.conversing.flush ho
                · have hwriting : Conversing c False [] sent got s :=
                    h.conversing.mono fun hwriter => by
                      rw [hrunning] at hwriter
                      exact hfd (by simpa using hwriter)
                  exact (flush_doings s fd).conversing ⟨hfd, hother⟩ ho hwriting
      exact ⟨(hhandled.apart (finished_apart c _)).mono False.elim, fun handler hrunning => by
        simp [finished_running] at hrunning⟩
  | none =>
      obtain ⟨l, hturn, hdriven⟩ := turn_of_idle hs hactive
      have hresting : Conversing c False [] sent got s := h.conversing.mono fun hwriter => by
        simp [Server.running, hactive] at hwriter
      rw [hturn]
      refine ⟨?_, fun handler hrunning heq =>
        hdriven.running handler hrunning (heq ▸ hresting.own)⟩
      rcases hdriven.registered c.served with hsame | ⟨-, hstarts⟩
      · exact (hresting.apart ⟨hdriven.files.beside, hsame, fun _ _ => Iff.rfl, rfl, rfl⟩).mono
          False.elim
      · have hline := hresting.line.beside hdriven.files.beside
        refine ⟨?_, hresting.opened, hresting.own, ?_, fun _ => .inr (hstarts hresting.opened),
          hresting.cramped⟩
        · rwa [hline.inbox, hline.symm.inbox]
        · rw [hline.inbox, hline.symm.inbox]
          exact hresting.replies

/-! ### Moves -/

/-- The numbers that a move is about. -/
def Move.fds : Move → List Fd
  | .file action => action.numbers
  | .listen fd | .connect fd | .readable fd | .reads _ fd | .writable fd | .answer fd _ | .touch fd
  | .close fd => [fd]
  | .turn | .finishJob | .pass _ => []

/-- A move that leaves a connection up and its jobs to the worker. The client does nothing with its
own number but write and read. -/
structure Move.Fair (served own : Fd) (m : Move) : Prop where
  stays : m ≠ .close served
  works : ∀ bytes, m ≠ .answer served bytes
  plays : own ∈ m.fds → (∃ data, m = .file (.write own data)) ∨ ∃ most, m = .file (.read own most)

/-- What is done with files that are not the client's. -/
lemma act_apart {forServer forClient : List UInt8} (hline : c.Line s.kernel forServer forClient)
    (hpaired : s.kernel.Paired) {action : Kernel.Action} {k : Kernel} {answer : Kernel.Answer}
    (acted : s.kernel.act action = some (k, answer)) (hserved : c.served ∉ action.numbers)
    (hown : c.own ∉ action.numbers) : Apart c s (s.setKernel k) :=
  apart_of_beside (hline.act hpaired acted hserved hown)

lemma pass_apart (c : Client) (s : Server) (delay : Delay) :
    Apart c s { s with scheduler := s.scheduler.pass delay } :=
  ⟨.refl _ _ _, rfl, fun _ _ => Iff.rfl, rfl, rfl⟩

/-- A file is used by a move only if the server has nothing to do with it. -/
lemma Stride.acted {t : Stride} {action : Kernel.Action} (hm : t.move = .file action) :
    ∃ k answer, t.before.kernel.act action = some (k, answer) ∧ t.after = t.before.setKernel k ∧
      t.notes = fileNotes action answer ∧ ∀ fd ∈ action.numbers, t.before.holds fd = false := by
  have hmade := t.made
  simp only [hm, step, Option.ite_none_left_eq_some, Option.map_eq_some_iff, Prod.mk.injEq,
    Prod.exists] at hmade
  obtain ⟨hunheld, k, answer, hacted, hafter, hnotes⟩ := hmade
  exact ⟨k, answer, hacted, hafter.symm, hnotes.symm, by simpa using hunheld⟩

/-- A connection is begun only for a number that the server does not use. -/
lemma Stride.connects {t : Stride} {fd : Fd} (hm : t.move = .connect fd) :
    t.before.holds fd = false ∧ t.after = (t.before.connect fd).1 := by
  have hmade := t.made
  simp only [hm, step, Option.ite_none_left_eq_some, Option.some.injEq, Prod.mk.injEq] at hmade
  exact ⟨by simpa using hmade.1, hmade.2.1.symm⟩

/-- **What happens to others does not end the waiting of a client.** -/
theorem Stride.expecting (hworkers : 0 < workers) (t : Stride) (hs : Sound workers t.before)
    (h : Expecting c sent t.before) (hserved : c.served ∉ t.move.fds)
    (hown : c.own ∉ t.move.fds) : Expecting c sent t.after := by
  have hwaiting := h.waiting
  have hpaired := hs.orderly.wired.attentive.paired
  have hother {fd : Fd} (hfds : t.move.fds = [fd]) : c.Other fd := by
    rw [hfds] at hserved hown
    exact ⟨(List.ne_of_not_mem_cons hserved).symm, (List.ne_of_not_mem_cons hown).symm⟩
  have hdoings {fd : Fd} {s' : Server} (hdoings : Doings fd t.before s')
      (hfds : t.move.fds = [fd]) : Expecting c sent s' :=
    h.of_running (hdoings.waiting (hother hfds) hs.orderly hwaiting) hdoings.still.running
  cases hm : t.move with
  | file action =>
      obtain ⟨k, answer, hacted, hafter, -, -⟩ := Stride.acted hm
      rw [hm] at hserved hown
      rw [hafter]
      exact h.of_running (hwaiting.apart (act_apart hwaiting.line hpaired hacted hserved hown)) rfl
  | listen fd =>
      have hfd := hother (by rw [hm]; rfl)
      have hlistens := listen_apart (s := t.before) fun hadded => hfd.1 hadded.2
      exact t.of_made (by rw [hm]; rfl) (h.of_running (hwaiting.apart hlistens) rfl)
  | connect fd =>
      have hfd := hother (by rw [hm]; rfl)
      rw [(Stride.connects hm).2]
      exact h.of_running (hwaiting.apart (connect_apart hwaiting.line hs.orderly hfd))
        (connect_fit hworkers hs.orderly hs.fit fd).2
  | turn => exact t.of_made (by rw [hm]; rfl) (h.turn hs)
  | readable fd =>
      exact t.of_made (by rw [hm]; rfl) (hdoings (onReadable_doings _ fd) (by rw [hm]; rfl))
  | reads rounds fd =>
      exact t.of_made (by rw [hm]; rfl)
        (hdoings (readRequests_doings rounds _ fd) (by rw [hm]; rfl))
  | writable fd =>
      exact t.of_made (by rw [hm]; rfl) (hdoings (flush_doings _ fd) (by rw [hm]; rfl))
  | finishJob =>
      exact t.of_made (by rw [hm]; rfl) (h.of_running
        (hwaiting.apart (finishJob_apart hwaiting.idle)) (finishJob_still _).running)
  | answer fd bytes =>
      have hfd := hother (by rw [hm]; rfl)
      exact t.of_made (by rw [hm]; rfl) (h.of_running (hwaiting.apart (answer_apart hfd.1 bytes))
        (answer_still _ fd bytes).running)
  | touch fd =>
      exact t.of_made (by rw [hm]; rfl) (hdoings (.single .touches) (by rw [hm]; rfl))
  | close fd =>
      exact t.of_made (by rw [hm]; rfl) (hdoings (.single .closes) (by rw [hm]; rfl))
  | pass delay =>
      rw [(Stride.passes hm).2.1]
      exact h.of_running (hwaiting.apart (pass_apart c t.before delay)) rfl

/-- **Whatever happens to others and whatever the server does, the conversation goes on.** -/
theorem Stride.talking (hworkers : 0 < workers) (t : Stride) (hs : Sound workers t.before)
    (h : Talking c sent got t.before) (hfair : t.move.Fair c.served c.own)
    (hown : c.own ∉ t.move.fds) : Talking c sent got t.after := by
  have ho := hs.orderly
  have htalk := h.conversing
  have hpaired := ho.wired.attentive.paired
  -- the server has a registration for the client
  have hheld : t.before.holds c.served = true := by
    obtain ⟨id, hid, -⟩ := ho.wired.wired c.served .reading htalk.opened
    have hsome : t.before.loop.reactor.registry.get? c.served ≠ none := fun hnone => by
      rw [Reactor.handlerOf, hnone] at hid
      cases hid
    simp [holds, Option.isSome_iff_ne_none.mpr hsome]
  have hother {fd : Fd} (hfds : t.move.fds = [fd]) (hfd : fd ≠ c.served) : c.Other fd := by
    rw [hfds] at hown
    exact ⟨hfd, (List.ne_of_not_mem_cons hown).symm⟩
  have hdoings {fd : Fd} {s' : Server} (hdoings : Doings fd t.before s')
      (hfds : t.move.fds = [fd]) (hfd : fd ≠ c.served) : Talking c sent got s' :=
    h.of_running (hdoings.conversing (hother hfds hfd) ho htalk) hdoings.still.running
  cases hm : t.move with
  | file action =>
      obtain ⟨k, answer, hacted, hafter, -, hunheld⟩ := Stride.acted hm
      have hserved : c.served ∉ action.numbers := fun hmem => by
        rw [hunheld _ hmem] at hheld
        cases hheld
      rw [hm] at hown
      rw [hafter]
      exact h.of_running (htalk.apart (act_apart htalk.line hpaired hacted hserved hown)) rfl
  | listen fd =>
      -- a connection is no listener
      have hrefused : ¬((t.before.loop.add fd .readOnly).2.1 = true ∧ fd = c.served) := by
        rintro ⟨hadded, rfl⟩
        exact htalk.opened ((listen_orderly ho c.served).2.1 hadded)
      exact t.of_made (by rw [hm]; rfl) (h.of_running (htalk.apart (listen_apart hrefused)) rfl)
  | connect fd =>
      obtain ⟨hunheld, hafter⟩ := Stride.connects hm
      have hfd : fd ≠ c.served := by
        rintro rfl
        rw [hunheld] at hheld
        cases hheld
      rw [hafter]
      exact h.of_running (htalk.apart (connect_apart htalk.line ho
        (hother (by rw [hm]; rfl) hfd))) (connect_fit hworkers ho hs.fit fd).2
  | turn => exact t.of_made (by rw [hm]; rfl) (h.turn hworkers hs)
  | readable fd =>
      refine t.of_made (by rw [hm]; rfl) ?_
      by_cases hfd : fd = c.served
      · subst hfd
        exact h.of_running (htalk.readRequests hworkers _ hs) (onReadable_doings _ _).still.running
      · exact hdoings (onReadable_doings _ fd) (by rw [hm]; rfl) hfd
  | reads rounds fd =>
      refine t.of_made (by rw [hm]; rfl) ?_
      by_cases hfd : fd = c.served
      · subst hfd
        exact h.of_running (htalk.readRequests hworkers rounds hs)
          (readRequests_doings rounds _ _).still.running
      · exact hdoings (readRequests_doings rounds _ fd) (by rw [hm]; rfl) hfd
  | writable fd =>
      refine t.of_made (by rw [hm]; rfl) ?_
      by_cases hfd : fd = c.served
      · subst hfd
        exact h.of_running ((htalk.flush ho).mono False.elim) (flush_doings _ _).still.running
      · exact hdoings (flush_doings _ fd) (by rw [hm]; rfl) hfd
  | finishJob =>
      exact t.of_made (by rw [hm]; rfl)
        (h.of_running (htalk.finishJob ho) (finishJob_still _).running)
  | answer fd bytes =>
      have hfd : fd ≠ c.served := by
        rintro rfl
        exact hfair.works bytes hm
      exact t.of_made (by rw [hm]; rfl) (h.of_running (htalk.apart (answer_apart hfd bytes))
        (answer_still _ fd bytes).running)
  | touch fd =>
      exact t.of_made (by rw [hm]; rfl) (h.of_running (htalk.apart (touch_apart c t.before fd))
        (touch_still _ fd).running)
  | close fd =>
      have hfd : fd ≠ c.served := by
        rintro rfl
        exact hfair.stays hm
      exact t.of_made (by rw [hm]; rfl) (hdoings (.single .closes) (by rw [hm]; rfl) hfd)
  | pass delay =>
      rw [(Stride.passes hm).2.1]
      exact h.of_running (htalk.apart (pass_apart c t.before delay)) rfl

end EventLoop.Echo.Server
