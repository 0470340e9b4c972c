import EventLoop.Proofs.Dispatch
import EventLoop.Proofs.Echo.Worker

/-!
The driver of the echo server's reactor, and everything else that happens, from move to move.

* `Server.Driven` is what the server notices of a move of the driver: at most, one of its callbacks
  is running afterwards, and if it is the one that writes replies, it has been disarmed.
  `advance_driven` says that this is all.
* `Stride.fit` is the main statement here: every move leaves the server fit for the next request.
-/

namespace EventLoop.Echo.Server

open Reactor (Direction)

variable {workers : Nat} {s s' : Server}

/-! ### Moves of the driver -/

/-- The callback of a registration is the server's only if the registration is a connection's. -/
lemma Orderly.handler_eq (h : Orderly s) {fd : Fd} {d : Direction} {id : CallbackId}
    {handler : Handler} (hid : s.loop.reactor.handlerOf fd d = some id)
    (hhandler : s.handlers[id]? = some handler) :
    handler = .toward d fd ∧ s.connections[fd]? ≠ none := by
  have hfd : s.connections[fd]? ≠ none := fun hfd => by
    simp [h.wired.others fd d id (fun hsome => hsome hfd) hid] at hhandler
  obtain ⟨id', hid', htoward⟩ := h.wired.wired fd d hfd
  obtain rfl : id = id' := by simpa [hid] using hid'
  exact ⟨Option.some.inj (hhandler.symm.trans htoward), hfd⟩

/-- What the server notices of a move of the driver. -/
structure Driven (s s' : Server) : Prop where
  files : s.kernel.SameFiles s'.kernel
  running : ∀ handler, s'.running = some handler → s.connections[handler.fd]? ≠ none
  registered : ∀ fd, s'.loop.reactor.registry.get? fd = s.loop.reactor.registry.get? fd ∨
    s.loop.reactor.registry.get? fd ≠ none ∧
      (s.connections[fd]? ≠ none → s'.running = some (.writer fd))

/-- A move by which no callback starts and no registration changes. -/
lemma driven_of_idle {l : Loop Empty} (hfiles : s.kernel.SameFiles l.reactor.kernel)
    (hidle : l.active = none) (hregistry : l.reactor.registry = s.loop.reactor.registry) :
    Driven s { s with loop := l } where
  files := hfiles
  running handler h := by simp [Server.running, hidle] at h
  registered fd := .inl (by rw [hregistry])

/-- The driver starts the callback of a connection, or one that is not the server's. -/
lemma running_of_handlerOf (h : Orderly s) {l : Loop Empty} {fd : Fd} {d : Direction}
    {id : CallbackId} {role : Reactor.Role Empty} (hactive : l.active = some ⟨id, role⟩)
    (hid : s.loop.reactor.handlerOf fd d = some id) {handler : Handler}
    (hrunning : running { s with loop := l } = some handler) :
    s.connections[handler.fd]? ≠ none := by
  simp only [Server.running, hactive, Option.bind_some] at hrunning
  obtain ⟨rfl, hfd⟩ := h.handler_eq hid hrunning
  rwa [Handler.toward_fd]

/-- **The driver starts callbacks of connections and of listeners only**, and disarms at most the
callback that it starts. -/
theorem advance_driven (h : Orderly s) (hfit : Fit workers s) (hidle : s.loop.active = none)
    {l : Loop Empty} {notes : List (Reactor.Note Empty)} (hl : s.loop.Advance l notes) :
    Driven s { s with loop := l } ∧ Fit workers { s with loop := l } := by
  have hsound := h.wired.agreed.sound
  -- the driver has no wakeup at hand
  have hunworked {w : Wakeup} {rest : List Wakeup} {events : List Event}
      (hstage : s.loop.stage = .waking (w :: rest) events) : False := by
    have := hfit.unworked
    simp [hstage, Loop.Stage.unworked] at this
  have hpolled {k : Kernel} {batch : Batch}
      (poll : s.loop.reactor.kernel.poll s.loop.reactor.capacity = .ok (k, batch)) :
      s.kernel.SameFiles k := (Kernel.poll_ok poll).1.toSameFiles
  have hnumbered {k : Kernel} (hk : s.kernel.SameFiles k) := hk.numbered hfit.numbered
  -- a move by which nothing starts
  have hresting {l' : Loop Empty} (hfiles : s.kernel.SameFiles l'.reactor.kernel)
      (hresting : l'.active = none) (hregistry : l'.reactor.registry = s.loop.reactor.registry)
      (hwakeups : l'.reactor.wakeups = []) (hnothing : l'.stage.unworked = []) :
      Driven s { s with loop := l' } ∧ Fit workers { s with loop := l' } :=
    ⟨driven_of_idle hfiles hresting hregistry, hfit.staffed, hwakeups, hnothing,
      fun a ha => by simp [hresting] at ha, hnumbered hfiles⟩
  cases hl with
  | stops _ _ => exact hresting (.refl _) rfl rfl hfit.unwoken rfl
  | fails _ _ _ => exact hresting (.refl _) rfl rfl hfit.unwoken rfl
  | wakes _ _ poll _ => exact hresting (hpolled poll) hidle rfl rfl hfit.unwoken
  | collects _ _ poll _ => exact hresting (hpolled poll) hidle rfl hfit.unwoken rfl
  | woke _ => exact hresting (.refl _) hidle rfl hfit.unwoken rfl
  | discards stage _ => exact (hunworked stage).elim
  | calls stage _ => exact (hunworked stage).elim
  | skips stage _ _ => exact (hunworked stage).elim
  | delivers stage _ _ => exact (hunworked stage).elim
  | turns _ => exact hresting (.refl _) hidle rfl hfit.unwoken rfl
  | passesRead _ _ => exact hresting (.refl _) hidle rfl hfit.unwoken rfl
  | passesWrite _ _ => exact hresting (.refl _) hidle rfl hfit.unwoken rfl
  | mismatches _ _ => exact hresting (.refl _) rfl rfl hfit.unwoken rfl
  | @reads _ _ callback _ _ handler =>
      obtain ⟨fd, current, hc, -, hcallback⟩ := Reactor.exists_entry_of_callbackOf hsound handler
      have hid : s.loop.reactor.handlerOf fd .reading = some callback := by
        rw [Reactor.handlerOf, hc]
        exact hcallback
      refine ⟨⟨.refl _, fun handler => running_of_handlerOf h rfl hid, fun _ => .inl rfl⟩,
        hfit.staffed, hfit.unwoken, rfl, fun a ha => ?_, hfit.numbered⟩
      cases ha
      exact h.wired.drawn fd .reading _ hid
  | @writes _ _ fd registration callback _ _ found armed handler =>
      obtain ⟨hc, -⟩ := hsound.resolve_eq_found.mp found
      have hid : s.loop.reactor.handlerOf fd .writing = some callback := by
        rw [Reactor.handlerOf, hc]
        exact handler
      have htaken := s.loop.reactor.taken fd armed handler
      refine ⟨⟨htaken.tells.sameFiles, fun handler => running_of_handlerOf h rfl hid, fun x => ?_⟩,
        hfit.staffed, htaken.sameWork.wakeups.trans hfit.unwoken, rfl, fun a ha => ?_,
        hnumbered htaken.tells.sameFiles⟩
      · by_cases hx : fd = x
        · subst hx
          refine .inr ⟨by simp [hc], fun hfd => ?_⟩
          obtain ⟨id, hid', htoward⟩ := h.wired.wired fd .writing hfd
          obtain rfl : callback = id := by simpa [hid] using hid'
          exact htoward
        · refine .inl ?_
          show (s.loop.reactor.takeWrite fd registration).1.registry.get? x = _
          rw [htaken.registry, Registry.get?_modify, if_neg hx]
      · cases ha
        exact h.wired.drawn fd .writing _ hid

/-- The end of the running callback leaves everything else as it is. -/
lemma finish_kept (l : Loop Empty) :
    (l.finish.elim l (·.1)).active = none ∧
      (l.finish.elim l (·.1)).stage = l.stage ∧
      (l.finish.elim l (·.1)).nextCallback = l.nextCallback ∧
      (l.finish.elim l (·.1)).reactor.wakeups = l.reactor.wakeups ∧
      (l.finish.elim l (·.1)).reactor.kernel = l.reactor.kernel ∧
      (l.finish.elim l (·.1)).reactor.registry = l.reactor.registry := by
  rw [Loop.finish]
  cases hactive : l.active with
  | none => exact ⟨hactive, rfl, rfl, rfl, rfl, rfl⟩
  | some a =>
      simp only [Option.map_some, Option.elim_some]
      split
      · exact ⟨rfl, rfl, rfl, rfl, rfl, rfl⟩
      · exact ⟨rfl, rfl, rfl, rfl, rfl, rfl⟩
      · next q items _ =>
          obtain ⟨hwakeups, -, hkernel⟩ := l.reactor.returnConsumer_kept q a.callback
          exact ⟨rfl, rfl, rfl, hwakeups, hkernel,
            (l.reactor.sameRegistrations_returnConsumer q a.callback).registry⟩

lemma finish_fit (h : Fit workers s) :
    Fit workers { s with loop := s.loop.finish.elim s.loop (·.1) } := by
  obtain ⟨hactive, hstage, -, hwakeups, hkernel, -⟩ := finish_kept s.loop
  refine ⟨h.staffed, hwakeups.trans h.unwoken, ?_, fun a ha => ?_, ?_⟩
  · rw [hstage, h.unworked]
  · rw [hactive] at ha
    cases ha
  · rw [kernel, hkernel]
    exact h.numbered

lemma turn_fit (hworkers : 0 < workers) (ho : Orderly s) (h : Fit workers s) :
    Fit workers s.turn := by
  rw [turn]
  split
  · next a _ =>
      refine finish_fit ?_
      cases s.handlers[a.callback]? with
      | none => exact h
      | some handler =>
          obtain ⟨fd, hdoings⟩ := handle_doings s handler
          exact hdoings.fit hworkers h
  · next hidle =>
      cases hadvance : s.loop.advance with
      | none => exact h
      | some p => exact (advance_driven ho h hidle (Loop.advance_eq_some hadvance).2).2

/-! ### Everything else -/

lemma add_fit (h : Fit workers s) (fd : Fd) (i : Interest)
    (handlers : Std.ExtTreeMap CallbackId Handler) :
    Fit workers { s with loop := (s.loop.add fd i).1, handlers } := by
  have hadded := s.loop.reactor.added fd i s.loop.nextCallback
  exact ⟨h.staffed, hadded.sameWork.wakeups.trans h.unwoken, h.unworked,
    fun a ha => Nat.lt_succ_of_lt (h.drawn a ha), hadded.tells.sameFiles.numbered h.numbered⟩

/-- A callback that is running is not the one that is registered. -/
lemma register_fit {t : Server} {fd : Fd} {i : Interest} {handler : Handler} {b : Bool}
    (h : Fit workers s) (hregister : s.register fd i handler = (t, b)) :
    Fit workers t ∧ t.running = s.running := by
  simp only [register, Prod.mk.injEq] at hregister
  obtain ⟨rfl, -⟩ := hregister
  refine ⟨add_fit h fd i _, ?_⟩
  show (s.loop.active.bind fun a =>
    (s.handlers.insert s.loop.nextCallback handler)[a.callback]?) = _
  rw [Server.running]
  cases hactive : s.loop.active with
  | none => rfl
  | some a =>
      have hne : s.loop.nextCallback ≠ a.callback := Nat.ne_of_gt (h.drawn a hactive)
      simp [Std.ExtTreeMap.getElem?_insert, hne]

lemma connect_fit (hworkers : 0 < workers) (ho : Orderly s) (h : Fit workers s) (fd : Fd) :
    Fit workers (s.connect fd).1 ∧ (s.connect fd).1.running = s.running := by
  have hbegun : Fit workers (s.begun fd) ∧ (s.begun fd).running = s.running := by
    rw [begun_eq ho]
    exact ⟨⟨h.staffed, h.unwoken, h.unworked, h.drawn, h.numbered⟩, rfl⟩
  have hclose {t : Server} (ht : Fit workers t) :
      Fit workers (t.close fd) ∧ (t.close fd).running = t.running :=
    ⟨Doing.closes.fit hworkers ht, (t.close_still fd).running⟩
  have hconnected := connected_of_connect s fd
  generalize (s.connect fd).1 = s' at hconnected
  cases hconnected with
  | unread reads =>
      obtain ⟨ht, hrunning⟩ := register_fit hbegun.1 reads
      exact ⟨(hclose ht).1, by rw [(hclose ht).2, hrunning, hbegun.2]⟩
  | unwritten reads writes =>
      obtain ⟨ht, hrunning⟩ := register_fit hbegun.1 reads
      obtain ⟨hu, hrunning'⟩ := register_fit ht writes
      exact ⟨(hclose hu).1, by rw [(hclose hu).2, hrunning', hrunning, hbegun.2]⟩
  | opened reads writes =>
      obtain ⟨ht, hrunning⟩ := register_fit hbegun.1 reads
      obtain ⟨hu, hrunning'⟩ := register_fit ht writes
      exact ⟨hu, by rw [hrunning', hrunning, hbegun.2]⟩

/-- What holds of the state that a move comes to, holds after the stride that makes it. -/
lemma Stride.of_made {P : Server → Prop} (t : Stride) {notes : List Note}
    (hmade : step t.before t.move = some (s, notes)) (h : P s) : P t.after := by
  rw [t.made, Option.some.injEq, Prod.mk.injEq] at hmade
  rwa [hmade.1]

/-- **Every move leaves the server fit for the next request.** -/
theorem Stride.fit (hworkers : 0 < workers) (t : Stride) (ho : Orderly t.before)
    (h : Fit workers t.before) : Fit workers t.after := by
  cases hm : t.move with
  | file action =>
      have hmade := t.made
      simp only [hm, step, Option.ite_none_left_eq_some, Option.map_eq_some_iff,
        Prod.mk.injEq] at hmade
      obtain ⟨-, ⟨k, answer⟩, hacted, hafter, -⟩ := hmade
      rw [← hafter]
      exact ⟨h.staffed, h.unwoken, h.unworked, h.drawn, h.numbered.act hacted⟩
  | connect fd =>
      have hmade := t.made
      simp only [hm, step, Option.ite_none_left_eq_some, Option.some.injEq, Prod.mk.injEq] at hmade
      rw [← hmade.2.1]
      exact (connect_fit hworkers ho h fd).1
  | listen fd => exact t.of_made (by rw [hm]; rfl) (add_fit h fd .readOnly t.before.handlers)
  | turn => exact t.of_made (by rw [hm]; rfl) (turn_fit hworkers ho h)
  | readable fd => exact t.of_made (by rw [hm]; rfl) ((onReadable_doings _ fd).fit hworkers h)
  | reads rounds fd =>
      exact t.of_made (by rw [hm]; rfl) ((readRequests_doings rounds _ fd).fit hworkers h)
  | writable fd => exact t.of_made (by rw [hm]; rfl) ((flush_doings _ fd).fit hworkers h)
  | finishJob =>
      have hdone : Doing 0 t.before t.before.finishJob := .completes
      exact t.of_made (by rw [hm]; rfl) (hdone.fit hworkers h)
  | answer fd bytes =>
      exact t.of_made (by rw [hm]; rfl) (h.still (answer_still _ fd bytes)
        ((answer_files _ fd bytes).numbered h.numbered) h.staffed)
  | touch fd => exact t.of_made (by rw [hm]; rfl) (Doing.touches.fit hworkers h)
  | close fd => exact t.of_made (by rw [hm]; rfl) (Doing.closes.fit hworkers h)
  | pass delay =>
      rw [(Stride.passes hm).2.1]
      exact ⟨h.staffed, h.unwoken, h.unworked, h.drawn, h.numbered⟩

/-! ### Reached states -/

/-- The server comes to a state in some run. -/
def Reached (workers : Nat) (s : Server) : Prop :=
  ∃ limit ms, s = (start (.boot limit) workers).after ms

lemma Reached.stride {t : Stride} (h : Reached workers t.before) : Reached workers t.after := by
  obtain ⟨limit, ms, hms⟩ := h
  have hbefore : Machine.after step (start (.boot limit) workers) ms = t.before := hms.symm
  refine ⟨limit, ms ++ [t.move], ?_⟩
  rw [Server.after, Machine.after_append, hbefore, Machine.after_cons_stride, Machine.after_nil]

lemma fit_start (limit : Option Nat) (workers : Nat) : Fit workers (start (.boot limit) workers) :=
  ⟨.rests (.unstaffed 0), rfl, rfl, fun a ha => by simp [start, Loop.start] at ha,
    Kernel.numbered_boot limit⟩

/-- In every state that the server comes to its tables are consistent, and it is fit. -/
theorem Reached.sound (hworkers : 0 < workers) (h : Reached workers s) : Sound workers s := by
  obtain ⟨limit, ms, rfl⟩ := h
  have hsound : Chronicled ((start (.boot limit) workers).strides ms)
      ((start (.boot limit) workers).after ms) ∧
        Fit workers ((start (.boot limit) workers).after ms) :=
    Machine.history_rec (P := fun past s => Chronicled past s ∧ Fit workers s)
      ⟨chronicled_start limit workers, fit_start limit workers⟩
      (fun past t h => ⟨Stride.chronicled t h.1, Stride.fit hworkers t h.1.orderly h.2⟩) ms
  exact ⟨hsound.1.orderly, hsound.2⟩

end EventLoop.Echo.Server
