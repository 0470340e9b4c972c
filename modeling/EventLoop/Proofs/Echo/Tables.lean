import EventLoop.Proofs.Echo.Serving
import EventLoop.Proofs.Timer.Moves

/-!
The tables of the echo server stay consistent: the connections, the idle timers of the scheduler and
the callbacks of the reactor.

* `Server.Connected` lists what comes of beginning a connection, and `Server.Opening` is a
  connection on its way; `connect_orderly` says that the tables are consistent again afterwards.
* `listen_orderly` says so of listening.
* `Server.Consistent` is what holds of the tables and of the history after every run, and
  `tables_stay_consistent` the main statement here.
-/

namespace EventLoop.Echo.Server

open Reactor (Direction)

/-! ### Beginning connections -/

/-- A connection with its idle timer, before its callbacks are registered. -/
def begun (s : Server) (fd : Fd) : Server :=
  { s with
    connections := s.connections.insert fd ⟨none⟩
    outboxes := s.outboxes.insert fd #[] }.touch fd

lemma begun_eq {s : Server} (h : Orderly s) (fd : Fd) :
    s.begun fd = { s with
      connections := s.connections.insert fd ⟨some s.scheduler.timers.nextId⟩
      outboxes := s.outboxes.insert fd #[]
      scheduler := { s.scheduler with
        timers := (s.scheduler.timers.insert
          (s.scheduler.clock + idleTimeout) fd).1 } } := by
  have htwice : (s.connections.insert fd ⟨none⟩).insert fd ⟨some s.scheduler.timers.nextId⟩ =
      s.connections.insert fd ⟨some s.scheduler.timers.nextId⟩ := by
    refine Std.ExtTreeMap.ext_getElem? fun x => ?_
    simp only [Std.ExtTreeMap.getElem?_insert]
    split <;> rfl
  rw [begun, touch, schedule_idle h.early, ← htwice]
  simp

/-- What comes of beginning a connection: one of its callbacks is turned down and it is closed, or
both are registered. -/
inductive Connected (s : Server) (fd : Fd) : Server → Prop
  | unread {t : Server} (reads : (s.begun fd).register fd .readOnly (.reader fd) = (t, false)) :
      Connected s fd (t.close fd)
  | unwritten {t u : Server}
      (reads : (s.begun fd).register fd .readOnly (.reader fd) = (t, true))
      (writes : t.register fd .writeOnly (.writer fd) = (u, false)) : Connected s fd (u.close fd)
  | opened {t u : Server} (reads : (s.begun fd).register fd .readOnly (.reader fd) = (t, true))
      (writes : t.register fd .writeOnly (.writer fd) = (u, true)) : Connected s fd u

lemma connected_of_connect (s : Server) (fd : Fd) : Connected s fd (s.connect fd).1 := by
  have hconnect : s.connect fd =
      let begun := (s.begun fd).register fd .readOnly (.reader fd)
      let ready := if begun.2 then begun.1.register fd .writeOnly (.writer fd) else (begun.1, false)
      if ready.2 then (ready.1, true) else (ready.1.close fd, false) := rfl
  rw [hconnect]
  rcases hreads : (s.begun fd).register fd .readOnly (.reader fd) with ⟨t, _ | _⟩
  · exact .unread hreads
  · rcases hwrites : t.register fd .writeOnly (.writer fd) with ⟨u, _ | _⟩
    · simp only [if_true, hwrites, Bool.false_eq_true, if_false]
      exact .unwritten hreads hwrites
    · simp only [if_true, hwrites]
      exact .opened hreads hwrites

/-- A connection on its way: it has its timer, and its callbacks for some directions. -/
structure Opening (s : Server) (fd : Fd) (D : Direction → Prop) (t : Server) : Prop where
  timed : Timed t.scheduler.timers t.connections
  early : t.scheduler.clock + idleTimeout ≤ Instant.latest
  wired : Wired t.loop t.handlers fun x d => s.connections[x]? ≠ none ∨ fd = x ∧ D d
  connections : ∀ x : Fd,
    (t.connections[x]?).isSome = (decide (fd = x) || (s.connections[x]?).isSome)
  printed : t.printed = s.printed
  others : ∀ x d, fd ≠ x → t.loop.reactor.handlerOf x d = s.loop.reactor.handlerOf x d

lemma opening_begun {s : Server} (h : Orderly s) {fd : Fd} (hfd : s.connections[fd]? = none) :
    Opening s fd (fun _ => False) (s.begun fd) := by
  rw [begun_eq h]
  refine ⟨h.timed.begun hfd _, h.early, h.wired.congr fun x d => ?_, fun x => ?_, rfl,
    fun _ _ _ => rfl⟩
  · simp
  · by_cases hx : fd = x <;> simp [Std.ExtTreeMap.getElem?_insert, hx]

lemma covers_readOnly (d : Direction) : Interest.readOnly.covers d = true ↔ d = .reading := by
  cases d <;> simp [Interest.covers, Interest.readOnly]

lemma covers_writeOnly (d : Direction) : Interest.writeOnly.covers d = true ↔ d = .writing := by
  cases d <;> simp [Interest.covers, Interest.writeOnly]

lemma Opening.register {s t u : Server} {fd : Fd} {D : Direction → Prop} {i : Interest}
    {b : Bool} (h : Opening s fd D t) (hfd : s.connections[fd]? = none) (d₀ : Direction)
    (hcovers : ∀ d, i.covers d = true ↔ d = d₀) (hfree : ¬D d₀)
    (hregister : t.register fd i (.toward d₀ fd) = (u, b)) :
    Opening s fd (fun d => D d ∨ b = true ∧ d = d₀) u := by
  simp only [Server.register, Prod.mk.injEq] at hregister
  obtain ⟨rfl, rfl⟩ := hregister
  have hwired := h.wired.register fd hcovers (by simp [hfd, hfree])
  refine ⟨h.timed, h.early, hwired.congr fun x d => ?_, h.connections, h.printed,
    fun x d hx => ?_⟩
  · tauto
  · show (t.loop.add fd i).1.reactor.handlerOf x d = _
    rw [handlerOf_add, if_neg fun hnew => hx hnew.2.1]
    exact h.others x d hx

/-- A connection that is given up on its way leaves nothing behind. -/
lemma Opening.close {s t : Server} {fd : Fd} {D : Direction → Prop} (h : Opening s fd D t)
    (hfd : s.connections[fd]? = none) (hfree : ∀ d, s.loop.reactor.handlerOf fd d = none) :
    Orderly (t.close fd) ∧ (∀ x d, (t.close fd).stray x d = s.stray x d) ∧
      ∀ x, (t.close fd).account x = s.account x + if fd = x then 1 else 0 := by
  have hopen : t.connections[fd]? ≠ none := by
    rw [← Option.isSome_iff_ne_none, h.connections]
    simp
  obtain ⟨htimed, hwired, hconnections, hprinted, hhandlerOf⟩ :=
    close_of_known h.timed h.wired hopen
  have hsame : ∀ x : Fd, ((t.close fd).connections[x]?).isSome = (s.connections[x]?).isSome := by
    intro x
    rw [hconnections, isSome_erase, h.connections]
    by_cases hx : fd = x
    · subst hx
      simp [hfd]
    · simp [hx]
  refine ⟨⟨htimed, by rw [close_clock]; exact h.early, hwired.congr fun x d => ?_⟩,
    fun x d => ?_, fun x => ?_⟩
  · rw [← Option.isSome_iff_ne_none, hsame, Option.isSome_iff_ne_none]
    by_cases hx : fd = x
    · subst hx
      simp [hfd]
    · simp [hx]
  · rw [stray, stray, hsame, hhandlerOf]
    by_cases hx : fd = x
    · subst hx
      simp [hfree]
    · rw [if_neg hx, h.others x d hx]
  · rw [account, account, hsame, hprinted, h.printed]
    by_cases hx : fd = x
    · subst hx
      simp [hfd]
    · simp [hx]

/-- A connection that is open has its timer and its callbacks. -/
lemma Opening.done {s t : Server} {fd : Fd} {D : Direction → Prop} (h : Opening s fd D t)
    (hall : ∀ d, D d) (hfd : s.connections[fd]? = none)
    (hfree : ∀ d, s.loop.reactor.handlerOf fd d = none) :
    Orderly t ∧ (∀ x d, t.stray x d = s.stray x d) ∧
      ∀ x, t.account x = s.account x + if fd = x then 1 else 0 := by
  refine ⟨⟨h.timed, h.early, h.wired.congr fun x d => ?_⟩, fun x d => ?_, fun x => ?_⟩
  · rw [← Option.isSome_iff_ne_none, h.connections]
    simp [hall, or_comm]
  · rw [stray, stray, h.connections]
    by_cases hx : fd = x
    · subst hx
      simp [hfree]
    · simp [hx, h.others x d hx]
  · rw [account, account, h.connections, h.printed]
    by_cases hx : fd = x
    · subst hx
      simp [hfd]
    · simp [hx]

/-- Who has no callback is no connection. -/
lemma Orderly.unknown {s : Server} (h : Orderly s) {fd : Fd}
    (hfree : ∀ d, s.loop.reactor.handlerOf fd d = none) : s.connections[fd]? = none := by
  by_contra hfd
  obtain ⟨id, hid, -⟩ := h.wired.wired fd .reading hfd
  rw [hfree] at hid
  cases hid

/-- What has no registration is no connection. -/
lemma Orderly.unregistered {s : Server} (h : Orderly s) {fd : Fd}
    (hfree : s.loop.reactor.registry.get? fd = none) : s.connections[fd]? = none := by
  refine h.unknown fun d => ?_
  rw [Reactor.handlerOf, hfree]
  rfl

/-- A connection has one registration for both callbacks. -/
lemma Orderly.registration {s : Server} (h : Orderly s) {fd : Fd}
    (hfd : s.connections[fd]? ≠ none) :
    ∃ current idr idw, s.loop.reactor.registry.get? fd = some current ∧
      current.read = some idr ∧ current.write = some idw := by
  obtain ⟨idr, hread, -⟩ := h.wired.wired fd .reading hfd
  obtain ⟨idw, hwrite, -⟩ := h.wired.wired fd .writing hfd
  obtain ⟨current, hc, hread⟩ := Option.bind_eq_some_iff.mp hread
  rw [Reactor.handlerOf, hc] at hwrite
  exact ⟨current, idr, idw, hc, hread, hwrite⟩

/-- **Beginning a connection keeps the tables consistent**, whether it succeeds or not, and counts
as the beginning of one connection. -/
theorem connect_orderly {s : Server} (h : Orderly s) {fd : Fd}
    (hfree : ∀ d, s.loop.reactor.handlerOf fd d = none) :
    Orderly (s.connect fd).1 ∧ (∀ x d, (s.connect fd).1.stray x d = s.stray x d) ∧
      ∀ x, (s.connect fd).1.account x = s.account x + if fd = x then 1 else 0 := by
  have hfd := h.unknown hfree
  have hbegun := opening_begun h hfd
  have hread {t : Server} {b : Bool}
      (hreads : (s.begun fd).register fd .readOnly (.reader fd) = (t, b)) :=
    hbegun.register hfd .reading covers_readOnly (by simp) hreads
  have hwrite {t u : Server} {b b' : Bool}
      (hreads : (s.begun fd).register fd .readOnly (.reader fd) = (t, b))
      (hwrites : t.register fd .writeOnly (.writer fd) = (u, b')) :=
    (hread hreads).register hfd .writing covers_writeOnly (by simp) hwrites
  have hconnected := connected_of_connect s fd
  generalize (s.connect fd).1 = s' at hconnected
  cases hconnected with
  | unread reads => exact (hread reads).close hfd hfree
  | unwritten reads writes => exact (hwrite reads writes).close hfd hfree
  | opened reads writes =>
      exact (hwrite reads writes).done (fun d => by cases d <;> simp) hfd hfree

/-! ### Listening -/

/-- The server listens to numbers that are no connections. -/
lemma listen_orderly {s : Server} (h : Orderly s) (fd : Fd) :
    Orderly { s with loop := (s.loop.add fd .readOnly).1 } ∧
      ((s.loop.add fd .readOnly).2.1 = true → s.connections[fd]? = none) ∧
      (∀ x d, stray { s with loop := (s.loop.add fd .readOnly).1 } x d =
        if (s.loop.add fd .readOnly).2.1 = true ∧ fd = x ∧ d = .reading then
          some s.loop.nextCallback
        else s.stray x d) ∧
      ∀ x, account { s with loop := (s.loop.add fd .readOnly).1 } x = s.account x := by
  -- a connection has a callback for reading already, and so overlaps
  have hunknown : (s.loop.add fd .readOnly).2.1 = true → s.connections[fd]? = none := by
    intro hadded
    by_contra hfd
    obtain ⟨id, hid, -⟩ := h.wired.wired fd .reading hfd
    have hadd := s.loop.reactor.added fd .readOnly s.loop.nextCallback
    rw [show (s.loop.reactor.add fd .readOnly s.loop.nextCallback).2.1 = true from hadded] at hadd
    rw [← Reactor.currentOrFresh_handler] at hid
    generalize (s.loop.reactor.add fd .readOnly s.loop.nextCallback).1 = r at hadd
    cases hadd with
    | added _ apart _ =>
        rw [Registration.overlaps_of_covers (d := .reading) rfl (by simp [hid])] at apart
        cases apart
  have hwired := h.wired.listen fd (i := .readOnly) fun d hd hadded => absurd (hunknown hadded) hd
  refine ⟨⟨h.timed, h.early, hwired⟩, hunknown, fun x d => ?_, fun _ => rfl⟩
  · rw [stray, stray]
    show (if (s.connections[x]?).isSome = true then none
      else (s.loop.add fd .readOnly).1.reactor.handlerOf x d) = _
    rw [handlerOf_add]
    simp only [covers_readOnly]
    split
    · next hopen =>
        rw [if_neg]
        rintro ⟨hadded, rfl, -⟩
        rw [hunknown hadded] at hopen
        cases hopen
    · rfl

/-! ### Runs -/

/-- The tables after a run, as they are carried from move to move. -/
structure Chronicled (past : List Stride) (s : Server) : Prop where
  orderly : Orderly s
  listens : ∀ fd, (s.stray fd .reading).isSome ↔ fd ∈ listening past
  writes : ∀ fd, s.stray fd .writing = none
  account : ∀ fd, s.account fd = (connected past).count fd

lemma orderly_start (limit : Option Nat) (workers : Nat) :
    Orderly (start (.boot limit) workers) where
  timed := ⟨Timers.sound_empty, fun fd c h => by simp [start] at h, nofun⟩
  early := show (0 : Instant) + idleTimeout ≤ Instant.latest by decide
  wired :=
    { agreed := Reactor.agreed_boot limit Reactor.defaultCapacity
      attentive := Kernel.attentive_boot limit
      issued := fun id h => by simp [start] at h
      drawn := fun fd d id h => by
        simp [start, Loop.start, Reactor.start, Reactor.handlerOf] at h
      wired := fun fd d h => by simp [start] at h
      others := fun fd d id _ h => by
        simp [start, Loop.start, Reactor.start, Reactor.handlerOf] at h }

lemma chronicled_start (limit : Option Nat) (workers : Nat) :
    Chronicled [] (start (.boot limit) workers) := by
  refine ⟨orderly_start limit workers, fun fd => ?_, fun fd => ?_, fun fd => ?_⟩
  · simp [stray, start, Loop.start, Reactor.start, Reactor.handlerOf, listening, Machine.noted]
  · simp [stray, start, Loop.start, Reactor.start, Reactor.handlerOf]
  · simp [account, start, connected, Machine.noted]

lemma listening_concat (past : List Stride) (t : Stride) :
    listening (past ++ [t]) = listening past ++
      t.notes.filterMap (fun | .listening fd => some fd | _ => none) :=
  Machine.noted_concat _ past t

lemma connected_concat (past : List Stride) (t : Stride) :
    connected (past ++ [t]) = connected past ++
      t.notes.filterMap (fun | .connected fd => some fd | _ => none) :=
  Machine.noted_concat _ past t

/-- A move by which nothing begins. -/
lemma Chronicled.kept {past : List Stride} {t : Stride} (h : Chronicled past t.before)
    (horderly : Orderly t.after ∧ Kept t.before t.after)
    (hnotes : ∀ note ∈ t.notes, ∀ fd, note ≠ .listening fd ∧ note ≠ .connected fd) :
    Chronicled (past ++ [t]) t.after := by
  obtain ⟨ho, hkept⟩ := horderly
  have hlistening : listening (past ++ [t]) = listening past := by
    rw [listening_concat, List.append_right_eq_self, List.filterMap_eq_nil_iff]
    intro note hnote
    split
    · next fd => exact absurd rfl (hnotes _ hnote fd).1
    · rfl
  have hconnected : connected (past ++ [t]) = connected past := by
    rw [connected_concat, List.append_right_eq_self, List.filterMap_eq_nil_iff]
    intro note hnote
    split
    · next fd => exact absurd rfl (hnotes _ hnote fd).2
    · rfl
  refine ⟨ho, fun fd => ?_, fun fd => ?_, fun fd => ?_⟩
  · rw [hkept.stray, hlistening, h.listens]
  · rw [hkept.stray, h.writes]
  · rw [hkept.account, hconnected, h.account]

lemma Chronicled.unnoted {past : List Stride} {t : Stride} (h : Chronicled past t.before)
    {s : Server} (hmade : step t.before t.move = some (s, []))
    (horderly : Orderly s ∧ Kept t.before s) : Chronicled (past ++ [t]) t.after := by
  rw [t.made, Option.some.injEq, Prod.mk.injEq] at hmade
  obtain ⟨rfl, hnotes⟩ := hmade
  exact h.kept horderly (by simp [hnotes])

/-- **Every move keeps the tables consistent**, and the history with them. -/
theorem Stride.chronicled {past : List Stride} (t : Stride) (h : Chronicled past t.before) :
    Chronicled (past ++ [t]) t.after := by
  have ho := h.orderly
  have hmade := t.made
  cases hm : t.move with
  | file action =>
      simp only [hm, step, Option.ite_none_left_eq_some, Option.map_eq_some_iff,
        Prod.mk.injEq] at hmade
      obtain ⟨hunheld, ⟨k, answer⟩, hacted, hafter, hnotes⟩ := hmade
      refine h.kept (hafter ▸ ho.steady (Loop.steady_file ho.wired.agreed ho.wired.attentive hacted
        fun fd hclose => ?_) rfl rfl rfl fun _ => rfl) ?_
      · -- a number with a registration is not given to others
        subst hclose
        simp only [Kernel.Action.numbers, List.any_cons, List.any_nil, holds, Bool.or_false,
          Bool.or_eq_true, not_or, Bool.not_eq_true, Option.isSome_eq_false_iff,
          Option.isNone_iff_eq_none] at hunheld
        exact hunheld.1.1
      · rw [← hnotes]
        intro note hnote fd
        unfold fileNotes at hnote
        split at hnote <;> simp_all
  | listen fd =>
      simp only [hm, step, Option.some.injEq, Prod.mk.injEq] at hmade
      obtain ⟨hafter, hnotes⟩ := hmade
      obtain ⟨hlisten, -, hstray, haccount⟩ := listen_orderly ho fd
      rw [hafter] at hlisten hstray haccount
      refine ⟨hlisten, fun x => ?_, fun x => ?_, fun x => ?_⟩
      · rw [listening_concat, ← hnotes, hstray, List.mem_append, ← h.listens]
        cases hadded : (t.before.loop.add fd .readOnly).2.1 with
        | false => simp
        | true =>
            by_cases hx : fd = x
            · simp [hx]
            · simp [hx, Ne.symm hx]
      · rw [hstray, if_neg (by simp), h.writes]
      · rw [haccount, h.account, connected_concat, ← hnotes]
        split <;> simp
  | connect fd =>
      simp only [hm, step, Option.ite_none_left_eq_some, Option.some.injEq, Prod.mk.injEq] at hmade
      obtain ⟨hunheld, hafter, hnotes⟩ := hmade
      have hfree : ∀ d, t.before.loop.reactor.handlerOf fd d = none := by
        simp only [holds, Bool.or_eq_true, not_or, Bool.not_eq_true, Option.isSome_eq_false_iff,
          Option.isNone_iff_eq_none] at hunheld
        intro d
        rw [Reactor.handlerOf, hunheld.1.1]
        rfl
      obtain ⟨hconnect, hstray, haccount⟩ := connect_orderly ho hfree
      rw [hafter] at hconnect hstray haccount
      refine ⟨hconnect, fun x => ?_, fun x => ?_, fun x => ?_⟩
      · rw [hstray, h.listens, listening_concat, ← hnotes]
        simp
      · rw [hstray, h.writes]
      · rw [haccount, h.account, connected_concat, ← hnotes]
        by_cases hx : fd = x <;> simp [hx, List.count_append]
  | turn => exact h.unnoted (by rw [hm]; rfl) (turn_orderly ho)
  | readable fd => exact h.unnoted (by rw [hm]; rfl) ((onReadable_doings _ fd).orderly ho)
  | reads rounds fd =>
      exact h.unnoted (by rw [hm]; rfl) ((readRequests_doings rounds _ fd).orderly ho)
  | writable fd => exact h.unnoted (by rw [hm]; rfl) ((flush_doings _ fd).orderly ho)
  | finishJob => exact h.unnoted (by rw [hm]; rfl) (finishJob_orderly ho)
  | answer fd bytes => exact h.unnoted (by rw [hm]; rfl) (answer_orderly ho fd bytes)
  | touch fd => exact h.unnoted (by rw [hm]; rfl) (touch_orderly ho fd)
  | close fd => exact h.unnoted (by rw [hm]; rfl) (close_orderly ho fd)
  | pass delay =>
      obtain ⟨hearly, hafter, hnotes⟩ := Stride.passes hm
      refine h.kept ?_ (by simp [hnotes])
      rw [hafter]
      exact ⟨⟨ho.timed, hearly, ho.wired⟩, fun _ _ => rfl, fun _ => rfl⟩

/-- The tables of the server are consistent with each other and with what happened. -/
structure Consistent (past : List Stride) (s : Server) : Prop where
  /-- Every connection has an idle timer. -/
  timed : ∀ (fd : Fd) c, s.connections[fd]? = some c → c.idle ≠ none
  /-- The pending timers are the idle timers of the connections. -/
  idle : ∀ (fd : Fd) id, s.connections[fd]? = some ⟨some id⟩ ↔
    ∃ deadline, (⟨deadline, id⟩, fd) ∈ s.scheduler.timers.entries
  /-- Every pending timer is there once. -/
  distinct : s.scheduler.pendingIds.Nodup
  /-- There are as many pending timers as connections. -/
  pending : s.scheduler.pending = s.connections.size
  /-- The callbacks for a connection are those that read its requests and write its replies. -/
  served : ∀ (fd : Fd) d, s.connections[fd]? ≠ none → ∃ id,
    s.loop.reactor.handlerOf fd d = some id ∧ s.handlers[id]? = some (.toward d fd)
  /-- Connections have a callback for writing, and nothing else has. -/
  writers : ∀ fd, s.loop.reactor.handlerOf fd .writing ≠ none ↔ s.connections[fd]? ≠ none
  /-- Connections have a callback for reading, and so has what the server listens to. -/
  readers : ∀ fd, s.loop.reactor.handlerOf fd .reading ≠ none ↔
    s.connections[fd]? ≠ none ∨ fd ∈ listening past
  /-- The server does not listen to a connection. -/
  apart : ∀ fd ∈ listening past, s.connections[fd]? = none
  /-- A connection that was begun was ended once, unless it is open. -/
  closed : ∀ fd, s.printed.count (.closed fd) + (if (s.connections[fd]?).isSome then 1 else 0) =
    (connected past).count fd
  /-- Touching what is no connection leaves no timer behind. -/
  untouched : ∀ fd : Fd, s.connections[fd]? = none → s.touch fd = { s with
    scheduler := { s.scheduler with
      timers := { s.scheduler.timers with nextId := s.scheduler.timers.nextId + 1 } } }
  /-- Closing what is no connection changes nothing. -/
  unclosed : ∀ fd : Fd, s.connections[fd]? = none → s.close fd = s

/-- One timer for each connection makes as many timers as connections. -/
lemma Timed.pending {timers : Timers Fd} {connections : Std.ExtTreeMap Fd Connection}
    (h : Timed timers connections) : timers.size = connections.size := by
  classical
  have hnodup : (timers.entries.map Prod.snd).Nodup := by
    refine h.sound.nodup_keys.of_map.map_on fun a ha b hb hab => h.sound.eq_of_id ha hb ?_
    exact (h.id_eq_iff (h.owner b hb) ha).mpr hab
  have hset : {fd : Fd | connections[fd]? ≠ none} =
      ((timers.entries.map Prod.snd).toFinset : Set Fd) := by
    ext fd
    rw [Set.mem_ofPred_eq, Finset.mem_coe, List.mem_toFinset, List.mem_map]
    constructor
    · intro hfd
      obtain ⟨c, hc⟩ := Option.ne_none_iff_exists'.mp hfd
      obtain ⟨d, id, -, hmem⟩ := h.idle fd c hc
      exact ⟨_, hmem, rfl⟩
    · rintro ⟨e, he, rfl⟩
      rw [h.owner e he]
      simp
  rw [← Map.ncard_eq_size, hset, Set.ncard_coe_finset, List.toFinset_card_of_nodup hnodup,
    List.length_map]
  rfl

lemma Chronicled.consistent {past : List Stride} {s : Server} (h : Chronicled past s) :
    Consistent past s := by
  have htimed := h.orderly.timed
  have hwired := h.orderly.wired
  have hopen {fd : Fd} (d : Direction) (hfd : s.connections[fd]? ≠ none) :
      s.loop.reactor.handlerOf fd d ≠ none := by
    obtain ⟨id, hid, -⟩ := hwired.wired fd d hfd
    rw [hid]
    exact Option.some_ne_none id
  -- what is no connection has the callbacks that are not the server's
  have hstray {fd : Fd} (d : Direction) (hfd : s.connections[fd]? = none) :
      s.stray fd d = s.loop.reactor.handlerOf fd d := by
    rw [stray, hfd]
    rfl
  have hlistens {fd : Fd} (hfd : fd ∈ listening past) : s.connections[fd]? = none := by
    by_contra hsome
    have hlistens := (h.listens fd).mpr hfd
    rw [stray, if_pos (Option.isSome_iff_ne_none.mpr hsome)] at hlistens
    cases hlistens
  refine ⟨fun fd c hc => ?_, fun fd id => ⟨fun hc => ?_, ?_⟩, htimed.sound.nodup_ids,
    htimed.pending, fun fd d hfd => hwired.wired fd d hfd, fun fd => ⟨fun hw => ?_, hopen .writing⟩,
    fun fd => ?_, fun fd hfd => hlistens hfd, h.account, fun fd => touch_of_unknown h.orderly,
    fun fd => close_of_unknown⟩
  · obtain ⟨d, id, rfl, -⟩ := htimed.idle fd c hc
    exact Option.some_ne_none id
  · obtain ⟨d, id', hid, hmem⟩ := htimed.idle fd _ hc
    obtain rfl : id = id' := by simpa using hid
    exact ⟨d, hmem⟩
  · rintro ⟨d, hmem⟩
    exact htimed.owner _ hmem
  · by_contra hfd
    exact hw ((hstray .writing hfd).symm.trans (h.writes fd))
  · by_cases hfd : s.connections[fd]? = none
    · rw [← hstray .reading hfd, ← Option.isSome_iff_ne_none, h.listens]
      simp [hfd]
    · exact iff_of_true (hopen .reading hfd) (.inl hfd)

/-- **The tables of the echo server stay consistent** in every run, whatever comes in whichever
order, as long as no idle timer fires: connections are begun, read, written, touched and closed,
also when they were closed before, and jobs come to their end. -/
theorem tables_stay_consistent (limit : Option Nat) (workers : Nat) (ms : List Move) :
    Consistent ((start (.boot limit) workers).strides ms)
      ((start (.boot limit) workers).after ms) := by
  have hchronicled : Chronicled ((start (.boot limit) workers).strides ms)
      ((start (.boot limit) workers).after ms) :=
    Machine.history_rec (chronicled_start limit workers) (fun past t h => Stride.chronicled t h) ms
  exact hchronicled.consistent

/-- A listener and two connections: one is closed, touched and closed once more, and its worker is
done with it after that. The number is used again for the other one. -/
def reused : List Move :=
  [.file (.pair 3 4), .listen 3, .file (.pair 10 11), .file (.write 11 [0x61]), .connect 10, .turn,
    .turn, .turn, .close 10, .touch 10, .close 10, .finishJob, .file (.close 10),
    .file (.close 11), .file (.pair 10 11), .connect 10, .touch 10]

/-- The first connection was ended once, the second one is open, with a timer of its own. -/
theorem tables_stay_consistent_reused :
    ((start (.boot none) 1).after reused).printed = [.closed 10] ∧
      connected ((start (.boot none) 1).strides reused) = [10, 10] ∧
      ((start (.boot none) 1).after reused).scheduler.pendingIds = [4] ∧
      Consistent ((start (.boot none) 1).strides reused) ((start (.boot none) 1).after reused) :=
  ⟨rfl, rfl, rfl, tables_stay_consistent none 1 reused⟩

end EventLoop.Echo.Server
