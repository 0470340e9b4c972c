import EventLoop.Proofs.Ownership
import EventLoop.Proofs.Undispatched

/-!
A read or write callback that panics in the middle of a batch. The run of the driver ends, and with
it the events that it had not handed out are gone. Nothing is lost by this: their registrations are
as they were, so the kernel goes on watching them, and the next wait finds them ready again.

* `Stride.keeps_handler` says that a callback that is not removed stays under its token, and
  `keeps_handler_after` the same of a run.
* `exists_start` finds the start of the callback that is running; `Stride.Writes.disarms` says what
  it does to a write callback.
* `Fit` is what holds at every move of a run that closes no number with a registration.
* `panic_loses_no_readiness` is the main statement here, and `panicking_writer_stays_armed` shows
  that the write callback which panics need not be disarmed afterwards.
-/

namespace EventLoop

open Reactor (Direction Role Note)

namespace Loop

variable {ι : Type}

/-! ### Registrations that stay -/

/-- No callback is added where there is one. -/
lemma Stride.not_adds_of_handler {s : Stride ι} {fd : Fd} {d : Direction} {callback : CallbackId}
    (h : s.before.reactor.handlerOf fd d = some callback) (other : CallbackId) :
    ¬s.Adds fd d other := by
  rintro ⟨i, hm, hcovers, hreply, -⟩
  obtain ⟨b, hb, hadded⟩ := Stride.added hm
  rw [hreply] at hb
  cases hb
  generalize s.after.reactor = r at hadded
  cases hadded with
  | added _ apart _ =>
      have hhandler : (s.before.reactor.registry.currentOrFresh fd).2.handler d ≠ none := by
        rw [Reactor.currentOrFresh_handler, h]
        exact Option.some_ne_none _
      rw [Registration.overlaps_of_covers hcovers hhandler] at apart
      cases apart

/-- **A callback that is not removed stays**, under the token of its registration. -/
lemma Stride.keeps_handler {s : Stride ι} (hs : s.before.reactor.registry.Sound) {fd : Fd}
    {d : Direction} {callback : CallbackId} {current : Registration CallbackId}
    (hc : s.before.reactor.registry.get? fd = some current)
    (hd : current.handler d = some callback) (hkept : ¬s.Removes fd d) :
    ∃ next, s.after.reactor.registry.get? fd = some next ∧ next.token = current.token ∧
      next.handler d = some callback := by
  have hhandler : s.before.reactor.handlerOf fd d = some callback := by
    rw [Reactor.handlerOf, hc]
    exact hd
  have hafter : s.after.reactor.handlerOf fd d = some callback := by
    rw [s.handlerOf_eq_some hs]
    exact .inr ⟨hhandler, hkept, Stride.not_adds_of_handler hhandler⟩
  obtain ⟨next, hn, hnext⟩ := Option.bind_eq_some_iff.mp hafter
  exact ⟨next, hn, Stride.token_eq hs hc hn, hnext⟩

lemma keeps_handler_after {l : Loop ι} (hl : l.reactor.registry.Sound) {fd : Fd} {d : Direction}
    {callback : CallbackId} {current : Registration CallbackId}
    (hc : l.reactor.registry.get? fd = some current) (hd : current.handler d = some callback)
    {ms : List (Move ι)} (hkept : ∀ s ∈ l.strides ms, ¬s.Removes fd d) :
    ∃ next, (l.after ms).reactor.registry.get? fd = some next ∧ next.token = current.token ∧
      next.handler d = some callback := by
  have hall := after_of_stride (l := l) (Q := fun s => ¬s.Removes fd d)
    (P := fun l' => l'.reactor.registry.Sound ∧ ∃ next,
      l'.reactor.registry.get? fd = some next ∧ next.token = current.token ∧
        next.handler d = some callback)
    ?_ ⟨hl, current, hc, rfl, hd⟩ hkept
  · exact hall.2
  · rintro s hs ⟨hsound, next, hn, htoken, hnext⟩
    obtain ⟨later, hlater, htoken', hhandler⟩ := s.keeps_handler hsound hn hnext hs
    exact ⟨(s.change.follows hsound).sound, later, hlater, htoken'.trans htoken, hhandler⟩

/-! ### The callback that is running -/

/-- What is running was started, and the driver has not moved since. -/
lemma exists_start {l : Loop ι} (hl : l.active = none) {callback : CallbackId} {role : Role ι}
    {ms : List (Move ι)} (h : (l.after ms).active = some ⟨callback, role⟩) :
    ∃ earlier s inside, l.strides ms = earlier ++ s :: inside ∧ s.Starts callback role ∧
      ∀ q ∈ inside, q.move ≠ .advance := by
  refine history_rec (l := l) (P := fun past l' => l'.active = some ⟨callback, role⟩ →
    ∃ earlier s inside, past = earlier ++ s :: inside ∧ s.Starts callback role ∧
      ∀ q ∈ inside, q.move ≠ .advance) ?_ ?_ ms h
  · intro hactive
    rw [hl] at hactive
    cases hactive
  · intro past s ih hactive
    rcases Stride.active_of_after hactive with hbefore | hstarts
    · obtain ⟨earlier, t, inside, rfl, hstarts, hinside⟩ := ih hbefore
      refine ⟨earlier, t, inside ++ [s], by simp, hstarts, fun q hq => ?_⟩
      rcases List.mem_append.mp hq with hq | hq
      · exact hinside q hq
      · -- the driver does not move while a callback runs
        obtain rfl := List.mem_singleton.mp hq
        intro hm
        have hidle := (q.advance hm).1
        rw [hbefore] at hidle
        cases hidle
    · exact ⟨past, s, [], rfl, hstarts, by simp⟩

/-- A write callback is disarmed when it is started. -/
lemma Stride.Writes.disarms {s : Stride ι} (hs : s.before.reactor.registry.Sound) {fd : Fd}
    {callback : CallbackId} (h : s.Writes fd callback) : s.after.reactor.armedOf fd = none := by
  have harmed := h.armed hs
  rw [Option.eq_none_iff_forall_ne_some]
  intro other
  rw [Ne, s.armedOf_eq_some hs]
  rintro (harms | ⟨hother, hwrites, -⟩)
  · rw [harms.disarmed] at harmed
    cases harmed
  · obtain rfl := Option.some.inj (harmed.symm.trans hother)
    exact hwrites h

/-- A write callback that is running was started for a descriptor, and this descriptor has no armed
write callback unless one was armed since. -/
lemma exists_writes {l : Loop ι} (hl : l.reactor.registry.Sound) (hidle : l.active = none)
    {callback : CallbackId} {t : Token} {ms : List (Move ι)}
    (h : (l.after ms).active = some ⟨callback, .readiness t .writing⟩) :
    ∃ fd earlier s inside, l.strides ms = earlier ++ s :: inside ∧ s.Writes fd callback ∧
      (∀ q ∈ inside, q.move ≠ .advance) ∧
      ((∀ q ∈ inside, ∀ other, ¬q.Arms fd other) →
        (l.after ms).reactor.armedOf fd = none) := by
  obtain ⟨earlier, s, inside, hcut, hstarts, hinside⟩ := exists_start hidle h
  obtain ⟨ms₁, ms₂, -, hbefore, hrest, hend⟩ := exists_moves_of_strides_eq hcut
  have hsound : s.before.reactor.registry.Sound := hbefore ▸ (follows_after hl ms₁).sound
  obtain ⟨fd, current, hc, rfl, -⟩ := hstarts.entry hsound
  have hwrites : s.Writes fd callback := ⟨current, hc, hstarts⟩
  refine ⟨fd, earlier, s, inside, hcut, hwrites, hinside, fun hnever => ?_⟩
  have hafter := (s.change.follows hsound).sound
  rw [← hend, Option.eq_none_iff_forall_ne_some]
  intro other
  refine armedOf_after_ne hafter ?_ fun q hq => hnever q (hrest ▸ hq) other
  rw [hwrites.disarms hsound]
  exact nofun

/-! ### The next wait -/

/-- How many events a poll brings at most never changes. -/
lemma Change.capacity {l : Loop ι} {m : Move ι} {reply : Reply ι} {r : Reactor ι}
    (h : Change l m reply r) : r.capacity = l.reactor.capacity := by
  cases h with
  | add fd i => exact (l.reactor.added fd i l.nextCallback).sameWork.capacity
  | remove fd i => exact (l.reactor.removed fd i).sameWork.capacity
  | requestWrite fd => exact (l.reactor.requested fd).sameWork.capacity
  | takeWrite _ armed handler => exact (l.reactor.taken _ armed handler).sameWork.capacity
  | file _ => rfl
  | breakWatching => rfl
  | same _ registrations => exact registrations.capacity

lemma capacity_after (l : Loop ι) (ms : List (Move ι)) :
    (l.after ms).reactor.capacity = l.reactor.capacity :=
  after_of_stride (P := fun l' => l'.reactor.capacity = l.reactor.capacity) (Q := fun _ => True)
    (fun s _ ih => s.change.capacity.trans ih) rfl fun _ _ => trivial

/-- What holds whenever a move is made in a run that closes no number with a registration, as long
as the tokens last. -/
structure Fit (l : Loop ι) (capacity : Nat) : Prop where
  agreed : l.reactor.Agreed
  attentive : l.reactor.kernel.Attentive
  tokens : l.reactor.registry.nextToken ≤ .wakeup
  capacity : l.reactor.capacity = capacity

lemma fit_of_mem {limit : Option Nat} {capacity : Nat} {ms : List (Move ι)}
    (spares : ∀ s ∈ (start (.boot limit) capacity).strides ms, s.Spares)
    (tokens : ((start (.boot limit) capacity).after ms).reactor.registry.nextToken ≤ .wakeup)
    {s : Stride ι} (hs : s ∈ (start (.boot limit) capacity).strides ms) :
    s.before.Fit capacity := by
  obtain ⟨past, later, hcut⟩ := List.append_of_mem hs
  obtain ⟨ms₁, -, hpast, hbefore, -⟩ := exists_moves_of_strides_eq hcut
  have hagreed : s.before.reactor.Agreed := by
    rw [← hbefore]
    refine agreed_after (Reactor.agreed_boot limit capacity) fun q hq => spares q ?_
    rw [hcut]
    exact List.mem_append_left _ (hpast ▸ hq)
  refine ⟨hagreed, ?_, ?_, ?_⟩
  · rw [← hbefore]
    exact attentive_after (l := start (.boot limit) capacity) (Kernel.attentive_boot limit) ms₁
  · calc s.before.reactor.registry.nextToken
        ≤ s.after.reactor.registry.nextToken := (s.change.follows hagreed.sound).nextToken
      _ ≤ ((start (.boot limit) capacity).after ms).reactor.registry.nextToken :=
          (follows_of_mem Registry.sound_empty hs).2.nextToken
      _ ≤ .wakeup := tokens
  · rw [← hbefore]
    exact capacity_after (start (.boot limit) capacity) ms₁

/-! ### Panics -/

/-- **A panicking read or write callback loses no readiness.** Let no descriptor with a registration
be closed, let a wait bring events, and let a callback for one of them panic before the next wait.
Then, after the panic:
* every callback that was registered at the wait or at any moment since, and that was not removed
  since, is still there under the token of its registration;
* if it was a write callback that panicked, its descriptor is disarmed unless it was armed again
  after the callback was started;
* the watched set agrees with the table;
* every event that was not handed out, or not completely, is about a registration which is exactly
  as it was at the wait, if nobody but the driver changed it since; and if this goes on until the
  next wait and the state of the descriptor is then what it was, the next wait brings this very
  event again, provided that there is room for all ready entries;
* the same holds of one direction of such an event, whatever became of the other one: what was
  called for it at the wait, an armed write callback above all, is called for it still, and the next
  wait tells about it again.

Tokens count up from zero, and the largest one of 64 bits is the wakeup counter's: it is assumed
that no registration gets so far. -/
theorem panic_loses_no_readiness (limit : Option Nat) (capacity : Nat) (ms : List (Move ι))
    (past middle later : List (Stride ι)) (wait panics : Stride ι) (events : List Event)
    (callback : CallbackId) (t : Token) (d : Direction)
    (cut : (start (.boot limit) capacity).strides ms =
      past ++ wait :: (middle ++ panics :: later))
    (spares : ∀ s ∈ (start (.boot limit) capacity).strides ms, s.Spares)
    (tokens : ((start (.boot limit) capacity).after ms).reactor.registry.nextToken ≤ .wakeup)
    (collects : wait.Collects events) (same : ∀ q ∈ middle, ¬q.Waits)
    (unwinds : panics.move = .unwind)
    (running : panics.before.active = some ⟨callback, .readiness t d⟩) :
    (∀ earlier s inside, wait :: middle = earlier ++ s :: inside →
      ∀ fd d' handler current, s.after.reactor.registry.get? fd = some current →
        current.handler d' = some handler → (∀ q ∈ inside, ¬q.Removes fd d') →
        ∃ next, panics.after.reactor.registry.get? fd = some next ∧
          next.token = current.token ∧ next.handler d' = some handler) ∧
    (d = .writing → ∃ fd earlier starts inside, middle = earlier ++ starts :: inside ∧
      starts.Writes fd callback ∧ (∀ q ∈ inside, q.move ≠ .advance) ∧
      ((∀ q ∈ inside, ∀ other, ¬q.Arms fd other) →
        panics.after.reactor.armedOf fd = none)) ∧
    panics.after.reactor.InStep ∧
    ∀ e ∈ panics.before.stage.events, e ∈ events ∧ ∃ fd current,
      wait.before.reactor.registry.get? fd = some current ∧ current.token = e.token ∧
      (LeftAlone fd middle → panics.after.reactor.registry.get? fd = some current ∧
        ∀ between next rest, later = between ++ next :: rest → LeftAlone fd between →
          (∀ q ∈ between, ¬q.Waits) → next.Waits → next.before.reactor.stopped = false →
          next.before.reactor.kernel.stateOf fd = wait.before.reactor.kernel.stateOf fd →
          next.before.reactor.kernel.readyEntries ≤ next.before.reactor.capacity →
          ∃ events', next.Collects events' ∧ e ∈ events') ∧
      ∀ d' handler, current.callee d' = some handler → LeftAloneIn fd d' middle →
        panics.after.reactor.Calls fd d' e.token handler ∧
        ∀ between next rest, later = between ++ next :: rest → LeftAloneIn fd d' between →
          (∀ q ∈ between, ¬q.Waits) → next.Waits → next.before.reactor.stopped = false →
          next.before.reactor.kernel.stateOf fd = wait.before.reactor.kernel.stateOf fd →
          next.before.reactor.kernel.readyEntries ≤ next.before.reactor.capacity →
          e.ready d' = true → ∃ events', next.Collects events' ∧
            ∃ e' ∈ events', e'.token = e.token ∧ e'.ready d' = true := by
  have hfit {s : Stride ι} (hs : s ∈ past ++ wait :: (middle ++ panics :: later)) :
      s.before.Fit capacity := fit_of_mem spares tokens (cut ▸ hs)
  have hwait := hfit (s := wait) (by simp)
  have hpanics := hfit (s := panics) (by simp)
  obtain ⟨ms₁, ms₂, -, -, hrest, -⟩ := exists_moves_of_strides_eq cut
  obtain ⟨ms₃, ms₄, hmiddle, hbefore, hlater, -⟩ := exists_moves_of_strides_eq hrest
  obtain ⟨hkept, hout, -, -⟩ := Stride.unwound unwinds
  obtain ⟨-, ⟨k, batch, hpoll, -⟩, -, hregistry, -⟩ := collects.polled
  have hsound : wait.after.reactor.registry.Sound := hregistry ▸ hwait.agreed.sound
  rw [← hmiddle] at same
  rw [hkept]
  refine ⟨?_, ?_, hpanics.agreed.inStep, fun e he => ?_⟩
  · intro earlier s inside hcut fd d' handler current hc hhandler hnever
    have hrun := strides_cons_stride wait ms₃
    rw [hmiddle, hcut] at hrun
    obtain ⟨ms₅, ms₆, -, hs, hinside, hend⟩ := exists_moves_of_strides_eq hrun
    rw [after_cons_stride, hbefore] at hend
    have hssound : s.before.reactor.registry.Sound :=
      hs ▸ (follows_after hwait.agreed.sound ms₅).sound
    rw [← hend]
    exact keeps_handler_after (s.change.follows hssound).sound hc hhandler (hinside ▸ hnever)
  · rintro rfl
    rw [← hbefore] at running ⊢
    exact hmiddle ▸ exists_writes hsound collects.idle running
  · have hevent : e ∈ events := by
      rw [← collects.events]
      exact events_after_subset same (hbefore ▸ he)
    obtain ⟨fd, current, hc, hactive, rfl, hready⟩ :=
      collects.exists_entry hwait.agreed hwait.attentive hwait.tokens hevent
    have hnodup : (wait.after.stage.events.map Event.token).Nodup := by
      rw [collects.events, (collects.batch hwait.agreed hwait.attentive hwait.tokens).1,
        List.map_map]
      exact hwait.agreed.reported_nodup hwait.attentive _
    have hmost {s : Stride ι} (hs : s.before.Fit capacity) :
        s.before.reactor.capacity ≤ Kernel.mostReports := by
      rw [hs.capacity, ← hwait.capacity]
      exact Kernel.most_le_of_poll hpoll
    refine ⟨hevent, fd, current, hc, rfl, fun halone => ?_, fun d' handler hcallee halone => ?_⟩
    · have hentry : panics.before.reactor.registry.get? fd = some current := by
        rw [← hbefore] at he ⊢
        exact undisturbed_after hsound hnodup (hregistry ▸ hc) same (hmiddle ▸ halone) he rfl
      refine ⟨hentry, ?_⟩
      intro between next rest hcut halone' same' hwaits hrunning hstate hroom
      have hnext := hfit (s := next) (by simp [hcut])
      rw [hcut] at hlater
      obtain ⟨ms₅, -, hbetween, hbefore', -⟩ := exists_moves_of_strides_eq hlater
      rw [← hbetween] at same' halone'
      have hentry' : next.before.reactor.registry.get? fd = some current := by
        rw [← hbefore', get?_after_of_outside hout same' halone', hkept]
        exact hentry
      rw [← hstate] at hready ⊢
      exact hwaits.collects hrunning hnext.agreed hnext.attentive hnext.tokens (hmost hnext) hroom
        hentry' hactive hready
    · have hcalls : panics.before.reactor.Calls fd d' current.token handler := by
        rw [← hbefore] at he ⊢
        exact calls_after hsound hnodup ⟨current, hregistry ▸ hc, rfl, hcallee⟩ same
          (hmiddle ▸ halone) he
      refine ⟨hcalls, ?_⟩
      intro between next rest hcut halone' same' hwaits hrunning hstate hroom htold
      have hnext := hfit (s := next) (by simp [hcut])
      rw [hcut] at hlater
      obtain ⟨ms₅, -, hbetween, hbefore', -⟩ := exists_moves_of_strides_eq hlater
      rw [← hbetween] at same' halone'
      have hcalls' : next.before.reactor.Calls fd d' current.token handler := by
        rw [← hbefore']
        refine calls_after_of_outside hout ?_ same' halone' ?_ <;> rw [hkept]
        exacts [hpanics.agreed.sound, hcalls]
      rw [Registration.event_ready hcallee, ← hstate] at htold
      exact hwaits.collects_of_calls hrunning hnext.agreed hnext.attentive hnext.tokens
        (hmost hnext) hroom hcalls' htold

/-! ### A write callback cut short

Two connections are ready; the first is told of input, then of room, and its write callback panics
before the second is told of anything.
-/

namespace CutShort

/-- A shared callback, a write callback, input for the former, and a run begins. -/
def begin : List (Move Unit) :=
  [.file (.pair 100 101), .file (.pair 102 103), .add 100 .both, .add 102 .writeOnly,
    .file (.write 101 [120]), .enter]

def wait : Stride Unit := stride ((start (.boot none) 64).after begin) .advance rfl

def reads : Stride Unit := stride wait.after .advance rfl

def ends : Stride Unit := stride reads.after .finish rfl

def writes : Stride Unit := stride ends.after .advance rfl

def panics : Stride Unit := stride writes.after .unwind rfl

def enters : Stride Unit := stride panics.after .enter rfl

/-- The wait of the run after the panic. -/
def next : Stride Unit := stride enters.after .advance rfl

def moves : List (Move Unit) :=
  begin ++ [.advance, .advance, .finish, .advance, .unwind, .enter, .advance]

lemma cut : (start (.boot none) 64).strides moves = (start (.boot none) 64).strides begin ++
    wait :: ([reads, ends, writes] ++ panics :: [enters, next]) := rfl

lemma spares : ∀ s ∈ (start (.boot none) 64).strides moves, s.Spares :=
  spares_of_moves (by decide)

lemma collects : wait.Collects [⟨0, true, true⟩, ⟨1, false, true⟩] := ⟨⟨rfl, rfl⟩, .inl rfl⟩

lemma same : ∀ q ∈ [reads, ends, writes], ¬q.Waits := by
  simp only [List.forall_mem_cons]
  refine ⟨fun h => absurd h.2 (by decide), fun h => ?_, fun h => absurd h.2 (by decide), by simp⟩
  cases h.1

lemma never : ∀ q ∈ [reads, ends, writes], ∀ fd d, ¬q.Removes fd d := by
  simp only [List.forall_mem_cons]
  refine ⟨?_, ?_, ?_, by simp⟩
  all_goals
    rintro fd d ⟨i, hm, -⟩
    cases hm

lemma alone : LeftAlone 102 [reads, ends, writes] := by
  simp only [LeftAlone, List.forall_mem_cons]
  exact ⟨fun _ => rfl, fun _ => rfl, fun _ => rfl, by simp⟩

lemma writes_sound : writes.before.reactor.registry.Sound :=
  (follows_after (sound_after (.boot none) 64 begin) [.advance, .advance, .finish]).sound

/-- The start of the write callback is the last move before the panic. -/
lemma eq_writes {fd : Fd} {earlier inside : List (Stride Unit)} {starts : Stride Unit}
    (h : [reads, ends] ++ [writes] = earlier ++ starts :: inside) (hwrites : starts.Writes fd 0)
    (hinside : ∀ q ∈ inside, q.move ≠ .advance) : inside = [] ∧ fd = 100 := by
  rcases List.eq_nil_or_concat inside with rfl | ⟨init, last, rfl⟩
  · obtain ⟨-, hlast⟩ := List.append_inj' h rfl
    obtain rfl := List.singleton_inj.mp hlast
    obtain ⟨current, hc, hstarts⟩ := hwrites
    have hnote : Note.started 0 (.readiness current.token .writing) ∈
        [(.started 0 (.readiness 0 .writing) : Note Unit)] := hstarts
    have hentry : writes.before.reactor.registry.get? 100 = some ⟨0, some 0, some 0, true⟩ := rfl
    exact ⟨rfl, writes_sound.fd_eq hc hentry (by simpa using hnote)⟩
  · rw [List.concat_eq_append, ← List.cons_append, ← List.append_assoc] at h
    obtain ⟨-, hlast⟩ := List.append_inj' h rfl
    exact absurd (List.singleton_inj.mp hlast ▸ rfl) (hinside last (by simp))

end CutShort

/-- The write callback that panicked is disarmed and still there under its token, and the second
descriptor is as it was and is reported by the next wait. -/
theorem panic_loses_no_readiness_cut_short :
    (start (.boot none) 64).strides CutShort.moves =
        (start (.boot none) 64).strides CutShort.begin ++ CutShort.wait ::
          ([CutShort.reads, CutShort.ends, CutShort.writes] ++
            CutShort.panics :: [CutShort.enters, CutShort.next]) ∧
      (∀ s ∈ (start (.boot none) 64).strides CutShort.moves, s.Spares) ∧
      ((start (.boot none) 64).after CutShort.moves).reactor.registry.nextToken ≤ .wakeup ∧
      CutShort.wait.Collects [⟨0, true, true⟩, ⟨1, false, true⟩] ∧
      (∀ q ∈ [CutShort.reads, CutShort.ends, CutShort.writes], ¬q.Waits) ∧
      CutShort.panics.move = .unwind ∧
      CutShort.panics.before.active = some ⟨0, .readiness 0 .writing⟩ ∧
      (∃ next, CutShort.panics.after.reactor.registry.get? 100 = some next ∧ next.token = 0 ∧
        next.handler .writing = some 0) ∧
      CutShort.panics.after.reactor.armedOf 100 = none ∧
      CutShort.panics.after.reactor.registry.get? 102 = some ⟨1, none, some 1, true⟩ ∧
      ∃ events, CutShort.next.Collects events ∧ ⟨1, false, true⟩ ∈ events := by
  have htokens : ((start (.boot none) 64).after CutShort.moves).reactor.registry.nextToken ≤
      .wakeup := by decide
  obtain ⟨hkept, hwriter, -, hpending⟩ := panic_loses_no_readiness none 64 _ _ _ _ _ _ _ 0 0
    .writing CutShort.cut CutShort.spares htokens CutShort.collects CutShort.same rfl rfl
  refine ⟨CutShort.cut, CutShort.spares, htokens, CutShort.collects, CutShort.same, rfl, rfl, ?_,
    ?_, ?_⟩
  · exact hkept [] CutShort.wait _ rfl 100 .writing 0 ⟨0, some 0, some 0, true⟩ rfl rfl
      fun q hq => CutShort.never q hq 100 .writing
  · obtain ⟨fd, earlier, starts, inside, hsplit, hwrites, hinside, hdisarmed⟩ := hwriter rfl
    obtain ⟨rfl, rfl⟩ := CutShort.eq_writes hsplit hwrites hinside
    exact hdisarmed (by simp)
  · obtain ⟨-, fd, current, hc, htoken, hagain, -⟩ :=
      hpending ⟨1, false, true⟩ (List.mem_singleton.mpr rfl)
    have hentry : CutShort.wait.before.reactor.registry.get? 102 =
        some ⟨1, none, some 1, true⟩ := rfl
    have hsound := sound_after (.boot none) 64 CutShort.begin
    obtain rfl := hsound.fd_eq hc hentry htoken
    obtain rfl := Option.some.inj (hc.symm.trans hentry)
    obtain ⟨hsame, hnext⟩ := hagain CutShort.alone
    refine ⟨hsame, hnext [CutShort.enters] CutShort.next [] rfl ?_ ?_ ⟨rfl, rfl⟩ rfl rfl
      (by decide)⟩
    · exact List.forall_mem_singleton.mpr fun _ => rfl
    · refine List.forall_mem_singleton.mpr fun h => ?_
      cases h.1

/-! ### A write callback that asks for more

A write callback asks to be called again before it panics.
-/

namespace Rearming

/-- A write callback, and a run begins. -/
def begin : List (Move Unit) := [.file (.pair 100 101), .add 100 .writeOnly, .enter]

def wait : Stride Unit := stride ((start (.boot none) 64).after begin) .advance rfl

def passes : Stride Unit := stride wait.after .advance rfl

def writes : Stride Unit := stride passes.after .advance rfl

def asks : Stride Unit := stride writes.after (.requestWrite 100) rfl

def panics : Stride Unit := stride asks.after .unwind rfl

def moves : List (Move Unit) :=
  begin ++ [.advance, .advance, .advance, .requestWrite 100, .unwind]

lemma cut : (start (.boot none) 64).strides moves = (start (.boot none) 64).strides begin ++
    wait :: ([passes, writes, asks] ++ panics :: []) := rfl

lemma spares : ∀ s ∈ (start (.boot none) 64).strides moves, s.Spares :=
  spares_of_moves (by decide)

lemma collects : wait.Collects [⟨0, false, true⟩] := ⟨⟨rfl, rfl⟩, .inl rfl⟩

lemma same : ∀ q ∈ [passes, writes, asks], ¬q.Waits := by
  simp only [List.forall_mem_cons]
  refine ⟨fun h => absurd h.2 (by decide), fun h => absurd h.2 (by decide), fun h => ?_, by simp⟩
  cases h.1

end Rearming

/-- It is not so that a write callback which panics is disarmed in the end, wherever its
registration is still there. -/
theorem panicking_writer_stays_armed :
    ¬∀ (limit : Option Nat) (capacity : Nat) (ms : List (Move Unit))
        (past middle later : List (Stride Unit)) (wait panics : Stride Unit)
        (events : List Event) (callback : CallbackId) (t : Token) (fd : Fd)
        (current : Registration CallbackId),
      (start (.boot limit) capacity).strides ms =
        past ++ wait :: (middle ++ panics :: later) →
      (∀ s ∈ (start (.boot limit) capacity).strides ms, s.Spares) →
      ((start (.boot limit) capacity).after ms).reactor.registry.nextToken ≤ .wakeup →
      wait.Collects events → (∀ q ∈ middle, ¬q.Waits) → panics.move = .unwind →
      panics.before.active = some ⟨callback, .readiness t .writing⟩ →
      panics.after.reactor.registry.get? fd = some current → current.token = t →
      current.write = some callback → current.armed = false := by
  intro h
  have hdisarmed := h none 64 _ _ _ _ _ _ _ 0 0 100 ⟨0, none, some 0, true⟩ Rearming.cut
    Rearming.spares (by decide) Rearming.collects Rearming.same rfl rfl rfl rfl rfl
  cases hdisarmed

end Loop

end EventLoop
