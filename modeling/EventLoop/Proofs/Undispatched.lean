import EventLoop.Proofs.Iteration
import EventLoop.Proofs.Removal
import EventLoop.Proofs.WakeupPanics

/-!
Events that the driver has not come to, and what becomes of them when the run ends before it does.
The driver itself leaves alone what they are about, so the next wait finds it ready again.

* `Registration.event` is the event that a state of the descriptor makes, and `Agreed.eventOf_eq`
  says that this is what the kernel reports; `Registration.event_ready` says which directions it is
  about.
* `LeftAlone` says that nobody but the driver changes a registration, `LeftAloneIn` the same of one
  direction of it, and `Reactor.Calls` what is called for a direction.
* `stays_while_pending` is the induction up to the next wait; by it `undisturbed_after` and
  `calls_after` say that what an event still to come is about stays as it is, if it is left alone.
* `Stride.Waits.collects` and `Stride.Waits.collects_of_calls` say that a wait reports what is
  ready.
-/

namespace EventLoop

open Reactor (Direction Note)

/-- The event that a state of the descriptor makes. -/
def Registration.event {η : Type} (r : Registration η) (state : Readiness) : Event :=
  Report.event ⟨r.token, state.masked r.active⟩

/-- What the kernel reports about an entry is what the state of the descriptor makes. -/
lemma Reactor.Agreed.eventOf_eq {ι : Type} {r : Reactor ι} (h : r.Agreed) {w : Watch}
    (hw : w ∈ r.kernel.watches) {current : Registration CallbackId}
    (hc : r.registry.get? w.fd = some current) :
    r.kernel.eventOf w = current.event (r.kernel.stateOf w.fd) := by
  obtain ⟨found, hfound, htoken, hinterest, hf, -⟩ := h.exists_entry hw
  obtain rfl := Option.some.inj (hc.symm.trans hfound)
  rw [Kernel.eventOf, Registration.event, Kernel.watchReadiness, Kernel.stateOf, hf, htoken,
    hinterest, Option.elim_some]

/-- Whether an event tells about a direction. -/
def Event.ready (e : Event) : Direction → Bool
  | .reading => e.readable
  | .writing => e.writable

/-- Whether a state of the descriptor concerns the handler for a direction. -/
def Readiness.concerns (state : Readiness) : Direction → Bool
  | .reading => state.readable
  | .writing => state.writable

namespace Registration

variable {η : Type} {r : Registration η} {d : Direction} {handler : η}

lemma mem_due {state : Readiness} (h : r.callee d = some handler)
    (hstate : state.concerns d = true) : (handler, d) ∈ r.due state := by
  cases d with
  | reading =>
      refine List.mem_append_left _ ?_
      rw [callee] at h
      rw [Readiness.concerns, Readiness.readable] at hstate
      rw [if_pos hstate, h]
      exact List.mem_singleton.mpr rfl
  | writing =>
      refine List.mem_append_right _ ?_
      rw [callee] at h
      rw [Readiness.concerns, Readiness.writable] at hstate
      rw [if_pos hstate, h]
      exact List.mem_singleton.mpr rfl

/-- The handler that is called for a direction is told about whatever concerns it. -/
lemma event_ready (h : r.callee d = some handler) (state : Readiness) :
    (r.event state).ready d = state.concerns d := by
  cases d with
  | reading =>
      rw [callee] at h
      simp [event, Report.event, Event.ready, Readiness.concerns, Readiness.readable,
        Readiness.masked, active, h]
  | writing =>
      obtain ⟨harmed, hwrite⟩ := armedWrite_eq_some.mp h
      simp [event, Report.event, Event.ready, Readiness.concerns, Readiness.writable,
        Readiness.masked, active, harmed, hwrite]

end Registration

/-- A callback is called for a direction of a descriptor at present, under a token. -/
def Reactor.Calls {ι : Type} (r : Reactor ι) (fd : Fd) (d : Direction) (t : Token)
    (callback : CallbackId) : Prop :=
  ∃ current, r.registry.get? fd = some current ∧ current.token = t ∧
    current.callee d = some callback

/-- The callback that is called for a direction of a descriptor at present. -/
def Reactor.calleeOf {ι : Type} (r : Reactor ι) (fd : Fd) (d : Direction) : Option CallbackId :=
  (r.registry.get? fd).bind (·.callee d)

namespace Loop

variable {ι : Type}

/-! ### What the driver has not come to -/

/-- A registration keeps its token. -/
lemma Stride.token_eq {s : Stride ι} (hs : s.before.reactor.registry.Sound) {fd : Fd}
    {current next : Registration CallbackId}
    (hc : s.before.reactor.registry.get? fd = some current)
    (hn : s.after.reactor.registry.get? fd = some next) : next.token = current.token := by
  rcases Nat.lt_or_ge next.token s.before.reactor.registry.nextToken with hdrawn | hfresh
  · obtain ⟨old, hold, htoken⟩ := (s.change.follows hs).stays fd next hn hdrawn
    obtain rfl := Option.some.inj (hc.symm.trans hold)
    exact htoken.symm
  · -- only an addition comes with a fresh token, and it goes on with the registration there is
    obtain ⟨d, callback, i, hm, -⟩ := s.adds_of_fresh hs hn hfresh
    obtain ⟨b, -, hadded⟩ := Stride.added hm
    generalize s.after.reactor = r at hadded hn
    cases hadded with
    | refused kept =>
        have hsame : s.before.reactor.registry.get? fd = some next := by
          rcases kept with rfl | rfl <;> simpa using hn
        rw [Option.some.inj (hsame.symm.trans hc)]
    | added _ _ _ =>
        simp only [Registry.get?_insert, if_true, Option.some.injEq] at hn
        rw [← hn, Registry.currentOrFresh_of_some hc]
        rfl

/-- A move of the driver leaves alone the registration that an event still to come is about. -/
lemma Advance.undisturbed {l l' : Loop ι} {notes : List (Note ι)} (h : Advance l l' notes)
    (hl : l.reactor.registry.Sound) (hnodup : (l.stage.events.map Event.token).Nodup) {e : Event}
    (he : e ∈ l'.stage.events) {fd : Fd} {current : Registration CallbackId}
    (hc : l.reactor.registry.get? fd = some current) (ht : current.token = e.token) :
    l'.reactor.registry.get? fd = l.reactor.registry.get? fd := by
  cases h with
  | @writes first rest x registration callback stage _ found armed handler =>
      obtain ⟨hx, htoken⟩ := hl.resolve_eq_found.mp found
      have hne : x ≠ fd := by
        rintro rfl
        obtain rfl := Option.some.inj (hx.symm.trans hc)
        rw [stage, Stage.events, List.map_cons, List.nodup_cons] at hnodup
        refine hnodup.1 (List.mem_map.mpr ⟨e, he, ?_⟩)
        rw [← ht, htoken]
      rw [(l.reactor.taken x armed handler).registry, Registry.get?_modify, if_neg hne]
  | @delivers q _ _ _ _ _ _ _ => rw [(l.reactor.sameRegistrations_takeDelivery q).registry]
  | _ => rfl

/-- Until the next wait, whatever the driver keeps as long as it has not done with an event stays,
where the other moves keep it, too. -/
lemma stays_while_pending {l : Loop ι} (hl : l.reactor.registry.Sound)
    (hnodup : (l.stage.events.map Event.token).Nodup) {e : Event} {P : Reactor ι → Prop}
    (base : P l.reactor)
    (driver : ∀ {l l' : Loop ι} {notes : List (Note ι)}, Advance l l' notes →
      l.reactor.registry.Sound → (l.stage.events.map Event.token).Nodup → e ∈ l'.stage.events →
      P l.reactor → P l'.reactor)
    {Q : Stride ι → Prop}
    (others : ∀ s : Stride ι, Q s → s.before.reactor.registry.Sound → s.move ≠ .advance →
      P s.before.reactor → P s.after.reactor)
    {ms : List (Move ι)} (same : ∀ s ∈ l.strides ms, ¬s.Waits) (kept : ∀ s ∈ l.strides ms, Q s)
    (he : e ∈ (l.after ms).stage.events) : P (l.after ms).reactor := by
  have hall := after_of_stride (l := l) (Q := fun s => ¬s.Waits ∧ Q s)
    (P := fun l' => l'.reactor.registry.Sound ∧ (l'.stage.events.map Event.token).Nodup ∧
      (e ∈ l'.stage.events → P l'.reactor))
    ?_ ⟨hl, hnodup, fun _ => base⟩ fun s hs => ⟨same s hs, kept s hs⟩
  · exact hall.2.2 he
  · rintro s ⟨hwaits, hkept⟩ ⟨hsound, hdistinct, ih⟩
    have hsuffix := Stride.events_suffix hwaits
    refine ⟨(s.change.follows hsound).sound, (hsuffix.map Event.token).sublist.nodup hdistinct,
      fun hmem => ?_⟩
    have hbefore := ih (hsuffix.subset hmem)
    by_cases hm : s.move = .advance
    · exact driver (s.advance hm).2 hsound hdistinct hmem hbefore
    · exact others s hkept hsound hm hbefore

/-- Nobody but the driver changes the registration of a descriptor. -/
def LeftAlone (fd : Fd) (history : List (Stride ι)) : Prop :=
  ∀ s ∈ history, s.move ≠ .advance →
    s.after.reactor.registry.get? fd = s.before.reactor.registry.get? fd

/-- Until the next wait, the registrations that the events still to come are about stay as they
are, where nobody but the driver changes them. -/
theorem undisturbed_after {l : Loop ι} (hl : l.reactor.registry.Sound)
    (hnodup : (l.stage.events.map Event.token).Nodup) {fd : Fd}
    {current : Registration CallbackId} (hc : l.reactor.registry.get? fd = some current)
    {ms : List (Move ι)} (same : ∀ s ∈ l.strides ms, ¬s.Waits)
    (alone : LeftAlone fd (l.strides ms)) {e : Event} (he : e ∈ (l.after ms).stage.events)
    (ht : current.token = e.token) : (l.after ms).reactor.registry.get? fd = some current := by
  refine stays_while_pending (P := fun r => r.registry.get? fd = some current) hl hnodup hc ?_ ?_
    same alone he
  · intro l l' notes h hsound hdistinct hmem hbefore
    exact (h.undisturbed hsound hdistinct hmem hbefore ht).trans hbefore
  · intro s hkept _ hm hbefore
    exact (hkept hm).trans hbefore

/-- Nobody but the driver changes what is called for a direction of a descriptor. -/
def LeftAloneIn (fd : Fd) (d : Direction) (history : List (Stride ι)) : Prop :=
  ∀ s ∈ history, s.move ≠ .advance →
    s.after.reactor.calleeOf fd d = s.before.reactor.calleeOf fd d

/-- What is called for a direction keeps its token, too. -/
lemma Stride.keeps_calls {s : Stride ι} (hs : s.before.reactor.registry.Sound) {fd : Fd}
    {d : Direction} {t : Token} {callback : CallbackId}
    (h : s.before.reactor.Calls fd d t callback)
    (hkept : s.after.reactor.calleeOf fd d = s.before.reactor.calleeOf fd d) :
    s.after.reactor.Calls fd d t callback := by
  obtain ⟨current, hc, rfl, hcallee⟩ := h
  rw [Reactor.calleeOf, Reactor.calleeOf, hc, Option.bind_some, hcallee] at hkept
  obtain ⟨next, hn, hnext⟩ := Option.bind_eq_some_iff.mp hkept
  exact ⟨next, hn, Stride.token_eq hs hc hn, hnext⟩

/-- Until the next wait, what is called for a direction of an event still to come stays, where
nobody but the driver changes it. -/
theorem calls_after {l : Loop ι} (hl : l.reactor.registry.Sound)
    (hnodup : (l.stage.events.map Event.token).Nodup) {fd : Fd} {d : Direction}
    {callback : CallbackId} {e : Event} (hc : l.reactor.Calls fd d e.token callback)
    {ms : List (Move ι)} (same : ∀ s ∈ l.strides ms, ¬s.Waits)
    (alone : LeftAloneIn fd d (l.strides ms)) (he : e ∈ (l.after ms).stage.events) :
    (l.after ms).reactor.Calls fd d e.token callback := by
  refine stays_while_pending (P := fun r => r.Calls fd d e.token callback) hl hnodup hc ?_ ?_
    same alone he
  · rintro l l' notes h hsound hdistinct hmem ⟨current, hentry, htoken, hcallee⟩
    have hkept := h.undisturbed hsound hdistinct hmem hentry htoken
    exact ⟨current, hkept.trans hentry, htoken, hcallee⟩
  · intro s hkept hsound hm hbefore
    exact s.keeps_calls hsound hbefore (hkept hm)

/-! ### The next wait -/

/-- Where no run is in progress, the driver does not move. -/
lemma Advance.stage_ne_outside {l l' : Loop ι} {notes : List (Note ι)} (h : Advance l l' notes) :
    l.stage ≠ .outside := by
  intro hs
  cases h with
  | mismatches stage _ => rcases stage with stage | stage <;> simp [hs] at stage
  | _ => simp_all

/-- Where no run is in progress, the driver does nothing before it waits. -/
lemma not_advance_of_outside {l : Loop ι} (hl : l.stage = .outside) {ms : List (Move ι)}
    (same : ∀ s ∈ l.strides ms, ¬s.Waits) : ∀ s ∈ l.strides ms, s.move ≠ .advance := by
  have hall := history_rec (l := l) (P := fun past l' => (∀ s ∈ past, ¬s.Waits) →
    (l'.stage = .outside ∨ l'.stage = .head) ∧ ∀ s ∈ past, s.move ≠ .advance)
    (fun _ => ⟨.inl hl, by simp⟩) ?_ ms same
  · exact hall.2
  · intro past s ih hwaits
    obtain ⟨hstage, hpast⟩ := ih fun t ht => hwaits t (by simp [ht])
    have hm : s.move ≠ .advance := by
      intro hm
      rcases hstage with hout | hhead
      · exact (s.advance hm).2.stage_ne_outside hout
      · exact hwaits s (by simp) ⟨hm, hhead⟩
    refine ⟨?_, fun t ht => ?_⟩
    · rcases (s.aside hm).stage with hsame | ⟨-, hout⟩ | ⟨-, -, hhead⟩
      · rwa [hsame]
      · exact .inl hout
      · exact .inr hhead
    · rcases List.mem_append.mp ht with ht | ht
      · exact hpast t ht
      · obtain rfl := List.mem_singleton.mp ht
        exact hm

/-- Where no run is in progress, a registration that is left alone stays up to the next wait. -/
lemma get?_after_of_outside {l : Loop ι} (hl : l.stage = .outside) {ms : List (Move ι)}
    (same : ∀ s ∈ l.strides ms, ¬s.Waits) {fd : Fd} (alone : LeftAlone fd (l.strides ms)) :
    (l.after ms).reactor.registry.get? fd = l.reactor.registry.get? fd :=
  after_of_stride (P := fun l' => l'.reactor.registry.get? fd = l.reactor.registry.get? fd)
    (Q := fun s => s.after.reactor.registry.get? fd = s.before.reactor.registry.get? fd)
    (fun _ hs ih => hs.trans ih) rfl fun s hs => alone s hs (not_advance_of_outside hl same s hs)

/-- Where no run is in progress, what is called for a direction stays up to the next wait, if it is
left alone. -/
lemma calls_after_of_outside {l : Loop ι} (hl : l.stage = .outside)
    (hsound : l.reactor.registry.Sound) {ms : List (Move ι)}
    (same : ∀ s ∈ l.strides ms, ¬s.Waits) {fd : Fd} {d : Direction}
    (alone : LeftAloneIn fd d (l.strides ms)) {t : Token} {callback : CallbackId}
    (h : l.reactor.Calls fd d t callback) : (l.after ms).reactor.Calls fd d t callback := by
  have hall := after_of_stride (l := l)
    (P := fun l' => l'.reactor.registry.Sound ∧ l'.reactor.Calls fd d t callback)
    (Q := fun s => s.after.reactor.calleeOf fd d = s.before.reactor.calleeOf fd d)
    (fun s hs ih => ⟨(s.change.follows ih.1).sound, s.keeps_calls ih.1 ih.2 hs⟩) ⟨hsound, h⟩
    fun s hs => alone s hs (not_advance_of_outside hl same s hs)
  exact hall.2

/-- After a wait that brings events, no callback runs yet. -/
lemma Stride.Collects.idle {s : Stride ι} {events : List Event} (h : s.Collects events) :
    s.after.active = none := by
  obtain ⟨⟨hm, hstage⟩, hafter⟩ := h
  obtain ⟨hidle, hadvance⟩ := s.advance hm
  rcases hadvance.of_head hstage with ⟨-, hout⟩ | ⟨k, batch, -, -, ⟨-, heq⟩ | ⟨-, heq⟩⟩
  · simp [hout] at hafter
  · rw [heq, hidle]
  · rw [heq, hidle]

/-- What an event of a wait is about: a registration that asks for something that its descriptor is
ready for. -/
lemma Stride.Collects.exists_entry {s : Stride ι} {events : List Event} (h : s.Collects events)
    (hagreed : s.before.reactor.Agreed) (hattentive : s.before.reactor.kernel.Attentive)
    (htokens : s.before.reactor.registry.nextToken ≤ .wakeup) {e : Event} (he : e ∈ events) :
    ∃ fd current, s.before.reactor.registry.get? fd = some current ∧
      current.active.isEmpty = false ∧
      e = current.event (s.before.reactor.kernel.stateOf fd) ∧
      ((s.before.reactor.kernel.stateOf fd).masked current.active).any = true := by
  obtain ⟨hevents, -, -⟩ := h.batch hagreed hattentive htokens
  rw [hevents] at he
  obtain ⟨w, hw, rfl⟩ := List.mem_map.mp he
  obtain ⟨hmem, hready⟩ := hattentive.ready_of_reported hw
  obtain ⟨current, hc, hactive⟩ := hagreed.inStep.nothingElse w hmem
  refine ⟨w.fd, current, hc, hactive, hagreed.eventOf_eq hmem hc, ?_⟩
  obtain ⟨found, hfound, -, hinterest, hf, -⟩ := hagreed.exists_entry hmem
  obtain rfl := Option.some.inj (hc.symm.trans hfound)
  rwa [Kernel.stateOf, hf, Option.elim_some, hinterest]

/-- **A wait reports what is ready**, where there is room for all of it. -/
theorem Stride.Waits.collects {s : Stride ι} (hs : s.Waits)
    (running : s.before.reactor.stopped = false) (hagreed : s.before.reactor.Agreed)
    (hattentive : s.before.reactor.kernel.Attentive)
    (htokens : s.before.reactor.registry.nextToken ≤ .wakeup)
    (hmost : s.before.reactor.capacity ≤ Kernel.mostReports)
    (hroom : s.before.reactor.kernel.readyEntries ≤ s.before.reactor.capacity) {fd : Fd}
    {current : Registration CallbackId}
    (hc : s.before.reactor.registry.get? fd = some current)
    (hactive : current.active.isEmpty = false)
    (hready : ((s.before.reactor.kernel.stateOf fd).masked current.active).any = true) :
    ∃ events, s.Collects events ∧
      current.event (s.before.reactor.kernel.stateOf fd) ∈ events := by
  obtain ⟨f, hf, hwatches⟩ := hagreed.inStep.watched fd current hc hactive
  have hmem : (⟨f, fd, current.active, current.token⟩ : Watch) ∈
      s.before.reactor.kernel.watches := by
    refine List.mem_of_mem_filter (p := (·.fd == fd)) ?_
    rw [hwatches]
    exact List.mem_singleton.mpr rfl
  have hevent := hagreed.eventOf_eq hmem hc
  rw [Kernel.stateOf, hf, Option.elim_some] at hready
  have hreported := hattentive.mem_reported hroom hmem hready
  -- there is room for the entry, so the wait is for something
  have hpos : s.before.reactor.capacity ≠ 0 := by
    intro hzero
    have hcount : 0 < s.before.reactor.kernel.watches.countP
        fun w => (s.before.reactor.kernel.watchReadiness w).any :=
      List.countP_pos_iff.mpr ⟨_, hmem, hready⟩
    rw [Kernel.readyEntries, hzero] at hroom
    omega
  obtain ⟨k, hpoll⟩ := Kernel.exists_poll hagreed.unbroken hpos hmost
  have htoken : ∀ w ∈ s.before.reactor.kernel.watches, w.token ≠ .wakeup := fun w hw =>
    Nat.ne_of_lt (Nat.lt_of_lt_of_le (hagreed.token_lt hw) htokens)
  have hevents := Kernel.poll_events htoken hpoll
  rcases (s.advance hs.1).2.of_head hs.2 with ⟨hwhy, -⟩ | ⟨k', batch, -, hpoll', hcases⟩
  · rcases hwhy with hstopped | ⟨error, herror⟩
    · rw [running] at hstopped
      cases hstopped
    · rw [hpoll] at herror
      cases herror
  · rw [hpoll, Except.ok.injEq, Prod.mk.injEq] at hpoll'
    obtain ⟨-, rfl⟩ := hpoll'
    have hcollects : s.Collects
        (s.before.reactor.kernel.reported s.before.reactor.capacity |>.map
          s.before.reactor.kernel.eventOf) := by
      rw [← hevents]
      rcases hcases with ⟨-, hafter⟩ | ⟨-, hafter⟩
      · exact ⟨hs, .inr ⟨_, by rw [hafter]⟩⟩
      · exact ⟨hs, .inl (by rw [hafter])⟩
    exact ⟨_, hcollects, List.mem_map.mpr ⟨_, hreported, hevent⟩⟩

/-- A wait reports a direction that its descriptor is ready for and that has somebody to call, where
there is room for everything. -/
theorem Stride.Waits.collects_of_calls {s : Stride ι} (hs : s.Waits)
    (running : s.before.reactor.stopped = false) (hagreed : s.before.reactor.Agreed)
    (hattentive : s.before.reactor.kernel.Attentive)
    (htokens : s.before.reactor.registry.nextToken ≤ .wakeup)
    (hmost : s.before.reactor.capacity ≤ Kernel.mostReports)
    (hroom : s.before.reactor.kernel.readyEntries ≤ s.before.reactor.capacity) {fd : Fd}
    {d : Direction} {t : Token} {callback : CallbackId}
    (hc : s.before.reactor.Calls fd d t callback)
    (hready : (s.before.reactor.kernel.stateOf fd).concerns d = true) :
    ∃ events, s.Collects events ∧ ∃ e ∈ events, e.token = t ∧ e.ready d = true := by
  obtain ⟨current, hentry, rfl, hcallee⟩ := hc
  have hdue : current.due (s.before.reactor.kernel.stateOf fd) ≠ [] :=
    List.ne_nil_of_mem (Registration.mem_due hcallee hready)
  have hactive : current.active.isEmpty = false := by
    by_contra hempty
    exact hdue (Registration.due_eq_nil (by simpa using hempty) _)
  obtain ⟨events, hcollects, hmem⟩ := hs.collects running hagreed hattentive htokens hmost hroom
    hentry hactive (Registration.any_masked_of_due hdue)
  exact ⟨events, hcollects, _, hmem, rfl, (Registration.event_ready hcallee _).trans hready⟩

end Loop

end EventLoop
