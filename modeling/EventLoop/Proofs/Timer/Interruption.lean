import EventLoop.Proofs.Timer.Order

/-!
What a stop and a panic leave of the timers: everything that nobody fires or withdraws.

* `Stride.course` says that a stopped scheduler begins nothing new, and `halted_after` that it
  remains so.
* `exists_invokes_of_firing` finds the moment at which a run called what it is firing.
* `after_enter_of_unwind` and `resumes_of_unwind` compare a callback that panics with the same
  callback when it returns: once a new run has begun, there is no difference.
* `interruptions_keep_other_timers` is the main statement here.
-/

namespace EventLoop

namespace Timers

variable {α : Type}

@[simp] lemma stopped_insert (t : Timers α) (deadline : Instant) (payload : α) :
    (t.insert deadline payload).1.stopped = t.stopped := rfl

@[simp] lemma stopped_remove (t : Timers α) (id : TimerId) :
    (t.remove id).1.stopped = t.stopped := by
  rw [remove]
  split <;> rfl

@[simp] lemma stopped_popDue (t : Timers α) (now : Instant) :
    (t.popDue now).1.stopped = t.stopped := by
  rw [popDue]
  split
  · rfl
  · split <;> rfl

/-- A pending timer can be withdrawn, and what it carried is handed back. -/
lemma remove_of_mem {t : Timers α} (ht : t.Sound) {e : TimerKey × α} (he : e ∈ t.entries) :
    (t.remove e.1.id).2 = some e.2 := by
  rcases remove_outcome ht e.1.id with ⟨hnone, -⟩ | ⟨key, payload, hid, hsome, hlost⟩
  · exact absurd (mem_ids.mpr ⟨e, he, rfl⟩) hnone
  · rw [hsome, ← ht.eq_of_id hlost.mem he hid]

end Timers

namespace Scheduler

variable {α : Type}

/-! ### The runs in progress -/

lemma finish_eq_some {s r : Scheduler α} :
    s.finish = some r ↔
      ∃ id payload outer, s.runs = .firing id payload :: outer ∧
        r = { s with runs := .waiting :: outer } := by
  rw [finish]
  split
  · next id payload outer hruns =>
      simp only [hruns, Option.some.injEq, List.cons.injEq, SchedulerRun.firing.injEq]
      constructor
      · rintro rfl
        exact ⟨id, payload, outer, ⟨⟨rfl, rfl⟩, rfl⟩, rfl⟩
      · rintro ⟨_, _, _, ⟨-, rfl⟩, rfl⟩
        rfl
  · next hruns =>
      constructor
      · intro hnone
        cases hnone
      · rintro ⟨id, payload, outer, hfiring, -⟩
        exact absurd hfiring (hruns id payload outer)

lemma unwind_eq_some {s r : Scheduler α} :
    s.unwind = some r ↔
      ∃ id payload outer, s.runs = .firing id payload :: outer ∧ r = { s with runs := outer } := by
  rw [unwind]
  split
  · next id payload outer hruns =>
      simp only [hruns, Option.some.injEq, List.cons.injEq, SchedulerRun.firing.injEq]
      constructor
      · rintro rfl
        exact ⟨id, payload, outer, ⟨⟨rfl, rfl⟩, rfl⟩, rfl⟩
      · rintro ⟨_, _, _, ⟨-, rfl⟩, rfl⟩
        rfl
  · next hruns =>
      constructor
      · intro hnone
        cases hnone
      · rintro ⟨id, payload, outer, hfiring, -⟩
        exact absurd hfiring (hruns id payload outer)

/-- What a move leaves of a stop, and where what the runs are firing comes from. -/
structure Stride.Course (s : Stride α) : Prop where
  stopped : s.before.isStopped = true → s.after.isStopped = true
  firing : ∀ id payload, .firing id payload ∈ s.after.runs →
    .firing id payload ∈ s.before.runs ∨ s.Invokes id payload

lemma Stride.course_of_runs {s : Stride α}
    (stopped : s.before.isStopped = true → s.after.isStopped = true)
    (runs : ∀ r ∈ s.after.runs, r ∈ s.before.runs ∨ r = .waiting) : s.Course :=
  ⟨stopped, fun _ _ h => .inl ((runs _ h).resolve_right nofun)⟩

lemma Stride.course (s : Stride α) : s.Course := by
  have hmade := s.made
  cases hm : s.move with
  | schedule delay lag payload =>
      rcases Stride.added_or_passed hm with ⟨deadline, -, hafter, -⟩ | ⟨-, hafter, -⟩ <;>
        exact course_of_runs (fun h => hafter ▸ h) fun _ h => .inl (by rwa [hafter] at h)
  | scheduleAt deadline payload =>
      simp only [hm, step, Option.some.injEq, Prod.mk.injEq] at hmade
      exact course_of_runs (fun h => hmade.1 ▸ h) fun _ h => .inl (by rwa [← hmade.1] at h)
  | cancel id =>
      have hafter : s.after = (s.before.cancel id).1 := by
        simp only [hm, step] at hmade
        split at hmade <;> simp_all
      refine course_of_runs (fun h => ?_) fun _ h => .inl (by rwa [hafter] at h)
      rw [hafter]
      exact (Timers.stopped_remove _ _).trans h
  | stop =>
      simp only [hm, step, Option.some.injEq, Prod.mk.injEq] at hmade
      exact course_of_runs (fun _ => hmade.1 ▸ rfl) fun _ h => .inl (by rwa [← hmade.1] at h)
  | enter =>
      simp only [hm, step, Option.some.injEq, Prod.mk.injEq] at hmade
      refine course_of_runs (fun h => hmade.1 ▸ h) fun r h => ?_
      rw [← hmade.1] at h
      exact (List.mem_cons.mp h).symm
  | advance =>
      simp only [hm, step] at hmade
      cases hturn : s.before.turn with
      | leaves next pending =>
          obtain ⟨outer, hruns, -, rfl, -⟩ := turn_leaves hturn
          simp only [hturn, Option.some.injEq, Prod.mk.injEq] at hmade
          refine course_of_runs (fun h => hmade.1 ▸ h) fun r h => .inl ?_
          rw [← hmade.1] at h
          exact hruns ▸ List.mem_cons_of_mem _ h
      | fires next id payload =>
          obtain ⟨outer, hruns, -, -, rfl⟩ := turn_fires hturn
          simp only [hturn, Option.some.injEq, Prod.mk.injEq] at hmade
          refine ⟨fun h => hmade.1 ▸ (Timers.stopped_popDue _ _).trans h, fun i p h => ?_⟩
          rw [← hmade.1] at h
          rcases List.mem_cons.mp h with heq | h
          · cases heq
            exact .inr ⟨hm, outer, hruns, hmade.1 ▸ rfl⟩
          · exact .inl (hruns ▸ List.mem_cons_of_mem _ h)
      | waits => simp [hturn] at hmade
      | busy => simp [hturn] at hmade
  | finish =>
      simp only [hm, step, Option.map_eq_some_iff, Prod.mk.injEq] at hmade
      obtain ⟨r, hr, rfl, -⟩ := hmade
      obtain ⟨id, payload, outer, hruns, hafter⟩ := finish_eq_some.mp hr
      refine course_of_runs (fun h => hafter ▸ h) fun r h => ?_
      rw [hafter] at h
      rcases List.mem_cons.mp h with rfl | h
      · exact .inr rfl
      · exact .inl (hruns ▸ List.mem_cons_of_mem _ h)
  | unwind =>
      simp only [hm, step, Option.map_eq_some_iff, Prod.mk.injEq] at hmade
      obtain ⟨r, hr, rfl, -⟩ := hmade
      obtain ⟨id, payload, outer, hruns, hafter⟩ := unwind_eq_some.mp hr
      refine course_of_runs (fun h => hafter ▸ h) fun r h => .inl ?_
      rw [hafter] at h
      exact hruns ▸ List.mem_cons_of_mem _ h
  | pass delay =>
      simp only [hm, step, Option.some.injEq, Prod.mk.injEq] at hmade
      exact course_of_runs (fun h => hmade.1 ▸ h) fun _ h => .inl (by rwa [← hmade.1] at h)
  | yieldRuns count =>
      simp only [hm, step, Option.some.injEq, Prod.mk.injEq] at hmade
      refine course_of_runs (fun h => hmade.1 ▸ h) fun r h => .inl ?_
      rw [← hmade.1] at h
      exact (runs_yieldRuns_perm _ _).mem_iff.mp h

/-! ### A stop -/

/-- A stopped scheduler fires nothing. -/
lemma Stride.fires_nothing {s : Stride α} (hs : s.before.timers.Sound)
    (hstopped : s.before.isStopped = true) : s.notes.filterMap fired? = [] := by
  cases Stride.effect hs with
  | schedules _ _ notes => rw [notes]; rfl
  | cancels _ _ notes => rw [notes]; rfl
  | fires running _ _ _ _ _ => simp [hstopped] at running
  | keeps _ _ silent => exact (filterMap_of_silent silent).2.2

/-- The scheduler is stopped, and has been since the history began. -/
structure Halted (past : List (Stride α)) (s : Scheduler α) : Prop where
  sound : s.timers.Sound
  stopped : s.isStopped = true
  fired : fired past = []
  calm : ∀ t ∈ past, ∀ id payload, ¬Stride.Invokes t id payload

lemma Halted.stride {past : List (Stride α)} {t : Stride α} (h : Halted past t.before) :
    Halted (past ++ [t]) t.after := by
  have hnotes := Stride.fires_nothing h.sound h.stopped
  refine ⟨(Stride.follows h.sound).sound, t.course.stopped h.stopped, ?_, ?_⟩
  · rw [fired_concat, h.fired, hnotes]
    rfl
  · intro t' ht' id payload hinvokes
    rcases List.mem_append.mp ht' with hpast | hnow
    · exact h.calm t' hpast id payload hinvokes
    · obtain rfl := List.mem_singleton.mp hnow
      have hmem := hinvokes.mem_fired h.sound
      rw [hnotes] at hmem
      cases hmem

/-- Whatever is done with a stopped scheduler, nothing is fired any more. -/
lemma halted_after {s : Scheduler α} (hs : s.timers.Sound) (hstopped : s.isStopped = true)
    (ms : List (Move α)) : Halted (s.strides ms) (s.after ms) :=
  Machine.history_rec ⟨hs, hstopped, rfl, nofun⟩ (fun _ _ h => h.stride) ms

lemma Stride.after_of_stop {s : Stride α} (hm : s.move = .stop) : s.after = s.before.stop := by
  have hmade := s.made
  simp only [hm, step, Option.some.injEq, Prod.mk.injEq] at hmade
  exact hmade.1.symm

/-- A run of a stopped scheduler ends at its next turn. -/
lemma turn_of_stopped {s : Scheduler α} {outer : List (SchedulerRun α)}
    (hruns : s.runs = .waiting :: outer) (hstopped : s.isStopped = true) :
    s.turn = .leaves { s with runs := outer } s.pending := by
  simp [turn, hruns, hstopped]

/-! ### A panic -/

/-- What a run is firing was called by a stride of the history. -/
lemma exists_invokes_of_firing (clock : Instant) (ms : List (Move α)) {id : TimerId} {payload : α}
    (h : .firing id payload ∈ ((start clock).after ms).runs) :
    ∃ t ∈ (start clock).strides ms, t.Invokes id payload := by
  have hall : ∀ id payload, .firing id payload ∈ ((start clock).after ms).runs →
      ∃ t ∈ (start clock).strides ms, Stride.Invokes t id payload := by
    refine Machine.history_rec (s := start clock) (P := fun past (s : Scheduler α) =>
      ∀ id payload, .firing id payload ∈ s.runs → ∃ t ∈ past, Stride.Invokes t id payload)
      (fun _ _ h => absurd h List.not_mem_nil) ?_ ms
    intro past t hpast id payload hmem
    rcases Stride.course t |>.firing id payload hmem with hbefore | hinvokes
    · obtain ⟨t', ht', hcalled⟩ := hpast id payload hbefore
      exact ⟨t', List.mem_append_left _ ht', hcalled⟩
    · exact ⟨t, by simp, hinvokes⟩
  exact hall id payload h

/-- A call is noted as such, and nothing else. -/
lemma Stride.Invokes.notes_eq {s : Stride α} {id : TimerId} {payload : α}
    (h : s.Invokes id payload) (hs : s.before.timers.Sound) : s.notes = [.firing id] := by
  have hmem := h.mem_fired hs
  cases Stride.effect hs with
  | schedules _ _ notes => simp [notes, fired?] at hmem
  | cancels _ _ notes => simp [notes, fired?] at hmem
  | fires _ _ _ _ _ notes =>
      obtain rfl := by simpa [notes, fired?] using hmem
      exact notes
  | keeps _ calm _ => exact absurd h (calm id payload)

lemma Stride.Invokes.not_schedules {s : Stride α} {id : TimerId} {payload : α}
    (h : s.Invokes id payload) (i : TimerId) (d : Instant) (p : α) : ¬s.Schedules i d p := by
  rintro ⟨-, hm | ⟨delay, lag, hm, -⟩⟩ <;> simp [h.1] at hm

/-- The timers that are pending some time after a callback was called: those that were pending or
are added meanwhile, without its own one and those that are fired or withdrawn meanwhile. -/
lemma Stride.Invokes.mem_entries_after {s : Stride α} {id : TimerId} {payload : α}
    (h : s.Invokes id payload) (hs : s.before.timers.Sound) (ms : List (Move α))
    (e : TimerKey × α) :
    e ∈ (s.after.after ms).timers.entries ↔
      (e ∈ s.before.timers.entries ∨
        ∃ t ∈ s.after.strides ms, t.Schedules e.1.id e.1.deadline e.2) ∧
      e.1.id ≠ id ∧ e.1.id ∉ cancelled (s.after.strides ms) ∧
      e.1.id ∉ fired (s.after.strides ms) := by
  have hentries := Scheduler.mem_entries_after hs (s.move :: ms) e
  rw [Scheduler.after, strides, Machine.after_cons_stride, Machine.strides_cons_stride] at hentries
  rw [hentries]
  simp [cancelled, fired, Machine.noted_cons, h.notes_eq hs, cancelled?, fired?, h.not_schedules]
  tauto

/-! ### The run after a panic -/

/-- What the users of a scheduler do, and time: everything but what the runs do. -/
def Move.ofUsers : Move α → Bool
  | .schedule _ _ _ | .scheduleAt _ _ | .cancel _ | .stop | .pass _ => true
  | .enter | .advance | .finish | .unwind | .yieldRuns _ => false

/-- What users do is always possible, and does not depend on the runs in progress. -/
lemma step_of_ofUsers {m : Move α} (hm : m.ofUsers = true) (s : Scheduler α) :
    ∃ timers clock notes, ∀ runs,
      step { s with runs := runs } m = some (⟨timers, clock, runs⟩, notes) := by
  cases m with
  | schedule delay lag payload =>
      cases hdeadline : Instant.deadline? s.clock (s.pass lag).clock delay with
      | some deadline =>
          refine ⟨(s.timers.insert deadline payload).1, s.clock + lag, [.scheduled s.timers.nextId],
            fun runs => ?_⟩
          rw [step, schedule_of_deadline (s := { s with runs := runs }) hdeadline]
          rfl
      | none =>
          refine ⟨s.timers, s.clock + lag, [], fun runs => ?_⟩
          rw [step, schedule_of_no_deadline (s := { s with runs := runs }) hdeadline]
          rfl
  | scheduleAt deadline payload =>
      exact ⟨(s.scheduleAt deadline payload).1.timers, s.clock, [.scheduled s.timers.nextId],
        fun _ => rfl⟩
  | cancel id =>
      cases hremove : s.timers.remove id with
      | mk timers removed =>
          cases removed <;>
            exact ⟨timers, s.clock, _, fun _ => by simp only [step, Scheduler.cancel, hremove]; rfl⟩
  | stop => exact ⟨s.timers.stop, s.clock, [], fun _ => rfl⟩
  | pass delay => exact ⟨s.timers, s.clock + delay, [], fun _ => rfl⟩
  | enter => cases hm
  | advance => cases hm
  | finish => cases hm
  | unwind => cases hm
  | yieldRuns count => cases hm

lemma after_of_ofUsers {ms : List (Move α)} (hms : ∀ m ∈ ms, m.ofUsers = true)
    (s : Scheduler α) :
    ∃ timers clock, ∀ runs, after { s with runs := runs } ms = ⟨timers, clock, runs⟩ := by
  induction ms generalizing s with
  | nil => exact ⟨s.timers, s.clock, fun _ => rfl⟩
  | cons m ms ih =>
      obtain ⟨hm, hms⟩ := List.forall_mem_cons.mp hms
      obtain ⟨timers, clock, notes, hstep⟩ := step_of_ofUsers hm s
      obtain ⟨timers', clock', hafter⟩ := ih hms ⟨timers, clock, s.runs⟩
      refine ⟨timers', clock', fun runs => ?_⟩
      rw [after, Machine.after, hstep runs]
      exact hafter runs

/-- Only the turn of a run fires something. -/
lemma Stride.fires_nothing_of_ne {s : Stride α} (hs : s.before.timers.Sound)
    (hm : s.move ≠ .advance) : s.notes.filterMap fired? = [] := by
  cases Stride.effect hs with
  | schedules _ _ notes => rw [notes]; rfl
  | cancels _ _ notes => rw [notes]; rfl
  | fires _ _ _ invokes _ _ => exact absurd invokes.1 hm
  | keeps _ _ silent => exact (filterMap_of_silent silent).2.2

/-- As long as no run takes a turn, nothing is fired. -/
lemma fired_eq_nil {s : Scheduler α} (hs : s.timers.Sound) {ms : List (Move α)}
    (hms : ∀ m ∈ ms, m ≠ .advance) : fired (s.strides ms) = [] := by
  rw [fired, Machine.noted, Machine.told, List.flatMap_eq_nil_iff]
  intro t ht
  obtain ⟨ms₁, hbefore⟩ := Machine.exists_after_eq_before ht
  have hsound : t.before.timers.Sound := hbefore ▸ (follows_after hs ms₁).sound
  exact Stride.fires_nothing_of_ne hsound (hms _ (Machine.move_mem ht))

lemma fired_append_of_ne {s : Scheduler α} (hs : s.timers.Sound) {ms : List (Move α)}
    (hms : ∀ m ∈ ms, m ≠ .advance) (rest : List (Move α)) :
    fired (s.strides (ms ++ rest)) = fired ((s.after ms).strides rest) := by
  rw [strides, Machine.strides_append, fired, Machine.noted_append]
  exact congrArg (· ++ _) (fired_eq_nil hs hms)

/-- Once a new run has begun after a panic, everything is as it would be had the callback
returned. -/
lemma after_enter_of_unwind {s returned unwound : Scheduler α}
    (hreturned : s.finish = some returned) (hunwound : s.unwind = some unwound)
    {ops : List (Move α)} (hops : ∀ m ∈ ops, m.ofUsers = true) :
    unwound.after (ops ++ [.enter]) = returned.after ops := by
  obtain ⟨id, payload, outer, hruns, rfl⟩ := finish_eq_some.mp hreturned
  obtain ⟨id', payload', outer', hruns', rfl⟩ := unwind_eq_some.mp hunwound
  cases hruns.symm.trans hruns'
  obtain ⟨timers, clock, hafter⟩ := after_of_ofUsers hops s
  calc after { s with runs := outer } (ops ++ [.enter])
      = (after { s with runs := outer } ops).after [.enter] := Machine.after_append _ _ _
    _ = after ⟨timers, clock, outer⟩ [.enter] := by rw [hafter]
    _ = after { s with runs := .waiting :: outer } ops := (hafter _).symm

/-- The new run after a panic fires what the interrupted run would have fired had the callback
returned, and comes to the same. -/
lemma resumes_of_unwind {s returned unwound : Scheduler α} (hs : s.timers.Sound)
    (hreturned : s.finish = some returned) (hunwound : s.unwind = some unwound)
    {ops : List (Move α)} (hops : ∀ m ∈ ops, m.ofUsers = true) (rest : List (Move α)) :
    fired (unwound.strides (ops ++ .enter :: rest)) = fired (returned.strides (ops ++ rest)) ∧
      unwound.after (ops ++ .enter :: rest) = returned.after (ops ++ rest) := by
  have hafter := after_enter_of_unwind hreturned hunwound hops
  have hcalm : ∀ m ∈ ops, m ≠ .advance := by
    rintro m hm rfl
    cases hops _ hm
  have hcalm' : ∀ m ∈ ops ++ [.enter], m ≠ .advance := by
    intro m hm
    rcases List.mem_append.mp hm with hm | hm
    · exact hcalm m hm
    · rw [List.mem_singleton.mp hm]
      exact nofun
  have hsound : returned.timers.Sound ∧ unwound.timers.Sound := by
    obtain ⟨_, _, _, -, rfl⟩ := finish_eq_some.mp hreturned
    obtain ⟨_, _, _, -, rfl⟩ := unwind_eq_some.mp hunwound
    exact ⟨hs, hs⟩
  constructor
  · calc fired (unwound.strides (ops ++ .enter :: rest))
        = fired (unwound.strides (ops ++ [.enter] ++ rest)) := by rw [List.append_cons]
      _ = fired ((unwound.after (ops ++ [.enter])).strides rest) :=
          fired_append_of_ne hsound.2 hcalm' rest
      _ = fired ((returned.after ops).strides rest) := by rw [hafter]
      _ = fired (returned.strides (ops ++ rest)) := (fired_append_of_ne hsound.1 hcalm rest).symm
  · calc unwound.after (ops ++ .enter :: rest)
        = unwound.after (ops ++ [.enter] ++ rest) := by rw [List.append_cons]
      _ = (unwound.after (ops ++ [.enter])).after rest := Machine.after_append _ _ _
      _ = (returned.after ops).after rest := by rw [hafter]
      _ = returned.after (ops ++ rest) := (Machine.after_append _ _ _).symm

/-- **A stop and a panic leave all other timers as they are.** Whoever stops the scheduler, and at
whatever moment: from then on nothing is called, a run ends at its next turn, and a timer is pending
exactly if it was pending at the stop or was added later, and was not withdrawn since; it has the
deadline with which it was added.

When a callback panics, its timer is the only one that left the table for it: the pending timers are
those that were pending when it was called, and those that were added since, without its own timer
and those that were withdrawn since or fired by other runs; each of them can be withdrawn. And
whatever the users do until the next run begins, this run goes on as the interrupted one would have
gone on had the callback returned: the same timers are fired in the same order, and it comes to the
same. -/
theorem interruptions_keep_other_timers (clock : Instant) (ms : List (Move α)) :
    (∀ s ∈ (start clock).strides ms, s.move = .stop →
      s.after.timers.entries = s.before.timers.entries ∧ ∀ ms',
        fired (s.after.strides ms') = [] ∧
        (∀ t ∈ s.after.strides ms', ∀ id payload, ¬t.Invokes id payload) ∧
        (∀ outer, (s.after.after ms').runs = .waiting :: outer →
          (s.after.after ms').turn =
            .leaves { s.after.after ms' with runs := outer } (s.after.after ms').pending) ∧
        ∀ e, e ∈ (s.after.after ms').timers.entries ↔
          (e ∈ s.before.timers.entries ∨
            ∃ t ∈ s.after.strides ms', t.Schedules e.1.id e.1.deadline e.2) ∧
          e.1.id ∉ cancelled (s.after.strides ms')) ∧
    ∀ (past later : List (Stride α)) (u : Stride α),
      (start clock).strides ms = past ++ u :: later → u.move = .unwind →
      ∃ (earlier middle : List (Stride α)) (s : Stride α) (id : TimerId) (payload : α)
        (outer : List (SchedulerRun α)) (returned : Scheduler α),
        past = earlier ++ s :: middle ∧ s.Invokes id payload ∧
        u.before.runs = .firing id payload :: outer ∧
        u.after = { u.before with runs := outer } ∧
        (∀ e, e ∈ u.after.timers.entries ↔
          (e ∈ s.before.timers.entries ∨
            ∃ t ∈ middle, t.Schedules e.1.id e.1.deadline e.2) ∧
          e.1.id ≠ id ∧ e.1.id ∉ cancelled middle ∧ e.1.id ∉ fired middle) ∧
        (∀ e ∈ u.after.timers.entries, (u.after.cancel e.1.id).2 = some e.2) ∧
        u.before.finish = some returned ∧
        ∀ ops : List (Move α), (∀ m ∈ ops, m.ofUsers = true) →
          u.after.after (ops ++ [.enter]) = returned.after ops ∧
          ∀ rest, fired (u.after.strides (ops ++ .enter :: rest)) =
              fired (returned.strides (ops ++ rest)) ∧
            u.after.after (ops ++ .enter :: rest) = returned.after (ops ++ rest) := by
  refine ⟨fun s hs hm => ?_, fun past later u hcut hm => ?_⟩
  · obtain ⟨past, later, hcut⟩ := List.append_of_mem hs
    have hsound := (accounted_before hcut).sound
    have hafter := Stride.after_of_stop hm
    have hentries : s.after.timers.entries = s.before.timers.entries := by
      rw [hafter]
      rfl
    have hstopped : s.after.isStopped = true := by
      rw [hafter]
      rfl
    refine ⟨hentries, fun ms' => ?_⟩
    have hhalted := halted_after (Stride.follows hsound).sound hstopped ms'
    refine ⟨hhalted.fired, hhalted.calm, fun outer h => turn_of_stopped h hhalted.stopped,
      fun e => ?_⟩
    rw [mem_entries_after (Stride.follows hsound).sound, hhalted.fired, hentries]
    simp
  · have hmade := u.made
    simp only [hm, step, Option.map_eq_some_iff, Prod.mk.injEq] at hmade
    obtain ⟨unwound, hunwound, rfl, -⟩ := hmade
    obtain ⟨id, payload, outer, hruns, hafter⟩ := unwind_eq_some.mp hunwound
    have hreturned := finish_eq_some.mpr ⟨id, payload, outer, hruns, rfl⟩
    have hbooks := accounted_before hcut
    obtain ⟨ms₁, -, rfl, hbefore, -⟩ := Machine.exists_moves_of_strides_eq hcut
    -- the callback was called at some moment before
    have hfiring : .firing id payload ∈ ((start clock).after ms₁).runs := by
      rw [after, hbefore, hruns]
      exact List.mem_cons_self ..
    obtain ⟨s, hs, hinvokes⟩ := exists_invokes_of_firing clock ms₁ hfiring
    obtain ⟨earlier, middle, hpast⟩ := List.append_of_mem hs
    obtain ⟨-, ms₂, -, -, rfl, hmiddle⟩ := Machine.exists_moves_of_strides_eq hpast
    have hentries := hinvokes.mem_entries_after (accounted_before hpast).sound ms₂
    rw [after, hmiddle, hbefore] at hentries
    refine ⟨earlier, _, s, id, payload, outer, _, hpast, hinvokes, hruns, hafter, ?_, ?_,
      hreturned, fun ops hops => ?_⟩
    · rw [hafter]
      exact hentries
    · rw [hafter]
      exact fun e he => Timers.remove_of_mem hbooks.sound he
    · exact ⟨after_enter_of_unwind hreturned hunwound hops,
        resumes_of_unwind hbooks.sound hreturned hunwound hops⟩

/-! ### A callback that panics, and one that stops the scheduler

Two timers are due at once. The callback of the first one cancels the second one, adds another one
and panics. The callback of that other one, in the next run, stops the scheduler.
-/

namespace InterruptedTimer

/-- Everything up to the panic. -/
def begin : List (Move String) :=
  [.scheduleAt 5 "first", .scheduleAt 5 "second", .scheduleAt 9 "third", .enter, .pass 5, .advance,
    .cancel 1, .scheduleAt 1 "fourth"]

/-- The panic. -/
def panics : Stride String := Machine.stride step ((start 0).after begin) .unwind rfl

/-- Everything from then on up to the stop. -/
def middle : List (Move String) := [.pass 1, .enter, .advance]

/-- The stop. -/
def stops : Stride String := Machine.stride step (panics.after.after middle) .stop rfl

/-- What comes then: another run begins, and waits for long. -/
def rest : List (Move String) :=
  [.finish, .scheduleAt 0 "fifth", .advance, .enter, .pass 100, .advance]

lemma cut : (start 0).strides (begin ++ .unwind :: (middle ++ .stop :: rest)) =
    (start 0).strides begin ++
      panics :: (panics.after.strides middle ++ stops :: stops.after.strides rest) := rfl

end InterruptedTimer

/-- After the panic, the third and the fourth timer are pending, and the next run fires them in
their order. After the stop, the third one is still pending, and is not fired however long a run
waits. -/
theorem interruptions_keep_other_timers_stopping :
    InterruptedTimer.panics.move = .unwind ∧
      (InterruptedTimer.panics.after.cancel 2).2 = some "third" ∧
      (∃ returned, InterruptedTimer.panics.before.finish = some returned ∧
        fired (InterruptedTimer.panics.after.strides
            ([.pass 1] ++ .enter :: [.advance, .finish, .pass 3, .advance])) =
          fired (returned.strides ([.pass 1] ++ [.advance, .finish, .pass 3, .advance]))) ∧
      InterruptedTimer.stops.move = .stop ∧
      fired (InterruptedTimer.stops.after.strides InterruptedTimer.rest) = [] ∧
      ((⟨9, 2⟩, "third") : TimerKey × String) ∈
        (InterruptedTimer.stops.after.after InterruptedTimer.rest).timers.entries := by
  have hall := interruptions_keep_other_timers 0 (InterruptedTimer.begin ++
    .unwind :: (InterruptedTimer.middle ++ .stop :: InterruptedTimer.rest))
  have hmem : InterruptedTimer.stops ∈ (start 0).strides (InterruptedTimer.begin ++
      .unwind :: (InterruptedTimer.middle ++ .stop :: InterruptedTimer.rest)) := by
    rw [InterruptedTimer.cut]
    simp
  obtain ⟨-, hstopped⟩ := hall.1 InterruptedTimer.stops hmem rfl
  obtain ⟨hfired, -, -, hpending⟩ := hstopped InterruptedTimer.rest
  obtain ⟨_, _, _, _, _, _, returned, -, -, -, -, -, hcancel, hreturned, hnext⟩ :=
    hall.2 _ _ _ InterruptedTimer.cut rfl
  refine ⟨rfl, ?_, ⟨returned, hreturned, ?_⟩, rfl, hfired, ?_⟩
  · exact hcancel (⟨9, 2⟩, "third") (by decide)
  · exact ((hnext [.pass 1] (by decide)).2 _).1
  · exact (hpending _).mpr ⟨.inl (by decide), by decide⟩

end Scheduler

end EventLoop
