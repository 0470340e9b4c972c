import EventLoop.Proofs.Timer.Exclusion

/-!
Timers fire in the order of their deadlines, and never early.

* `Stride.Schedules.lt` says that of two timers the one that was added first has the smaller number,
  and `Stride.Schedules.entry_eq_of_mem` that a number belongs to one timer.
* `Stride.mem_after_iff` and `mem_entries_after` say which timers are pending after a move and after
  a run: those that were pending before or were added, but for those that were fired or withdrawn.
* `left_of_before` says that when a timer fires, those that come before it and were added already
  have left the table.
* `exists_cut_of_fired` says that a timer that is pending at a moment fires after it.
* `timers_fire_in_order` is the main statement here.
-/

namespace EventLoop.Scheduler

variable {α : Type}

/-- A timer that is added takes the number that comes next. -/
lemma Stride.Schedules.nextId {s : Stride α} {id : TimerId} {deadline : Instant} {payload : α}
    (h : s.Schedules id deadline payload) : s.after.timers.nextId = id + 1 := by
  obtain ⟨rfl, hm⟩ := h
  have hmade := s.made
  rcases hm with hm | ⟨delay, lag, hm, hdeadline⟩
  · simp only [hm, step, Scheduler.scheduleAt, Option.some.injEq, Prod.mk.injEq] at hmade
    rw [← hmade.1]
    rfl
  · rw [hm, step, schedule_of_deadline hdeadline] at hmade
    obtain ⟨hafter, -⟩ := Prod.mk.inj (Option.some.inj hmade)
    rw [← hafter]
    rfl

/-- Of two timers, the one that was added first has the smaller number. -/
lemma Stride.Schedules.lt {clock : Instant} {ms : List (Move α)}
    {past middle later : List (Stride α)} {s t : Stride α}
    (hcut : (start clock).strides ms = past ++ s :: (middle ++ t :: later)) {i j : TimerId}
    {d e : Instant} {p q : α} (hs : s.Schedules i d p) (ht : t.Schedules j e q) : i < j := by
  have hsound := (Stride.follows (accounted_before hcut).sound).sound
  obtain ⟨-, ms₂, -, -, hrest, -⟩ := Machine.exists_moves_of_strides_eq hcut
  obtain ⟨ms₃, -, -, hbefore, -⟩ := Machine.exists_moves_of_strides_eq hrest
  have hle := (follows_after hsound ms₃).nextId
  rw [hs.nextId] at hle
  have hj : (s.after.after ms₃).timers.nextId = j := by rw [after, hbefore, ht.1]
  exact hj ▸ hle

/-- A move adds one timer at most. -/
lemma Stride.Schedules.entry_eq {s : Stride α} {i j : TimerId} {d e : Instant} {p q : α}
    (h : s.Schedules i d p) (h' : s.Schedules j e q) :
    ((⟨d, i⟩, p) : TimerKey × α) = (⟨e, j⟩, q) := by
  obtain ⟨rfl, hm⟩ := h
  obtain ⟨rfl, hm'⟩ := h'
  rcases hm with hm | ⟨delay, lag, hm, hdeadline⟩ <;>
    rcases hm' with hm' | ⟨delay', lag', hm', hdeadline'⟩ <;> cases hm.symm.trans hm'
  · rfl
  · cases hdeadline.symm.trans hdeadline'
    rfl

/-- A move that hands out no number adds no timer. -/
lemma Stride.not_schedules {s : Stride α}
    (h : s.after.timers.nextId = s.before.timers.nextId) (id : TimerId) (deadline : Instant)
    (payload : α) : ¬s.Schedules id deadline payload := by
  intro hschedules
  have hnext := hschedules.nextId
  rw [h, hschedules.1] at hnext
  exact Nat.succ_ne_self _ hnext.symm

variable {clock : Instant} {ms : List (Move α)} {past later : List (Stride α)} {s t u : Stride α}
  {a b : TimerKey × α}

/-- A number belongs to one timer. -/
lemma Stride.Schedules.entry_eq_of_mem (hs : s ∈ (start clock).strides ms)
    (ht : t ∈ (start clock).strides ms) (h : s.Schedules a.1.id a.1.deadline a.2)
    (h' : t.Schedules b.1.id b.1.deadline b.2) (hid : a.1.id = b.1.id) : a = b := by
  obtain ⟨past, later, hcut⟩ := List.append_of_mem hs
  rw [hcut] at ht
  rcases List.mem_append.mp ht with hpast | hlater
  · obtain ⟨past₁, past₂, rfl⟩ := List.append_of_mem hpast
    have hcut' : (start clock).strides ms = past₁ ++ t :: (past₂ ++ s :: later) := by
      simpa using hcut
    exact absurd hid (Nat.ne_of_gt (Stride.Schedules.lt hcut' h' h))
  · rcases List.mem_cons.mp hlater with rfl | hlater
    · exact h.entry_eq h'
    · obtain ⟨later₁, later₂, rfl⟩ := List.append_of_mem hlater
      exact absurd hid (Nat.ne_of_lt (Stride.Schedules.lt hcut h h'))

/-- What gets a smaller number is added before. -/
lemma Stride.Schedules.mem_past (hcut : (start clock).strides ms = past ++ later)
    (hs : s ∈ (start clock).strides ms) (ht : t ∈ past) {i j : TimerId} {d e : Instant} {p q : α}
    (h : s.Schedules i d p) (h' : t.Schedules j e q) (hle : i ≤ j) : s ∈ past := by
  rw [hcut] at hs
  refine (List.mem_append.mp hs).resolve_right fun hlater => ?_
  obtain ⟨past₁, past₂, rfl⟩ := List.append_of_mem ht
  obtain ⟨later₁, later₂, rfl⟩ := List.append_of_mem hlater
  have hcut' : (start clock).strides ms =
      past₁ ++ t :: ((past₂ ++ later₁) ++ s :: later₂) := by simpa using hcut
  exact Nat.not_lt.mpr hle (Stride.Schedules.lt hcut' h' h)

/-! ### Which timers are pending -/

/-- After a move those timers are pending that were pending before or are added by it, but for those
that it fires or withdraws. -/
lemma Stride.mem_after_iff {s : Stride α} (hs : s.before.timers.Sound) {e : TimerKey × α} :
    e ∈ s.after.timers.entries ↔
      (e ∈ s.before.timers.entries ∨ s.Schedules e.1.id e.1.deadline e.2) ∧
        e.1.id ∉ s.notes.filterMap cancelled? ∧ e.1.id ∉ s.notes.filterMap fired? := by
  cases Stride.effect hs with
  | @schedules deadline payload schedules timers notes =>
      have hnew : e = (⟨deadline, s.before.timers.nextId⟩, payload) ↔
          s.Schedules e.1.id e.1.deadline e.2 := by
        constructor
        · rintro rfl
          exact schedules
        · exact fun h => h.entry_eq schedules
      rw [timers, Timers.mem_insert, hnew, or_comm]
      simp [notes, cancelled?, fired?]
  | cancels _ lost notes =>
      rw [lost.mem_iff hs]
      simp [Stride.not_schedules lost.nextId, notes, cancelled?, fired?]
  | fires _ _ _ _ lost notes =>
      rw [lost.mem_iff hs]
      simp [Stride.not_schedules lost.nextId, notes, cancelled?, fired?]
  | keeps kept _ silent =>
      obtain ⟨-, hcancelled, hfired⟩ := filterMap_of_silent silent
      simp [kept.entries, Stride.not_schedules kept.nextId, hcancelled, hfired]

/-- What a move fires or withdraws was added before. -/
lemma Stride.lt_nextId_of_left {s : Stride α} (hs : s.before.timers.Sound) {id : TimerId}
    (h : id ∈ s.notes.filterMap cancelled? ∨ id ∈ s.notes.filterMap fired?) :
    id < s.before.timers.nextId := by
  cases Stride.effect hs with
  | schedules _ _ notes => simp [notes, cancelled?, fired?] at h
  | cancels _ lost notes =>
      obtain rfl := by simpa [notes, cancelled?, fired?] using h
      exact hs.issued _ lost.mem
  | fires _ _ _ _ lost notes =>
      obtain rfl := by simpa [notes, cancelled?, fired?] using h
      exact hs.issued _ lost.mem
  | keeps _ _ silent =>
      obtain ⟨-, hcancelled, hfired⟩ := filterMap_of_silent silent
      simp [hcancelled, hfired] at h

/-- What a run has made of the timers of a scheduler. -/
structure Worked (s : Scheduler α) (past : List (Stride α)) (s' : Scheduler α) : Prop where
  follows : s.timers.Follows s'.timers
  left : ∀ id, id ∈ cancelled past ∨ id ∈ fired past → id < s'.timers.nextId
  entries : ∀ e, e ∈ s'.timers.entries ↔
    (e ∈ s.timers.entries ∨ ∃ t ∈ past, t.Schedules e.1.id e.1.deadline e.2) ∧
      e.1.id ∉ cancelled past ∧ e.1.id ∉ fired past

lemma Worked.stride {s : Scheduler α} {past : List (Stride α)} {t : Stride α}
    (h : Worked s past t.before) : Worked s (past ++ [t]) t.after := by
  have hsound := h.follows.sound
  have hfollows := Stride.follows hsound
  refine ⟨h.follows.trans hfollows, fun id hid => ?_, fun e => ?_⟩
  · rw [cancelled_concat, fired_concat, List.mem_append, List.mem_append] at hid
    have hlt : id < t.before.timers.nextId := by
      rcases hid with (hpast | hnow) | (hpast | hnow)
      · exact h.left id (.inl hpast)
      · exact Stride.lt_nextId_of_left hsound (.inl hnow)
      · exact h.left id (.inr hpast)
      · exact Stride.lt_nextId_of_left hsound (.inr hnow)
    exact Nat.lt_of_lt_of_le hlt hfollows.nextId
  · -- a timer that the move adds has a new number, and no timer with that number ever left
    have hnew : t.Schedules e.1.id e.1.deadline e.2 →
        e.1.id ∉ cancelled past ∧ e.1.id ∉ fired past := by
      intro hschedules
      refine ⟨fun hid => ?_, fun hid => ?_⟩
      · exact Nat.lt_irrefl _ (hschedules.1 ▸ h.left _ (.inl hid))
      · exact Nat.lt_irrefl _ (hschedules.1 ▸ h.left _ (.inr hid))
    have hpast : (∃ t' ∈ past ++ [t], t'.Schedules e.1.id e.1.deadline e.2) ↔
        (∃ t' ∈ past, t'.Schedules e.1.id e.1.deadline e.2) ∨
          t.Schedules e.1.id e.1.deadline e.2 := by
      simp only [List.mem_append, List.mem_singleton, or_and_right, exists_or, exists_eq_left]
    rw [Stride.mem_after_iff hsound, h.entries, cancelled_concat, fired_concat, hpast,
      List.mem_append, List.mem_append]
    grind

/-- After a run those timers are pending that were pending before or were added during it, but for
those that were fired or withdrawn. -/
lemma mem_entries_after {s : Scheduler α} (hs : s.timers.Sound) (ms : List (Move α))
    (e : TimerKey × α) :
    e ∈ (s.after ms).timers.entries ↔
      (e ∈ s.timers.entries ∨ ∃ t ∈ s.strides ms, t.Schedules e.1.id e.1.deadline e.2) ∧
        e.1.id ∉ cancelled (s.strides ms) ∧ e.1.id ∉ fired (s.strides ms) := by
  have hworked : Worked s (s.strides ms) (s.after ms) :=
    Machine.history_rec ⟨hs.follows, by simp [cancelled, fired, Machine.noted],
      by simp [cancelled, fired, Machine.noted]⟩ (fun _ _ h => h.stride) ms
  exact hworked.entries e

/-- A timer that is added stands in the table. -/
lemma Stride.Schedules.mem_after (h : s.Schedules a.1.id a.1.deadline a.2)
    (hs : s.before.timers.Sound) : a ∈ s.after.timers.entries := by
  have hnew : ∀ {ids : List TimerId}, (a.1.id ∈ ids → a.1.id < s.before.timers.nextId) →
      a.1.id ∉ ids := fun hlt hmem => Nat.lt_irrefl _ (h.1 ▸ hlt hmem)
  exact (Stride.mem_after_iff hs).mpr ⟨.inr h,
    hnew fun hid => Stride.lt_nextId_of_left hs (.inl hid),
    hnew fun hid => Stride.lt_nextId_of_left hs (.inr hid)⟩

/-! ### Which timers have left -/

/-- A timer that fires was added before, and its deadline was reached. -/
lemma Stride.Schedules.mem_past_of_fired (hcut : (start clock).strides ms = past ++ u :: later)
    (hs : s ∈ (start clock).strides ms) (h : s.Schedules a.1.id a.1.deadline a.2)
    (hfired : a.1.id ∈ u.notes.filterMap fired?) : s ∈ past ∧ a.1.deadline ≤ u.before.clock := by
  have hbooks := accounted_before hcut
  obtain ⟨key, payload, hid, hmem, hdue, -, -⟩ := Stride.fires_of_mem hbooks.sound hfired
  obtain ⟨t, ht, hadded⟩ := hbooks.origin _ hmem
  have hmem' : t ∈ (start clock).strides ms := hcut ▸ List.mem_append_left _ ht
  obtain rfl := Stride.Schedules.entry_eq_of_mem hmem' hs hadded h hid
  exact ⟨h.mem_past hcut hs ht hadded (Nat.le_refl _), hdue⟩

/-- When a timer fires, those that come before it and were added already have left the table. -/
lemma left_of_before (hcut : (start clock).strides ms = past ++ u :: later) (hs : s ∈ past)
    (ht : t ∈ past) (h : s.Schedules a.1.id a.1.deadline a.2)
    (h' : t.Schedules b.1.id b.1.deadline b.2) (hab : a.1.before b.1 = true)
    (hfired : b.1.id ∈ u.notes.filterMap fired?) :
    a.1.id ∈ fired past ∨ a.1.id ∈ cancelled past := by
  have hsound := (accounted_before hcut).sound
  obtain ⟨ms₁, -, rfl, hbefore, -⟩ := Machine.exists_moves_of_strides_eq hcut
  have hpending := mem_entries_after (α := α) (s := start clock) Timers.sound_empty ms₁
  rw [after, hbefore] at hpending
  obtain ⟨key, payload, hid, hmem, -, hleast, -⟩ := Stride.fires_of_mem hsound hfired
  -- what fires is the timer that was added under the number
  obtain ⟨t', ht', hadded⟩ : ∃ t' ∈ (start clock).strides ms₁, t'.Schedules key.id key.deadline
      payload := ((hpending (key, payload)).mp hmem).1.resolve_left List.not_mem_nil
  obtain rfl : (key, payload) = b := Stride.Schedules.entry_eq_of_mem ht' ht hadded h' hid
  by_contra hleft
  rw [not_or] at hleft
  have hthere : a ∈ u.before.timers.entries :=
    (hpending a).mpr ⟨.inr ⟨s, hs, h⟩, hleft.2, hleft.1⟩
  rcases hleast a hthere with heq | hafter
  · rw [heq, TimerKey.before_irrefl] at hab
    cases hab
  · rw [TimerKey.before_asymm hafter] at hab
    cases hab

/-- A timer that is pending at a moment fires after it. -/
lemma exists_cut_of_fired {first rest : List (Move α)}
    (hcut : (start clock).strides (first ++ rest) = past ++ s :: later) {id : TimerId}
    (hpending : id ∈ ((start clock).after first).pendingIds)
    (hfired : id ∈ s.notes.filterMap fired?) :
    ∃ middle, past = (start clock).strides first ++ middle := by
  rw [strides, Machine.strides_append] at hcut
  rcases List.append_eq_append_iff.mp hcut with ⟨middle, hpast, -⟩ | ⟨middle, hfirst, hrest⟩
  · exact ⟨middle, hpast⟩
  · cases middle with
    | nil => exact ⟨[], by simpa using hfirst.symm⟩
    | cons t middle =>
        -- it would have fired before, and could not be pending
        obtain ⟨rfl, -⟩ := List.cons.inj hrest
        have hearly : id ∈ fired ((start clock).strides first) :=
          List.mem_flatMap.mpr ⟨s, by rw [strides, hfirst]; simp, hfired⟩
        have hnodup := (accounted clock first).nodup
        obtain ⟨-, -, hapart⟩ := List.nodup_append.mp hnodup
        exact absurd rfl (hapart id (List.mem_append_left _ hearly) id hpending)

/-- When a timer fires, the timers that come before it and were pending together with it at some
moment have left the table. -/
lemma left_before_fired {first rest : List (Move α)}
    (hcut : (start clock).strides (first ++ rest) = past ++ s :: later)
    (ha : a ∈ ((start clock).after first).timers.entries)
    (hb : b ∈ ((start clock).after first).timers.entries) (hab : a.1.before b.1 = true)
    (hfired : b.1.id ∈ s.notes.filterMap fired?) :
    a.1.id ∈ fired past ∨ a.1.id ∈ cancelled past := by
  obtain ⟨middle, rfl⟩ := exists_cut_of_fired hcut (Timers.mem_ids.mpr ⟨b, hb, rfl⟩) hfired
  obtain ⟨t, ht, hadded⟩ := (accounted clock first).origin a ha
  obtain ⟨u, hu, hadded'⟩ := (accounted clock first).origin b hb
  exact left_of_before hcut (List.mem_append_left _ ht) (List.mem_append_left _ hu) hadded hadded'
    hab hfired

/-- A timer that fires at any time of a run is not cancelled before. -/
lemma not_cancelled_of_fired (hcut : (start clock).strides ms = past ++ later) {id : TimerId}
    (hfired : id ∈ fired ((start clock).strides ms)) : id ∉ cancelled past := by
  intro hcancelled
  have hnodup := (accounted clock ms).nodup.sublist (List.sublist_append_left _ _)
  obtain ⟨-, -, hapart⟩ := List.nodup_append.mp hnodup
  refine absurd rfl (hapart id hfired id ?_)
  rw [hcut, cancelled, Machine.noted_append]
  exact List.mem_append_left _ hcancelled

/-- **Timers fire in the order of their deadlines, and never early.** Whatever the callbacks do
meanwhile: a timer that fires was added before with a deadline that the clock has reached, and among
all timers that are pending when it is taken its deadline is the earliest and, where deadlines are
equal, its number the smallest. Of two timers that are pending at the same moment, the one with the
earlier deadline or, for equal deadlines, the smaller number fires before the other one whenever
both fire. And numbers tell which of two timers was added first. -/
theorem timers_fire_in_order (clock : Instant) (ms : List (Move α)) :
    (∀ (past later : List (Stride α)) (s : Stride α),
      (start clock).strides ms = past ++ s :: later → ∀ id ∈ fired [s],
      ∃ deadline payload,
        (∃ t ∈ past, t.Schedules id deadline payload) ∧
        (⟨deadline, id⟩, payload) ∈ s.before.timers.entries ∧
        deadline ≤ s.before.clock ∧
        ∀ e ∈ s.before.timers.entries, e.1 = ⟨deadline, id⟩ ∨ deadline < e.1.deadline ∨
          deadline = e.1.deadline ∧ id < e.1.id) ∧
    (∀ (first rest : List (Move α)), ms = first ++ rest →
      ∀ a ∈ ((start clock).after first).timers.entries,
      ∀ b ∈ ((start clock).after first).timers.entries,
      (a.1.deadline < b.1.deadline ∨ a.1.deadline = b.1.deadline ∧ a.1.id < b.1.id) →
      a.1.id ∈ fired ((start clock).strides ms) →
      ∀ (past later : List (Stride α)) (s : Stride α),
        (start clock).strides ms = past ++ s :: later → b.1.id ∈ fired [s] →
        a.1.id ∈ fired past) ∧
    ∀ (past middle later : List (Stride α)) (s t : Stride α),
      (start clock).strides ms = past ++ s :: (middle ++ t :: later) →
      ∀ i j d e p q, s.Schedules i d p → t.Schedules j e q → i < j := by
  refine ⟨?_, ?_, ?_⟩
  · intro past later s hcut id hid
    have hbooks := accounted_before hcut
    obtain ⟨⟨deadline, _⟩, payload, rfl, hmem, hdue, hleast, -⟩ :=
      Stride.fires_of_mem hbooks.sound (fired_singleton s ▸ hid)
    refine ⟨deadline, payload, hbooks.origin _ hmem, hmem, hdue, fun e he => ?_⟩
    exact (hleast e he).imp_right TimerKey.before_iff.mp
  · rintro first rest rfl a ha b hb hab hfires past later s hcut hid
    have hleft := left_before_fired hcut ha hb (TimerKey.before_iff.mpr hab)
      (fired_singleton s ▸ hid)
    exact hleft.resolve_right (not_cancelled_of_fired hcut hfires)
  · intro past middle later s t hcut i j d e p q hs ht
    exact hs.lt hcut ht

/-! ### A deadline in the past

Two timers are due at the same moment. The callback of the first one adds a third one with a
deadline that is long over, which fires before the second one.
-/

namespace LateTimer

/-- Both timers are pending. -/
def first : List (Move String) := [.scheduleAt 5 "first", .scheduleAt 5 "second"]

/-- Everything from then on up to the end of the callback of the third timer. -/
def middle : List (Move String) :=
  [.enter, .pass 7, .advance, .scheduleAt 1 "third", .finish, .advance, .finish]

/-- The second timer fires. -/
def fires : Stride String :=
  Machine.stride step ((start 0).after (first ++ middle)) .advance rfl

lemma cut : (start 0).strides (first ++ (middle ++ [.advance])) =
    (start 0).strides (first ++ middle) ++ fires :: [] := rfl

end LateTimer

/-- When the second timer fires, its deadline was reached, and the first one has fired. -/
theorem timers_fire_in_order_late :
    (start 0).strides (LateTimer.first ++ (LateTimer.middle ++ [.advance])) =
        (start 0).strides (LateTimer.first ++ LateTimer.middle) ++ LateTimer.fires :: [] ∧
      1 ∈ fired [LateTimer.fires] ∧ (5 : Instant) ≤ LateTimer.fires.before.clock ∧
      0 ∈ fired ((start 0).strides (LateTimer.first ++ LateTimer.middle)) := by
  have hall := timers_fire_in_order 0 (LateTimer.first ++ (LateTimer.middle ++ [.advance]))
  have hfired : 1 ∈ fired [LateTimer.fires] := by decide
  obtain ⟨deadline, payload, -, hmem, hdue, -⟩ := hall.1 _ _ _ LateTimer.cut 1 hfired
  refine ⟨LateTimer.cut, hfired, by decide, ?_⟩
  exact hall.2.1 LateTimer.first _ rfl (⟨5, 0⟩, "first") (by decide) (⟨5, 1⟩, "second")
    (by decide) (.inr ⟨rfl, by decide⟩) (by decide) _ _ _ LateTimer.cut hfired

end EventLoop.Scheduler
