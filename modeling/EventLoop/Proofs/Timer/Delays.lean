import EventLoop.Proofs.Timer.Interruption

/-!
Which of two delays is over first, where the end of a delay may be too late to be represented and
the stand-in takes its place.

* `Instant.Endless` says that neither the end of a delay nor the stand-in for it can be represented,
  and `Instant.Outruns` that the end of one delay is later than the stand-in for the end of another
  one; `Instant.deadline?_le_iff` says that a delay that starts later and is not shorter ends
  earlier in this case and in no other.
* `keyFor?` is the place that a timer gets which is added for a delay, and `FiresFirst` says which
  of two timers fires first if both fire.
* `clock_le_of_mem` says that the clock does not go back, and `firesFirst_of_before` that a timer
  which comes before another one fires first if it was added in time.
* `longer_delays_fire_later` is the main statement here, and `longer_delay_fires_first` is a long
  delay that is over before a shorter one.
-/

namespace EventLoop

namespace Instant

variable {now again n₁ n₂ m₁ m₂ e₁ e₂ : Instant} {delay d₁ d₂ : Delay}

/-- Neither the end of the delay nor the stand-in for it can be represented. -/
def Endless (now again : Instant) (delay : Delay) : Prop :=
  latest < now + delay ∧ latest < again + Delay.standIn

lemma deadline?_eq_none_iff : deadline? now again delay = none ↔ Endless now again delay := by
  rw [deadline?, Option.or_eq_none_iff, after?_eq_none_iff, after?_eq_none_iff, Endless]

/-- The end of the first delay can be represented and is later than the stand-in for the end of the
second one, which cannot. The stand-in is counted from the second reading of the clock. -/
def Outruns (n₁ : Instant) (d₁ : Delay) (n₂ m₂ : Instant) (d₂ : Delay) : Prop :=
  n₁ + d₁ ≤ latest ∧ latest < n₂ + d₂ ∧ m₂ + Delay.standIn < n₁ + d₁

/-- **The order of deadlines.** Of two delays the one that starts later and is not shorter does not
end earlier, unless the stand-in for its end is outrun. -/
theorem deadline?_le_iff (hn : n₁ ≤ n₂) (hm : m₁ ≤ m₂) (hd : d₁ ≤ d₂)
    (h₁ : deadline? n₁ m₁ d₁ = some e₁) (h₂ : deadline? n₂ m₂ d₂ = some e₂) :
    e₁ ≤ e₂ ↔ ¬Outruns n₁ d₁ n₂ m₂ d₂ := by
  have hsum : n₁ + d₁ ≤ n₂ + d₂ := Int.add_le_add hn (Int.ofNat_le.mpr hd)
  by_cases hends₁ : n₁ + d₁ ≤ latest
  · rw [deadline?_of_le hends₁, Option.some.injEq] at h₁
    by_cases hends₂ : n₂ + d₂ ≤ latest
    · rw [deadline?_of_le hends₂, Option.some.injEq] at h₂
      rw [← h₁, ← h₂]
      exact iff_of_true hsum fun h => Int.not_le.mpr h.2.1 hends₂
    · rw [Int.not_le] at hends₂
      rw [deadline?_of_lt hends₂, after?_eq_some_iff] at h₂
      rw [← h₁, h₂.1, Outruns, ← Int.not_lt]
      simp only [hends₁, hends₂, true_and]
  · have hends₂ := Int.lt_of_lt_of_le (Int.not_le.mp hends₁) hsum
    rw [deadline?_of_lt (Int.not_le.mp hends₁), after?_eq_some_iff] at h₁
    rw [deadline?_of_lt hends₂, after?_eq_some_iff] at h₂
    rw [h₁.1, h₂.1]
    exact iff_of_true (Int.add_le_add_right hm _) fun h => hends₁ h.1

end Instant

namespace Scheduler

variable {α : Type}

/-- The place in the order of firing that a timer gets which is added for a delay, if it is added.
-/
def keyFor? (s : Scheduler α) (delay lag : Delay) : Option TimerKey :=
  (Instant.deadline? s.clock (s.pass lag).clock delay).map (⟨·, s.timers.nextId⟩)

/-- When the second of two timers fires, the first one has fired, if it fires at all. -/
def FiresFirst (history : List (Stride α)) (i j : TimerId) : Prop :=
  ∀ past u later, history = past ++ u :: later → j ∈ fired [u] → i ∈ fired history → i ∈ fired past

lemma keyFor?_eq_some_iff {s : Scheduler α} {delay lag : Delay} {key : TimerKey} :
    s.keyFor? delay lag = some key ↔
      Instant.deadline? s.clock (s.pass lag).clock delay = some key.deadline ∧
        key.id = s.timers.nextId := by
  rw [keyFor?, Option.map_eq_some_iff]
  constructor
  · rintro ⟨deadline, hdeadline, rfl⟩
    exact ⟨hdeadline, rfl⟩
  · rintro ⟨hdeadline, hid⟩
    exact ⟨_, hdeadline, by rw [← hid]⟩

/-- A timer is added unless there is no end of its delay. -/
lemma exists_keyFor? {s : Scheduler α} {delay lag : Delay}
    (h : ¬Instant.Endless s.clock (s.pass lag).clock delay) :
    ∃ key, s.keyFor? delay lag = some key := by
  rw [← Instant.deadline?_eq_none_iff, ← ne_eq, Option.ne_none_iff_exists'] at h
  obtain ⟨deadline, hdeadline⟩ := h
  exact ⟨⟨deadline, s.timers.nextId⟩, keyFor?_eq_some_iff.mpr ⟨hdeadline, rfl⟩⟩

lemma Stride.schedules_of_delay {s : Stride α} {delay lag : Delay} {payload : α} {key : TimerKey}
    (h : s.move = .schedule delay lag payload) (hkey : s.before.keyFor? delay lag = some key) :
    s.Schedules key.id key.deadline payload := by
  obtain ⟨hdeadline, hid⟩ := keyFor?_eq_some_iff.mp hkey
  exact ⟨hid.symm, .inr ⟨delay, lag, h, hdeadline⟩⟩

/-- Where there is no end of the delay, no timer is added and the table stays as it is. -/
lemma Stride.timers_of_endless {s : Stride α} {delay lag : Delay} {payload : α}
    (h : s.move = .schedule delay lag payload)
    (endless : Instant.Endless s.before.clock (s.before.pass lag).clock delay) :
    s.after.timers = s.before.timers := by
  have hnone := Instant.deadline?_eq_none_iff.mpr endless
  rcases Stride.added_or_passed h with ⟨deadline, hdeadline, -⟩ | ⟨-, hafter, -⟩
  · rw [hnone] at hdeadline
    cases hdeadline
  · rw [hafter]
    rfl

/-! ### The clock -/

/-- Scheduling takes its time, whatever comes of it. -/
lemma Stride.clock_of_schedule {s : Stride α} {delay lag : Delay} {payload : α}
    (h : s.move = .schedule delay lag payload) : s.after.clock = (s.before.pass lag).clock := by
  rcases Stride.added_or_passed h with ⟨deadline, -, hafter, -⟩ | ⟨-, hafter, -⟩ <;> rw [hafter]

/-- Time does not go back. -/
lemma Stride.clock_le (s : Stride α) : s.before.clock ≤ s.after.clock := by
  have hmade := s.made
  have hkept : ∀ {s' : Scheduler α}, s' = s.after → s'.clock = s.before.clock →
      s.before.clock ≤ s.after.clock := fun hafter hclock => Int.le_of_eq (hafter ▸ hclock.symm)
  cases hm : s.move with
  | schedule delay lag payload =>
      rw [Stride.clock_of_schedule hm]
      exact Int.le_add_of_nonneg_right (Int.natCast_nonneg lag)
  | advance =>
      simp only [hm, step] at hmade
      cases hturn : s.before.turn with
      | leaves next pending =>
          obtain ⟨outer, -, -, rfl, -⟩ := turn_leaves hturn
          simp only [hturn, Option.some.injEq, Prod.mk.injEq] at hmade
          exact hkept hmade.1 rfl
      | fires next id payload =>
          obtain ⟨outer, -, -, -, rfl⟩ := turn_fires hturn
          simp only [hturn, Option.some.injEq, Prod.mk.injEq] at hmade
          exact hkept hmade.1 rfl
      | waits => simp [hturn] at hmade
      | busy => simp [hturn] at hmade
  | finish =>
      simp only [hm, step, Option.map_eq_some_iff, Prod.mk.injEq, finish_eq_some] at hmade
      obtain ⟨_, ⟨_, _, _, -, rfl⟩, hafter, -⟩ := hmade
      exact hkept hafter rfl
  | unwind =>
      simp only [hm, step, Option.map_eq_some_iff, Prod.mk.injEq, unwind_eq_some] at hmade
      obtain ⟨_, ⟨_, _, _, -, rfl⟩, hafter, -⟩ := hmade
      exact hkept hafter rfl
  | pass delay =>
      simp only [hm, step, Scheduler.pass, Option.some.injEq, Prod.mk.injEq] at hmade
      rw [← hmade.1]
      exact Int.le_add_of_nonneg_right (Int.natCast_nonneg delay)
  | cancel id =>
      simp only [hm, step] at hmade
      have hclock : (s.before.cancel id).1.clock = s.before.clock := rfl
      split at hmade
      · next hcancel =>
          simp only [Option.some.injEq, Prod.mk.injEq] at hmade
          exact hkept hmade.1 (by rw [← hclock, hcancel])
      · next hcancel =>
          simp only [Option.some.injEq, Prod.mk.injEq] at hmade
          exact hkept hmade.1 (by rw [← hclock, hcancel])
  | _ =>
      simp only [hm, step, Option.some.injEq, Prod.mk.injEq] at hmade
      exact hkept hmade.1 rfl

lemma clock_le_after (s : Scheduler α) (ms : List (Move α)) : s.clock ≤ (s.after ms).clock :=
  Machine.history_rec (P := fun _ (s' : Scheduler α) => s.clock ≤ s'.clock) (Int.le_refl _)
    (fun _ t h => Int.le_trans h (Stride.clock_le t)) ms

/-- What comes later in a run is not earlier on the clock. -/
lemma clock_le_of_mem {clock : Instant} {ms : List (Move α)} {past later : List (Stride α)}
    {s t : Stride α} (hcut : (start clock).strides ms = past ++ s :: later) (ht : t ∈ s :: later) :
    s.before.clock ≤ t.before.clock := by
  rcases List.mem_cons.mp ht with rfl | ht
  · exact Int.le_refl _
  · obtain ⟨-, ms₂, -, -, rfl, -⟩ := Machine.exists_moves_of_strides_eq hcut
    obtain ⟨ms₃, hbefore⟩ := Machine.exists_after_eq_before ht
    have hle := clock_le_after s.after ms₃
    rw [after, hbefore] at hle
    exact Int.le_trans (Stride.clock_le s) hle

/-! ### Which of two timers fires first -/

variable {clock : Instant} {ms : List (Move α)} {s t : Stride α} {a b : TimerKey × α}

/-- Of two timers the one that comes before the other fires first, if it was added whenever the
other one is due. -/
lemma firesFirst_of_before (ht : t ∈ (start clock).strides ms)
    (h : s.Schedules a.1.id a.1.deadline a.2) (h' : t.Schedules b.1.id b.1.deadline b.2)
    (hab : a.1.before b.1 = true)
    (early : ∀ past u later, (start clock).strides ms = past ++ u :: later → t ∈ past →
      b.1.deadline ≤ u.before.clock → s ∈ past) :
    FiresFirst ((start clock).strides ms) a.1.id b.1.id := by
  intro past u later hcut hfired hfires
  rw [fired_singleton] at hfired
  obtain ⟨hpast, hdue⟩ := h'.mem_past_of_fired hcut ht hfired
  have hleft := left_of_before hcut (early past u later hcut hpast hdue) hpast h h' hab hfired
  exact hleft.resolve_right (not_cancelled_of_fired hcut hfires)

/-! ### Which delay is over first -/

section Delays

variable {past middle later : List (Stride α)} {d₁ d₂ lag₁ lag₂ : Delay} {p q : α} {i j : TimerKey}

/-- The first of two delays ends first, unless it outruns the second one. -/
lemma keyFor?_before_iff {r r' : Scheduler α} (hclock : r.clock ≤ r'.clock)
    (hagain : (r.pass lag₁).clock ≤ (r'.pass lag₂).clock)
    (hid : r.timers.nextId < r'.timers.nextId) (hd : d₁ ≤ d₂)
    (hi : r.keyFor? d₁ lag₁ = some i) (hj : r'.keyFor? d₂ lag₂ = some j) :
    i.before j = true ↔ ¬Instant.Outruns r.clock d₁ r'.clock (r'.pass lag₂).clock d₂ := by
  obtain ⟨hdeadline, hi⟩ := keyFor?_eq_some_iff.mp hi
  obtain ⟨hdeadline', hj⟩ := keyFor?_eq_some_iff.mp hj
  rw [TimerKey.before_iff, ← Instant.deadline?_le_iff hclock hagain hd hdeadline hdeadline',
    Int.le_iff_lt_or_eq]
  simp only [hi, hj, hid, and_true]

/-- Of two timers the one whose delay was taken first has the earlier readings of the clock. -/
lemma clock_le_of_schedules
    (cut : (start clock).strides ms = past ++ s :: (middle ++ t :: later))
    (first : s.move = .schedule d₁ lag₁ p) (lag₂ : Delay) :
    s.before.clock ≤ t.before.clock ∧
      (s.before.pass lag₁).clock ≤ (t.before.pass lag₂).clock := by
  refine ⟨clock_le_of_mem cut (by simp), ?_⟩
  obtain ⟨-, ms₂, -, -, hrest, -⟩ := Machine.exists_moves_of_strides_eq cut
  obtain ⟨ms₃, -, -, hbefore, -⟩ := Machine.exists_moves_of_strides_eq hrest
  have hle := clock_le_after s.after ms₃
  rw [after, hbefore, Stride.clock_of_schedule first] at hle
  exact Int.le_trans hle (Int.le_add_of_nonneg_right (Int.natCast_nonneg lag₂))

/-- The end of a delay that outruns another one is not reached before the other one begins. -/
lemma lt_deadline_of_outruns {n₁ m₁ n₂ e : Instant} {lag : Delay}
    (h : Instant.Outruns n₁ d₁ n₂ (n₂ + lag) d₂) (he : Instant.deadline? n₁ m₁ d₁ = some e) :
    n₂ < e := by
  rw [Instant.deadline?_of_le h.1, Option.some.injEq] at he
  rw [← he]
  refine Int.lt_of_le_of_lt ?_ h.2.2
  rw [Int.add_assoc]
  exact Int.le_add_of_nonneg_right (Int.add_nonneg (Int.natCast_nonneg _) (Int.natCast_nonneg _))

/-- The timer that is added first fires first, if it comes first. -/
lemma firesFirst_of_first (cut : (start clock).strides ms = past ++ s :: (middle ++ t :: later))
    (hs : s.Schedules i.id i.deadline p) (ht : t.Schedules j.id j.deadline q)
    (hbefore : i.before j = true) : FiresFirst ((start clock).strides ms) i.id j.id := by
  have hmem : s ∈ (start clock).strides ms := by simp [cut]
  have hmem' : t ∈ (start clock).strides ms := by simp [cut]
  refine firesFirst_of_before (a := (i, p)) (b := (j, q)) hmem' hs ht hbefore ?_
  intro past' u later' hcut hpast _
  exact hs.mem_past hcut hmem hpast ht (Nat.le_of_lt (hs.lt cut ht))

/-- The timer that is added second fires first, if it comes first and the other one is not due
before. -/
lemma firesFirst_of_second (cut : (start clock).strides ms = past ++ s :: (middle ++ t :: later))
    (hs : s.Schedules i.id i.deadline p) (ht : t.Schedules j.id j.deadline q)
    (hbefore : j.before i = true) (hlate : t.before.clock < i.deadline) :
    FiresFirst ((start clock).strides ms) j.id i.id := by
  have hmem : s ∈ (start clock).strides ms := by simp [cut]
  have hmem' : t ∈ (start clock).strides ms := by simp [cut]
  refine firesFirst_of_before (a := (j, q)) (b := (i, p)) hmem ht hs hbefore ?_
  intro past' u later' hcut _ hdue
  refine (List.mem_append.mp (hcut ▸ hmem')).resolve_right fun hlater => ?_
  exact Int.not_le.mpr hlate (Int.le_trans hdue (clock_le_of_mem hcut hlater))

end Delays

/-- **Longer delays fire later**, unless the stand-in is outrun. Let a timer be scheduled for a
delay, and later on another one for a delay that is not shorter. Where neither the end of a delay
nor the stand-in for it can be represented, nothing is added. Otherwise each timer stands in the
table then. If the stand-in is not outrun, the first timer comes before the second one in the order
of firing, and it fires first whenever both fire. If the end of the first delay can be represented
and that of the second one cannot, and the stand-in for the latter, thirty years after the second
reading of the clock, is earlier than the former, then it is the other way round. -/
theorem longer_delays_fire_later (clock : Instant) (ms : List (Move α))
    (past middle later : List (Stride α)) (s t : Stride α)
    (cut : (start clock).strides ms = past ++ s :: (middle ++ t :: later))
    {d₁ d₂ lag₁ lag₂ : Delay} {p q : α} (first : s.move = .schedule d₁ lag₁ p)
    (second : t.move = .schedule d₂ lag₂ q) (longer : d₁ ≤ d₂) :
    (Instant.Endless s.before.clock (s.before.pass lag₁).clock d₁ →
      s.after.timers = s.before.timers) ∧
    (Instant.Endless t.before.clock (t.before.pass lag₂).clock d₂ →
      t.after.timers = t.before.timers) ∧
    (¬Instant.Endless s.before.clock (s.before.pass lag₁).clock d₁ →
      ¬Instant.Endless t.before.clock (t.before.pass lag₂).clock d₂ →
      ∃ i j, s.before.keyFor? d₁ lag₁ = some i ∧ t.before.keyFor? d₂ lag₂ = some j ∧
        (i, p) ∈ s.after.timers.entries ∧ (j, q) ∈ t.after.timers.entries ∧
        (¬Instant.Outruns s.before.clock d₁ t.before.clock (t.before.pass lag₂).clock d₂ →
          i.before j = true ∧ FiresFirst ((start clock).strides ms) i.id j.id) ∧
        (Instant.Outruns s.before.clock d₁ t.before.clock (t.before.pass lag₂).clock d₂ →
          j.before i = true ∧ FiresFirst ((start clock).strides ms) j.id i.id)) := by
  refine ⟨Stride.timers_of_endless first, Stride.timers_of_endless second, fun hends hends' => ?_⟩
  obtain ⟨i, hi⟩ := exists_keyFor? hends
  obtain ⟨j, hj⟩ := exists_keyFor? hends'
  have hs : s.Schedules i.id i.deadline p := Stride.schedules_of_delay first hi
  have ht : t.Schedules j.id j.deadline q := Stride.schedules_of_delay second hj
  have hid := hs.lt cut ht
  have hnext : s.before.timers.nextId < t.before.timers.nextId := by rwa [hs.1, ht.1]
  obtain ⟨hclock, hagain⟩ := clock_le_of_schedules cut first lag₂
  have hiff := keyFor?_before_iff hclock hagain hnext longer hi hj
  have cut' : (start clock).strides ms = (past ++ s :: middle) ++ t :: later := by simp [cut]
  refine ⟨i, j, hi, hj, hs.mem_after (a := (_, p)) (accounted_before cut).sound,
    ht.mem_after (a := (_, q)) (accounted_before cut').sound, fun hstands => ?_, fun houtruns => ?_⟩
  · have hbefore := hiff.mpr hstands
    exact ⟨hbefore, firesFirst_of_first cut hs ht hbefore⟩
  · have hbefore : j.before i = true := by
      rcases TimerKey.before_or_eq_or_before j i with hbefore | heq | hafter
      · exact hbefore
      · exact absurd (congrArg TimerKey.id heq) (Nat.ne_of_gt hid)
      · exact absurd houtruns (hiff.mp hafter)
    have hlate := lt_deadline_of_outruns houtruns (keyFor?_eq_some_iff.mp hi).1
    exact ⟨hbefore, firesFirst_of_second cut hs ht hbefore hlate⟩

/-! ### The second reading of the clock

A timer is added for thirty years and a second, and three nanoseconds later one for the longest
delay that there is. The clock is read again two seconds after that, so the stand-in is not outrun.
-/

namespace EndlessDelay

def longest : Delay := .of 18446744073709551615 999999999

/-- Thirty years and a second. -/
def long : Delay := .of 946080001 0

def finite : Stride String := Machine.stride step (start 0) (.schedule long 0 "finite") rfl

def endless : Stride String :=
  Machine.stride step (finite.after.after [.pass 3]) (.schedule longest (.of 2 0) "endless") rfl

/-- What happens until the second timer fires. -/
def passing : List (Move String) := [.enter, .pass Delay.standIn, .advance, .finish]

def fires : Stride String := Machine.stride step (endless.after.after passing) .advance rfl

def moves : List (Move String) :=
  [.schedule long 0 "finite", .pass 3, .schedule longest (.of 2 0) "endless"] ++ passing ++
    [.advance]

lemma cut : (start 0).strides moves = [] ++ finite ::
    (finite.after.strides [.pass 3] ++ endless ::
      endless.after.strides (passing ++ [.advance])) := rfl

lemma cut_fires : (start 0).strides moves =
    (start 0).strides (moves.take 7) ++ fires :: [] := rfl

end EndlessDelay

/-- When the endless delay is over, the finite one was over before. -/
theorem longer_delays_fire_later_endless :
    (start 0).strides EndlessDelay.moves = [] ++ EndlessDelay.finite ::
        (EndlessDelay.finite.after.strides [.pass 3] ++ EndlessDelay.endless ::
          EndlessDelay.endless.after.strides (EndlessDelay.passing ++ [.advance])) ∧
      EndlessDelay.long ≤ EndlessDelay.longest ∧
      ¬Instant.Endless 0 0 EndlessDelay.long ∧
      ¬Instant.Endless 3 2000000003 EndlessDelay.longest ∧
      ¬Instant.Outruns 0 EndlessDelay.long 3 2000000003 EndlessDelay.longest ∧
      (3 : Instant) + Delay.standIn < EndlessDelay.long ∧
      1 ∈ fired [EndlessDelay.fires] ∧
      0 ∈ fired ((start 0).strides (EndlessDelay.moves.take 7)) := by
  have hlonger : EndlessDelay.long ≤ EndlessDelay.longest := by decide
  have hends : ¬Instant.Endless 0 0 EndlessDelay.long := fun h => absurd h.1 (by decide)
  have hends' : ¬Instant.Endless 3 2000000003 EndlessDelay.longest :=
    fun h => absurd h.2 (by decide)
  have hstands : ¬Instant.Outruns 0 EndlessDelay.long 3 2000000003 EndlessDelay.longest :=
    fun h => absurd h.2.2 (by decide)
  have hfired : 1 ∈ fired [EndlessDelay.fires] := by decide
  obtain ⟨-, -, hadded⟩ := longer_delays_fire_later 0 EndlessDelay.moves _ _ _ _ _
    EndlessDelay.cut rfl rfl hlonger
  obtain ⟨i, j, hi, hj, -, -, hfirst, -⟩ := hadded hends hends'
  have hone : j.id = 1 := (keyFor?_eq_some_iff.mp hj).2
  have hzero : i.id = 0 := (keyFor?_eq_some_iff.mp hi).2
  refine ⟨EndlessDelay.cut, hlonger, hends, hends', hstands, by decide, hfired, ?_⟩
  rw [← hzero]
  exact (hfirst hstands).2 _ _ _ EndlessDelay.cut_fires (hone ▸ hfired) (hzero ▸ by decide)

/-! ### A delay that outruns the stand-in -/

namespace Outrunning

def first : Stride String :=
  Machine.stride step (start 0) (.schedule EndlessDelay.long 0 "first") rfl

def second : Stride String :=
  Machine.stride step first.after (.schedule EndlessDelay.longest 0 "second") rfl

/-- Both delays pass, and both timers are fired. -/
def passing : List (Move String) :=
  [.enter, .pass EndlessDelay.long, .advance, .finish, .advance]

end Outrunning

/-- **A longer delay fires first**: the longest delay, which ends after thirty years, is over before
one of thirty years and a second that began at the same time. -/
theorem longer_delay_fires_first :
    (start 0).strides ([.schedule EndlessDelay.long 0 "first",
          .schedule EndlessDelay.longest 0 "second"] ++ Outrunning.passing) =
        Outrunning.first :: Outrunning.second ::
          Outrunning.second.after.strides Outrunning.passing ∧
      EndlessDelay.long ≤ EndlessDelay.longest ∧
      Outrunning.first.before.clock ≤ Outrunning.second.before.clock ∧
      Outrunning.first.before.keyFor? EndlessDelay.long 0 =
        some ⟨(0 : Instant) + EndlessDelay.long, 0⟩ ∧
      Outrunning.second.before.keyFor? EndlessDelay.longest 0 =
        some ⟨(0 : Instant) + Delay.standIn, 1⟩ ∧
      TimerKey.before ⟨(0 : Instant) + EndlessDelay.long, 0⟩ ⟨(0 : Instant) + Delay.standIn, 1⟩ =
        false ∧
      fired (Outrunning.first :: Outrunning.second ::
        Outrunning.second.after.strides Outrunning.passing) = [1, 0] :=
  ⟨rfl, by decide, by decide, by decide, by decide, by decide, by decide⟩

end Scheduler

end EventLoop
