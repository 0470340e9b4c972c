import Mathlib.Data.List.Induction
import Mathlib.Tactic.Lemma

/-!
Runs of anything that makes moves. A list of moves is made one after the other, and a move that is
impossible when its turn comes is passed over; so every list of moves is a run.

* `Machine.Stride` is one move that was made, with the states before and after it and what came of
  it; where that is notes only, `Machine.Stride.notes`.
* `Machine.strides` is the history of a run, the list of its strides, and `Machine.after` the state
  that it ends in; `strides_append` cuts a history where the list of moves is cut, and
  `exists_moves_of_strides_eq` the other way round.
* `history_rec` turns what every stride keeps of a state and the history that led to it into what
  every run keeps; `history_rec_of_mem` does so for runs that make certain moves only, and
  `after_of_stride` for what strides of a kind keep.
* `told` gathers what came of the moves of a history, and `noted` what they noted.
-/

namespace EventLoop.Machine

variable {σ μ ρ : Type} {step : σ → μ → Option (σ × ρ)}

/-- One move that was made. -/
structure Stride (step : σ → μ → Option (σ × ρ)) where
  before : σ
  move : μ
  result : ρ
  after : σ
  stepped : step before move = some (after, result)

/-- The stride that a possible move makes. -/
def stride (step : σ → μ → Option (σ × ρ)) (s : σ) (m : μ) (h : (step s m).isSome = true) :
    Stride step where
  before := s
  move := m
  result := ((step s m).get h).2
  after := ((step s m).get h).1
  stepped := (Option.some_get h).symm

/-- The history of the run that makes the moves of a list. -/
def strides (step : σ → μ → Option (σ × ρ)) (s : σ) : List μ → List (Stride step)
  | [] => []
  | m :: ms =>
    match h : step s m with
    | none => strides step s ms
    | some (s', result) => ⟨s, m, result, s', h⟩ :: strides step s' ms

/-- The state that the run ends in. -/
def after (step : σ → μ → Option (σ × ρ)) (s : σ) : List μ → σ
  | [] => s
  | m :: ms =>
    match step s m with
    | none => after step s ms
    | some (s', _) => after step s' ms

@[simp] lemma strides_nil (s : σ) : strides step s [] = [] := rfl

@[simp] lemma after_nil (s : σ) : after step s [] = s := rfl

lemma strides_cons_of_none {s : σ} {m : μ} (h : step s m = none) (ms : List μ) :
    strides step s (m :: ms) = strides step s ms := by
  rw [strides]
  split
  · rfl
  · simp_all

lemma after_cons_of_none {s : σ} {m : μ} (h : step s m = none) (ms : List μ) :
    after step s (m :: ms) = after step s ms := by
  rw [after, h]

lemma strides_cons_stride (s : Stride step) (ms : List μ) :
    strides step s.before (s.move :: ms) = s :: strides step s.after ms := by
  rw [strides]
  have hs := s.stepped
  split
  · simp_all
  · next s' result h =>
      rw [h, Option.some.injEq, Prod.mk.injEq] at hs
      obtain ⟨rfl, rfl⟩ := hs
      rfl

lemma after_cons_stride (s : Stride step) (ms : List μ) :
    after step s.before (s.move :: ms) = after step s.after ms := by
  rw [after, s.stepped]

/-- A move is either passed over or makes a stride. -/
lemma step_eq_none_or_stride (step : σ → μ → Option (σ × ρ)) (s : σ) (m : μ) :
    step s m = none ∨ ∃ t : Stride step, t.before = s ∧ t.move = m := by
  cases h : step s m with
  | none => exact .inl rfl
  | some made => exact .inr ⟨stride step s m (by rw [h]; rfl), rfl, rfl⟩

lemma after_append (s : σ) (ms ns : List μ) :
    after step s (ms ++ ns) = after step (after step s ms) ns := by
  induction ms generalizing s with
  | nil => rfl
  | cons m ms ih =>
      rcases step_eq_none_or_stride step s m with h | ⟨t, rfl, rfl⟩
      · rw [List.cons_append, after_cons_of_none h, after_cons_of_none h, ih]
      · rw [List.cons_append, after_cons_stride, after_cons_stride, ih]

lemma strides_append (s : σ) (ms ns : List μ) :
    strides step s (ms ++ ns) = strides step s ms ++ strides step (after step s ms) ns := by
  induction ms generalizing s with
  | nil => rfl
  | cons m ms ih =>
      rcases step_eq_none_or_stride step s m with h | ⟨t, rfl, rfl⟩
      · rw [List.cons_append, strides_cons_of_none h, strides_cons_of_none h,
          after_cons_of_none h, ih]
      · rw [List.cons_append, strides_cons_stride, strides_cons_stride, after_cons_stride, ih,
          List.cons_append]

/-- The moves that are made are among those of the list. -/
lemma move_mem {s : σ} {ms : List μ} {t : Stride step} (h : t ∈ strides step s ms) :
    t.move ∈ ms := by
  induction ms generalizing s with
  | nil => cases h
  | cons m ms ih =>
      rcases step_eq_none_or_stride step s m with hm | ⟨u, rfl, rfl⟩
      · rw [strides_cons_of_none hm] at h
        exact List.mem_cons_of_mem _ (ih h)
      · rw [strides_cons_stride] at h
        rcases List.mem_cons.mp h with rfl | h
        · exact List.mem_cons_self ..
        · exact List.mem_cons_of_mem _ (ih h)

/-- The last move of a run is passed over or makes the last stride. -/
lemma strides_concat (step : σ → μ → Option (σ × ρ)) (s : σ) (ms : List μ) (m : μ) :
    (strides step s (ms ++ [m]) = strides step s ms ∧
        after step s (ms ++ [m]) = after step s ms) ∨
      ∃ t : Stride step, t.before = after step s ms ∧
        strides step s (ms ++ [m]) = strides step s ms ++ [t] ∧
        after step s (ms ++ [m]) = t.after := by
  rw [strides_append, after_append]
  rcases step_eq_none_or_stride step (after step s ms) m with h | ⟨t, ht, rfl⟩
  · left
    rw [strides_cons_of_none h, after_cons_of_none h]
    simp
  · right
    refine ⟨t, ht, ?_, ?_⟩
    · rw [← ht, strides_cons_stride, strides_nil]
    · rw [← ht, after_cons_stride, after_nil]

/-- What relates a state to its history holds at the end of every run, if it holds at the beginning
and every stride keeps it. -/
theorem history_rec {P : List (Stride step) → σ → Prop} {s : σ} (base : P [] s)
    (next : ∀ past (t : Stride step), P past t.before → P (past ++ [t]) t.after)
    (ms : List μ) : P (strides step s ms) (after step s ms) := by
  induction ms using List.reverseRecOn with
  | nil => exact base
  | append_singleton ms m ih =>
      rcases strides_concat step s ms m with ⟨hs, ha⟩ | ⟨t, hb, hs, ha⟩
      · rw [hs, ha]
        exact ih
      · rw [hs, ha]
        exact next _ t (hb ▸ ih)

/-- The same for what only some moves keep, if the run makes no others. -/
theorem history_rec_of_mem {P : List (Stride step) → σ → Prop} {s : σ} {ms : List μ} (base : P [] s)
    (next : ∀ past (t : Stride step), t.move ∈ ms → P past t.before → P (past ++ [t]) t.after) :
    P (strides step s ms) (after step s ms) := by
  have hall : (∀ t ∈ strides step s ms, t.move ∈ ms) → P (strides step s ms) (after step s ms) := by
    refine history_rec (P := fun past s' => (∀ t ∈ past, t.move ∈ ms) → P past s')
      (fun _ => base) ?_ ms
    intro past t hpast hmoves
    exact next past t (hmoves t (by simp)) (hpast fun u hu => hmoves u (List.mem_append_left _ hu))
  exact hall fun _ => move_mem

/-- What every stride of a kind keeps is kept by every run that has strides of this kind only. -/
theorem after_of_stride {P : σ → Prop} {Q : Stride step → Prop}
    (next : ∀ t : Stride step, Q t → P t.before → P t.after) {s : σ} (hs : P s) {ms : List μ}
    (hq : ∀ t ∈ strides step s ms, Q t) : P (after step s ms) :=
  history_rec (P := fun past s => (∀ t ∈ past, Q t) → P s) (fun _ => hs)
    (fun _ t ih h => next t (h t (by simp)) (ih fun u hu => h u (by simp [hu]))) ms hq

/-- A history can be cut anywhere: what stands before a stride is the history of a run that leads to
this stride, and what stands after it the history of a run from there. -/
theorem exists_moves_of_strides_eq {s : σ} {ms : List μ} {past later : List (Stride step)}
    {t : Stride step} (h : strides step s ms = past ++ t :: later) :
    ∃ ms₁ ms₂, strides step s ms₁ = past ∧ after step s ms₁ = t.before ∧
      strides step t.after ms₂ = later ∧ after step t.after ms₂ = after step s ms := by
  induction ms generalizing s past with
  | nil => simp at h
  | cons m ms ih =>
      rcases step_eq_none_or_stride step s m with hm | ⟨u, rfl, rfl⟩
      · rw [strides_cons_of_none hm] at h
        rw [after_cons_of_none hm]
        exact ih h
      · rw [strides_cons_stride] at h
        rw [after_cons_stride]
        cases past with
        | nil =>
            obtain ⟨rfl, rfl⟩ := List.cons.inj h
            exact ⟨[], ms, rfl, rfl, rfl, rfl⟩
        | cons u' past =>
            obtain ⟨rfl, htail⟩ := List.cons.inj h
            obtain ⟨ms₁, ms₂, h₁, h₂, h₃, h₄⟩ := ih htail
            refine ⟨u.move :: ms₁, ms₂, ?_, ?_, h₃, h₄⟩
            · rw [strides_cons_stride, h₁]
            · rw [after_cons_stride, h₂]

/-- Every stride of a run starts from where a run leads to. -/
lemma exists_after_eq_before {s : σ} {ms : List μ} {t : Stride step} (h : t ∈ strides step s ms) :
    ∃ ms', after step s ms' = t.before := by
  obtain ⟨past, later, hcut⟩ := List.append_of_mem h
  obtain ⟨ms', -, -, ht, -⟩ := exists_moves_of_strides_eq hcut
  exact ⟨ms', ht⟩

/-- Every stride of a run leads to where a run leads to. -/
lemma exists_after_eq_after {s : σ} {ms : List μ} {t : Stride step} (h : t ∈ strides step s ms) :
    ∃ ms', after step s ms' = t.after := by
  obtain ⟨ms', ht⟩ := exists_after_eq_before h
  exact ⟨ms' ++ [t.move], by rw [after_append, ht, after_cons_stride, after_nil]⟩

/-- A run ends where its last stride ends. -/
lemma after_eq_of_strides_eq_concat {s : σ} {ms : List μ} {past : List (Stride step)}
    {t : Stride step} (h : strides step s ms = past ++ [t]) : after step s ms = t.after := by
  refine history_rec (P := fun history s' => ∀ past t, history = past ++ [t] → s' = t.after)
    (fun _ _ hnil => by simp at hnil) ?_ ms past t h
  intro past u _ past' t' hcut
  obtain ⟨-, hlast⟩ := List.append_inj' hcut rfl
  rw [(List.cons.inj hlast).1]

/-! ### What came of the moves -/

/-- What a choice makes of the results of a history, in their order. -/
def told {α : Type} (choose : ρ → List α) (history : List (Stride step)) : List α :=
  history.flatMap fun t => choose t.result

@[simp] lemma told_nil {α : Type} (choose : ρ → List α) :
    told choose ([] : List (Stride step)) = [] := rfl

lemma told_cons {α : Type} (choose : ρ → List α) (t : Stride step) (history : List (Stride step)) :
    told choose (t :: history) = choose t.result ++ told choose history :=
  List.flatMap_cons ..

lemma told_append {α : Type} (choose : ρ → List α) (history history' : List (Stride step)) :
    told choose (history ++ history') = told choose history ++ told choose history' :=
  List.flatMap_append

lemma told_concat {α : Type} (choose : ρ → List α) (history : List (Stride step))
    (t : Stride step) : told choose (history ++ [t]) = told choose history ++ choose t.result := by
  rw [told_append, told, told, List.flatMap_singleton]

section Notes

variable {ν : Type} {step : σ → μ → Option (σ × List ν)}

/-- What a move notes, where nothing else comes of it. -/
abbrev Stride.notes (t : Stride step) : List ν := t.result

lemma Stride.made (t : Stride step) : step t.before t.move = some (t.after, t.notes) := t.stepped

/-- What a choice finds among the notes of a history, in their order. -/
def noted {α : Type} (choose : ν → Option α) (history : List (Stride step)) : List α :=
  told (List.filterMap choose) history

@[simp] lemma noted_nil {α : Type} (choose : ν → Option α) :
    noted choose ([] : List (Stride step)) = [] := rfl

lemma noted_cons {α : Type} (choose : ν → Option α) (t : Stride step)
    (history : List (Stride step)) :
    noted choose (t :: history) = t.notes.filterMap choose ++ noted choose history :=
  told_cons _ _ _

lemma noted_append {α : Type} (choose : ν → Option α) (history history' : List (Stride step)) :
    noted choose (history ++ history') = noted choose history ++ noted choose history' :=
  told_append _ _ _

lemma noted_concat {α : Type} (choose : ν → Option α) (history : List (Stride step))
    (t : Stride step) :
    noted choose (history ++ [t]) = noted choose history ++ t.notes.filterMap choose :=
  told_concat _ _ _

end Notes

end EventLoop.Machine
