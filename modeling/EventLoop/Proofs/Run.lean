import EventLoop.Proofs.Machine
import EventLoop.Reactor.Loop

/-!
Runs of a reactor. A loop is a machine whose moves come to a reply and to notes; what is known of
the runs of any machine is said here in the words of the loop.

* `Loop.Stride` is one move that was made: the loop before and after it, its reply and its notes.
* `Loop.strides` is the history of a run, the list of its strides, and `Loop.after` the loop that
  it ends in; `strides_append` cuts a history where the list of moves is cut, and
  `exists_moves_of_strides_eq` the other way round.
* `after_of_stride` turns what every stride keeps into what every run keeps, and `history_rec` does
  the same for what relates a loop to the whole history that led to it.
-/

namespace EventLoop.Loop

open Reactor (Note Role)

variable {ι : Type}

/-- One move that was made. -/
abbrev Stride (ι : Type) := Machine.Stride (@step ι)

abbrev Stride.reply (s : Stride ι) : Reply ι := s.result.1

abbrev Stride.notes (s : Stride ι) : List (Note ι) := s.result.2

lemma Stride.made (s : Stride ι) : s.before.step s.move = some (s.after, s.reply, s.notes) :=
  s.stepped

/-- The stride that a possible move makes. -/
abbrev stride (l : Loop ι) (m : Move ι) (h : (l.step m).isSome = true) : Stride ι :=
  Machine.stride step l m h

/-- The history of the run that makes the moves of a list. -/
abbrev strides (l : Loop ι) (ms : List (Move ι)) : List (Stride ι) := Machine.strides step l ms

/-- The loop that the run ends in. -/
abbrev after (l : Loop ι) (ms : List (Move ι)) : Loop ι := Machine.after step l ms

/-- What a choice finds among the notes of a history, in their order. -/
def noted {α : Type} (choose : Note ι → Option α) (history : List (Stride ι)) : List α :=
  Machine.told (fun result => result.2.filterMap choose) history

@[simp] lemma noted_nil {α : Type} (choose : Note ι → Option α) :
    noted choose ([] : List (Stride ι)) = [] := rfl

lemma noted_cons {α : Type} (choose : Note ι → Option α) (s : Stride ι)
    (history : List (Stride ι)) :
    noted choose (s :: history) = s.notes.filterMap choose ++ noted choose history :=
  Machine.told_cons _ _ _

lemma noted_concat {α : Type} (choose : Note ι → Option α) (history : List (Stride ι))
    (s : Stride ι) :
    noted choose (history ++ [s]) = noted choose history ++ s.notes.filterMap choose :=
  Machine.told_concat _ _ _

@[simp] lemma strides_nil (l : Loop ι) : l.strides [] = [] := rfl

@[simp] lemma after_nil (l : Loop ι) : l.after [] = l := rfl

lemma strides_cons_of_none {l : Loop ι} {m : Move ι} (h : l.step m = none) (ms : List (Move ι)) :
    l.strides (m :: ms) = l.strides ms :=
  Machine.strides_cons_of_none h ms

lemma after_cons_of_none {l : Loop ι} {m : Move ι} (h : l.step m = none) (ms : List (Move ι)) :
    l.after (m :: ms) = l.after ms :=
  Machine.after_cons_of_none h ms

lemma strides_cons_stride (s : Stride ι) (ms : List (Move ι)) :
    s.before.strides (s.move :: ms) = s :: s.after.strides ms :=
  Machine.strides_cons_stride s ms

lemma after_cons_stride (s : Stride ι) (ms : List (Move ι)) :
    s.before.after (s.move :: ms) = s.after.after ms :=
  Machine.after_cons_stride s ms

/-- A move is either passed over or makes a stride. -/
lemma step_eq_none_or_stride (l : Loop ι) (m : Move ι) :
    l.step m = none ∨ ∃ s : Stride ι, s.before = l ∧ s.move = m :=
  Machine.step_eq_none_or_stride step l m

lemma after_append (l : Loop ι) (ms ns : List (Move ι)) :
    l.after (ms ++ ns) = (l.after ms).after ns :=
  Machine.after_append l ms ns

lemma strides_append (l : Loop ι) (ms ns : List (Move ι)) :
    l.strides (ms ++ ns) = l.strides ms ++ (l.after ms).strides ns :=
  Machine.strides_append l ms ns

/-- The moves that are made are among those of the list. -/
lemma move_mem {l : Loop ι} {ms : List (Move ι)} {s : Stride ι} (h : s ∈ l.strides ms) :
    s.move ∈ ms :=
  Machine.move_mem h

/-- What relates a loop to its history holds at the end of every run, if it holds at the beginning
and every stride keeps it. -/
theorem history_rec {P : List (Stride ι) → Loop ι → Prop} {l : Loop ι} (base : P [] l)
    (next : ∀ past (s : Stride ι), P past s.before → P (past ++ [s]) s.after)
    (ms : List (Move ι)) : P (l.strides ms) (l.after ms) :=
  Machine.history_rec base next ms

/-- What every stride of a kind keeps is kept by every run that has strides of this kind only. -/
theorem after_of_stride {P : Loop ι → Prop} {Q : Stride ι → Prop}
    (next : ∀ s : Stride ι, Q s → P s.before → P s.after) {l : Loop ι} (hl : P l)
    {ms : List (Move ι)} (hq : ∀ s ∈ l.strides ms, Q s) : P (l.after ms) :=
  Machine.after_of_stride next hl hq

/-- A history can be cut anywhere: what stands before a stride is the history of a run that leads to
this stride, and what stands after it the history of a run from there. -/
theorem exists_moves_of_strides_eq {l : Loop ι} {ms : List (Move ι)} {past later : List (Stride ι)}
    {s : Stride ι} (h : l.strides ms = past ++ s :: later) :
    ∃ ms₁ ms₂, l.strides ms₁ = past ∧ l.after ms₁ = s.before ∧ s.after.strides ms₂ = later ∧
      s.after.after ms₂ = l.after ms :=
  Machine.exists_moves_of_strides_eq h

/-- Every stride of a run starts from where a run leads to. -/
lemma exists_after_eq_before {l : Loop ι} {ms : List (Move ι)} {s : Stride ι}
    (h : s ∈ l.strides ms) : ∃ ms', l.after ms' = s.before :=
  Machine.exists_after_eq_before h

/-- Every stride of a run leads to where a run leads to. -/
lemma exists_after_eq_after {l : Loop ι} {ms : List (Move ι)} {s : Stride ι}
    (h : s ∈ l.strides ms) : ∃ ms', l.after ms' = s.after :=
  Machine.exists_after_eq_after h

end EventLoop.Loop
