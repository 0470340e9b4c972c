import EventLoop.Proofs.Due

/-!
The events of one wait, and the callbacks that are added while they are handed out. An event is
routed by the token of a registration, and a registration keeps its token as long as one direction
of it is left; so an event from before reaches a callback that comes late through a registration
that was there all the time, and this can be one that outlived the file which the event is about.

* `Reactor.Known` says that every token that the kernel may report was drawn; `known_after` says
  that this is so at any time.
* `Stride.Collects` says that a move waits and brings events; `events_after_subset` says that the
  driver has no others until the next wait.
* `late_callback_starts_iff` is the main statement here: it says exactly when an event reaches a
  callback that was added after the wait.
* `event_of_closed_file_reaches_late_callback` shows that the number can have been closed and used
  again in between.
-/

namespace EventLoop

namespace Reactor

variable {ι : Type}

/-- The kernel watches under tokens that were drawn. -/
def Known (r : Reactor ι) : Prop := ∀ w ∈ r.kernel.watches, w.token < r.registry.nextToken

/-- Telling the kernel about a token that was drawn. -/
lemma Known.of_synced {r r' : Reactor ι} (h : Known r)
    (hfollows : r.registry.Follows r'.registry) {fd : Fd} {token : Token} {before after : Interest}
    (hsynced : Synced r.kernel fd token before after r'.kernel)
    (ht : token < r'.registry.nextToken) : Known r' := by
  intro w hw
  rcases hsynced.mem_or_token_eq w hw with hw | hw
  · exact Nat.lt_of_lt_of_le (h w hw) hfollows.nextToken
  · rwa [hw]

lemma Known.of_subset {r r' : Reactor ι} (h : Known r) (hfollows : r.registry.Follows r'.registry)
    (hsubset : r'.kernel.watches ⊆ r.kernel.watches) : Known r' := fun w hw =>
  Nat.lt_of_lt_of_le (h w (hsubset hw)) hfollows.nextToken

lemma Added.known {r r' : Reactor ι} {fd : Fd} {i : Interest} {callback : CallbackId} {b : Bool}
    (h : Added r fd i callback r' b) (hr : r.registry.Sound) (hk : Known r) : Known r' := by
  have hfollows := h.follows hr
  cases h with
  | refused _ => exact hk.of_subset hfollows (List.Subset.refl _)
  | added _ _ synced =>
      have htoken := (Registry.currentOrFresh_token hr fd).1
      exact hk.of_synced hfollows (synced_of_sync synced) htoken

lemma Removed.known {r r' : Reactor ι} {fd : Fd} {i : Interest} {b : Bool}
    (h : Removed r fd i r' b) (hr : r.registry.Sound) (hk : Known r) : Known r' := by
  have hfollows := h.follows hr
  cases h with
  | refused => exact hk
  | removed entry _ synced =>
      have htoken := Nat.lt_of_lt_of_le (hr.drawn fd _ entry) hfollows.nextToken
      exact hk.of_synced hfollows (synced_of_sync synced) htoken
  | gone _ _ _ _ _ => exact hk.of_subset hfollows (List.Subset.refl _)

lemma Requested.known {r r' : Reactor ι} {fd : Fd} {b : Bool} (h : Requested r fd r' b)
    (hr : r.registry.Sound) (hk : Known r) : Known r' := by
  have hfollows := h.follows hr
  cases h with
  | refused => exact hk
  | already _ _ _ => exact hk
  | armed entry _ _ synced =>
      have htoken := Nat.lt_of_lt_of_le (hr.drawn fd _ entry) hfollows.nextToken
      exact hk.of_synced hfollows (synced_of_sync synced) htoken

lemma Taken.known {r r' : Reactor ι} {fd : Fd} {current : Registration CallbackId}
    (h : Taken r fd current r') (entry : r.registry.get? fd = some current)
    (hr : r.registry.Sound) (hk : Known r) : Known r' := by
  have hfollows := h.follows entry hr
  cases h with
  | told synced =>
      have htoken := Nat.lt_of_lt_of_le (hr.drawn fd _ entry) hfollows.nextToken
      exact hk.of_synced hfollows (synced_of_sync synced) htoken
  | untold _ => exact hk.of_subset hfollows (List.Subset.refl _)

end Reactor

namespace Loop

open Reactor (Direction Note)

variable {ι : Type}

lemma Change.known {l : Loop ι} {m : Move ι} {reply : Reply ι} {r : Reactor ι}
    (h : Change l m reply r) (hl : l.reactor.registry.Sound) (hk : l.reactor.Known) :
    r.Known := by
  cases h with
  | add fd i => exact (l.reactor.added fd i l.nextCallback).known hl hk
  | remove fd i => exact (l.reactor.removed fd i).known hl hk
  | requestWrite fd => exact (l.reactor.requested fd).known hl hk
  | takeWrite found armed handler =>
      have entry := (hl.resolve_eq_found.mp found).1
      exact (l.reactor.taken _ armed handler).known entry hl hk
  | file acted => exact hk.of_subset hl.follows (Kernel.act_watches_subset acted)
  | breakWatching => exact hk
  | same _ registrations =>
      intro w hw
      rw [registrations.watching.watches] at hw
      rw [registrations.registry]
      exact hk w hw

lemma known_after (limit : Option Nat) (capacity : Nat) (ms : List (Move ι)) :
    ((start (.boot limit) capacity).after ms).reactor.Known := by
  refine history_rec_of_sound (P := fun _ l => l.reactor.Known) Registry.sound_empty ?_ ?_ ms
  · intro w hw
    cases hw
  · intro past s hs hk
    exact s.change.known hs hk

/-! ### One wait and what comes of it -/

/-- The driver waits, and the wait brings events. -/
def Stride.Collects (s : Stride ι) (events : List Event) : Prop :=
  s.Waits ∧
    (s.after.stage = .dispatching events ∨ ∃ pending, s.after.stage = .waking pending events)

/-- Until the next wait the driver has no other events than those of the last one. -/
lemma Stride.events_suffix {s : Stride ι} (h : ¬s.Waits) :
    s.after.stage.events <:+ s.before.stage.events := by
  by_cases hm : s.move = .advance
  · exact (s.advance hm).2.events fun hs => h ⟨hm, hs⟩
  · rcases (s.aside hm).stage with hs | ⟨-, hs⟩ | ⟨-, -, hs⟩
    · rw [hs]
    · simp [hs, Stage.events]
    · simp [hs, Stage.events]

lemma events_after_subset {l : Loop ι} {ms : List (Move ι)} (h : ∀ s ∈ l.strides ms, ¬s.Waits) :
    (l.after ms).stage.events ⊆ l.stage.events :=
  after_of_stride (P := fun l' => l'.stage.events ⊆ l.stage.events) (Q := fun s => ¬s.Waits)
    (fun _ hs ih => List.Subset.trans (Stride.events_suffix hs).subset ih) (List.Subset.refl _) h

/-- The events of a wait are about tokens that were drawn before. -/
lemma Advance.token_lt {l l' : Loop ι} {notes : List (Note ι)} (h : Advance l l' notes)
    (hs : l.stage = .head) (hk : l.reactor.Known) :
    ∀ e ∈ l'.stage.events, e.token < l'.reactor.registry.nextToken := by
  intro e he
  rcases h.of_head hs with ⟨-, hstage⟩ | ⟨k, batch, -, poll, ⟨-, rfl⟩ | ⟨-, rfl⟩⟩
  · rw [hstage] at he
    cases he
  · obtain ⟨w, hw, ht⟩ := (Kernel.poll_ok poll).2 e he
    exact ht ▸ hk w hw
  · obtain ⟨w, hw, ht⟩ := (Kernel.poll_ok poll).2 e he
    exact ht ▸ hk w hw

lemma Stride.Collects.events {s : Stride ι} {events : List Event} (h : s.Collects events) :
    s.after.stage.events = events := by
  rcases h.2 with hs | ⟨pending, hs⟩ <;> simp [hs, Stage.events]

section Late

variable {limit : Option Nat} {capacity : Nat} {ms : List (Move ι)}
  {past middle later : List (Stride ι)} {wait s added : Stride ι} {fd : Fd} {d d' : Direction}
  {callback : CallbackId} {t : Token}

/-- What is started for readiness up to the next wait is started for an event of the last one. -/
lemma Stride.Starts.exists_event
    (cut : (start (.boot limit) capacity).strides ms = past ++ wait :: (middle ++ s :: later))
    (same : ∀ q ∈ middle, ¬q.Waits) (starts : s.Starts callback (.readiness t d)) :
    ∃ e ∈ wait.after.stage.events, e.token = t := by
  obtain ⟨-, ms₂, -, -, hrest, -⟩ := exists_moves_of_strides_eq cut
  obtain ⟨ms₃, -, hmiddle, hs, -⟩ := exists_moves_of_strides_eq hrest
  obtain ⟨-, hidle, hadvance, hactive⟩ := starts.advance
  obtain ⟨⟨e, he, ht⟩, -⟩ := hadvance.readiness hidle hactive
  rw [← hs] at he
  exact ⟨e, events_after_subset (hmiddle ▸ same) he, ht⟩

/-- The registration that a late callback is taken from had its token in its place ever since the
wait. -/
lemma Stride.Starts.entry_lasts
    (cut : (start (.boot limit) capacity).strides ms = past ++ wait :: (middle ++ s :: later))
    (waits : wait.Waits) (same : ∀ q ∈ middle, ¬q.Waits) (late : added ∈ middle)
    (adds : added.Adds fd d callback) (starts : s.Starts callback (.readiness t d')) :
    (∃ current, s.before.reactor.registry.get? fd = some current ∧ current.token = t) ∧
      ∀ q ∈ wait :: middle, ∃ current,
        q.after.reactor.registry.get? fd = some current ∧ current.token = t := by
  obtain ⟨ms₁, ms₂, -, hbefore, hrest, -⟩ := exists_moves_of_strides_eq cut
  obtain ⟨ms₃, -, hmiddle, hs, -⟩ := exists_moves_of_strides_eq hrest
  -- the registration that the callback is taken from is the one of its descriptor
  have hcut : (start (.boot limit) capacity).strides ms =
      (past ++ wait :: middle) ++ s :: later := by
    rw [cut, List.append_assoc, List.cons_append]
  obtain ⟨x, hentry, -, hregistered⟩ := starts.registered hcut
  have hpast : past ++ wait :: middle ⊆ (start (.boot limit) capacity).strides ms := by
    rw [hcut]
    exact List.subset_append_left _ _
  have hadded : added ∈ (start (.boot limit) capacity).strides ms := by rw [cut]; simp [late]
  obtain rfl := hregistered.fd_eq hpast hadded adds
  refine ⟨hentry, ?_⟩
  obtain ⟨current, hc, hcurrent⟩ := hentry
  -- its token was drawn before the wait, so it was nowhere else in between
  have hknown := known_after (ι := ι) limit capacity ms₁
  have hsound := sound_after (ι := ι) (.boot limit) capacity ms₁
  rw [hbefore] at hknown hsound
  have hwait := (wait.change.follows hsound).sound
  have ht : t < wait.after.reactor.registry.nextToken := by
    obtain ⟨e, he, rfl⟩ := starts.exists_event cut same
    exact (wait.advance waits.1).2.token_lt waits.2 hknown e he
  rw [← hs] at hc
  rw [← hcurrent] at ht ⊢
  obtain ⟨hfirst, hbetween⟩ := exists_entry_of_drawn hwait hc ht
  intro q hq
  rcases List.mem_cons.mp hq with rfl | hq
  · exact hfirst
  · exact hbetween q (hmiddle ▸ hq)

/-- A stride starts where the stride before it ends. -/
lemma before_eq_of_strides_eq {l : Loop ι} {q : Stride ι}
    (cut : l.strides ms = past ++ q :: s :: later) : s.before = q.after := by
  rw [show past ++ q :: s :: later = (past ++ [q]) ++ s :: later by simp] at cut
  obtain ⟨ms₁, -, hpast, hbefore, -⟩ := exists_moves_of_strides_eq cut
  rw [← hbefore]
  exact Machine.after_eq_of_strides_eq_concat hpast

end Late

/-- **When an event reaches a callback that was added after the wait.** Up to the next wait, the
callback is started for readiness exactly when half of an event of the wait is handed out, the
descriptor has had a registration with the token of this event ever since the wait, after every
single move, and the callback is the one of this registration in this direction, for writing while
it is armed. Whether the descriptor stood for the same file all the time makes no difference. -/
theorem late_callback_starts_iff (limit : Option Nat) (capacity : Nat) (ms : List (Move ι))
    (past middle later : List (Stride ι)) (wait s added : Stride ι) (events : List Event) (fd : Fd)
    (d d' : Direction) (callback : CallbackId) (t : Token)
    (cut : (start (.boot limit) capacity).strides ms = past ++ wait :: (middle ++ s :: later))
    (collects : wait.Collects events) (same : ∀ q ∈ middle, ¬q.Waits) (late : added ∈ middle)
    (adds : added.Adds fd d callback) :
    s.Starts callback (.readiness t d') ↔
      (s.move = .advance ∧ s.before.stage.nextHalf? = some (t, d') ∧ ∃ e ∈ events, e.token = t) ∧
      (∀ q ∈ wait :: middle, ∃ current,
        q.after.reactor.registry.get? fd = some current ∧ current.token = t) ∧
      ∃ current, s.before.reactor.registry.get? fd = some current ∧
        current.callee d' = some callback := by
  obtain ⟨ms', -, -, hbefore, -⟩ := exists_moves_of_strides_eq
    (show (start (.boot limit) capacity).strides ms = (past ++ wait :: middle) ++ s :: later by
      rw [cut, List.append_assoc, List.cons_append])
  have hsound : s.before.reactor.registry.Sound := hbefore ▸ sound_after (.boot limit) capacity ms'
  constructor
  · intro starts
    obtain ⟨hmove, hidle, hadvance, hactive⟩ := starts.advance
    obtain ⟨hhalf, hcallback⟩ := (hadvance.active_iff hidle).mp hactive
    have hevent := starts.exists_event cut same
    rw [collects.events] at hevent
    obtain ⟨⟨current, hc, rfl⟩, hlasts⟩ := starts.entry_lasts cut collects.1 same late adds
    rw [Reactor.callbackOf_of_entry hsound hc] at hcallback
    exact ⟨⟨hmove, hhalf, hevent⟩, hlasts, current, hc, hcallback⟩
  · rintro ⟨⟨hmove, hhalf, -⟩, hlasts, current, hc, hcallee⟩
    -- the last move before this one left the registration with the token of the event
    obtain ⟨init, q, rfl⟩ : ∃ init q, middle = init ++ [q] :=
      ⟨_, _, (List.dropLast_append_getLast (List.ne_nil_of_mem late)).symm⟩
    have hq : s.before = q.after := by
      have hcut : (start (.boot limit) capacity).strides ms =
          (past ++ wait :: init) ++ q :: s :: later := by
        rw [cut]
        simp
      exact before_eq_of_strides_eq hcut
    obtain ⟨current', hc', rfl⟩ := hlasts q (by simp)
    rw [← hq, hc, Option.some.injEq] at hc'
    subst hc'
    obtain ⟨hidle, hadvance⟩ := s.advance hmove
    refine (started_mem_iff_of_advance hadvance hidle callback _).mpr ?_
    refine (hadvance.active_iff hidle).mpr ⟨hhalf, ?_⟩
    rwa [Reactor.callbackOf_of_entry hsound hc]

/-! ### An event of a file that was closed

Two descriptors are readable, and the read callback of the first one replaces the second: it removes
the read callback of the number, closes it, opens another file under it and adds a read callback.
The write callback of the number, which has been called and is not armed, is left.
-/

namespace Reusing

/-- The write callback of the second descriptor has been called, and both are readable. -/
def begin : List (Move Unit) :=
  [.file (.pair 100 101), .file (.pair 102 103), .add 100 .readOnly, .add 102 .readOnly,
    .file (.write 101 [120]), .add 102 .writeOnly, .enter, .advance, .advance, .finish, .advance,
    .advance, .advance, .finish, .advance, .file (.write 103 [121])]

/-- The first read callback is started, reuses the number of the second descriptor and ends. -/
def middle : List (Move Unit) :=
  [.advance, .remove 102 .readOnly, .file (.close 102), .file (.pair 102 104), .add 102 .readOnly,
    .finish, .advance]

/-- The wait that brings both events. -/
def wait : Stride Unit := stride ((start (.boot none) 64).after begin) .advance rfl

def starts : Stride Unit := stride wait.after .advance rfl

def removes : Stride Unit := stride starts.after (.remove 102 .readOnly) rfl

def closes : Stride Unit := stride removes.after (.file (.close 102)) rfl

def opens : Stride Unit := stride closes.after (.file (.pair 102 104)) rfl

def adds : Stride Unit := stride opens.after (.add 102 .readOnly) rfl

def ends : Stride Unit := stride adds.after .finish rfl

/-- Nobody waits for the second half of the first event. -/
def passes : Stride Unit := stride ends.after .advance rfl

/-- The first half of the second event. -/
def next : Stride Unit := stride passes.after .advance rfl

lemma cut : (start (.boot none) 64).strides (begin ++ .advance :: (middle ++ [.advance])) =
    (start (.boot none) 64).strides begin ++
      wait :: ([starts, removes, closes, opens, adds, ends, passes] ++ next :: []) := rfl

lemma collects : wait.Collects [⟨0, true, false⟩, ⟨1, true, false⟩] := ⟨⟨rfl, rfl⟩, .inl rfl⟩

lemma same : ∀ q ∈ [starts, removes, closes, opens, adds, ends, passes], ¬q.Waits := by
  simp only [List.forall_mem_cons]
  refine ⟨?_, ?_, ?_, ?_, ?_, ?_, ?_, ?_⟩
  · exact fun h => absurd h.2 (by decide)
  · exact fun h => nomatch h.1
  · exact fun h => nomatch h.1
  · exact fun h => nomatch h.1
  · exact fun h => nomatch h.1
  · exact fun h => nomatch h.1
  · exact fun h => absurd h.2 (by decide)
  · exact fun _ h => nomatch h

lemma adds_adds : adds.Adds 102 .reading 3 := ⟨.readOnly, rfl, rfl, rfl, rfl⟩

lemma next_starts : next.Starts 3 (.readiness 1 .reading) := List.mem_singleton.mpr rfl

end Reusing

/-- The event of the file that was closed reaches the callback of the file that was opened under its
number, through the registration that the write callback kept. -/
theorem late_callback_starts_iff_reused :
    (start (.boot none) 64).strides
        (Reusing.begin ++ .advance :: (Reusing.middle ++ [.advance])) =
      (start (.boot none) 64).strides Reusing.begin ++ Reusing.wait ::
        ([Reusing.starts, Reusing.removes, Reusing.closes, Reusing.opens, Reusing.adds,
          Reusing.ends, Reusing.passes] ++ Reusing.next :: []) ∧
      Reusing.wait.Collects [⟨0, true, false⟩, ⟨1, true, false⟩] ∧
      (∀ q ∈ [Reusing.starts, Reusing.removes, Reusing.closes, Reusing.opens, Reusing.adds,
        Reusing.ends, Reusing.passes], ¬q.Waits) ∧
      Reusing.adds.Adds 102 .reading 3 ∧ Reusing.next.Starts 3 (.readiness 1 .reading) ∧
      ∀ q ∈ [Reusing.wait, Reusing.starts, Reusing.removes, Reusing.closes, Reusing.opens,
          Reusing.adds, Reusing.ends, Reusing.passes],
        ∃ current, q.after.reactor.registry.get? 102 = some current ∧ current.token = 1 := by
  refine ⟨Reusing.cut, Reusing.collects, Reusing.same, Reusing.adds_adds, Reusing.next_starts, ?_⟩
  exact ((late_callback_starts_iff none 64 _ _ _ _ _ _ _ _ _ _ _ _ _ Reusing.cut Reusing.collects
    Reusing.same (by simp) Reusing.adds_adds).mp Reusing.next_starts).2.1

/-- It is not so that no event ever reaches a callback that was added after its wait, not even if
the number was closed in between. -/
theorem event_of_closed_file_reaches_late_callback :
    ¬∀ (limit : Option Nat) (capacity : Nat) (ms : List (Move Unit))
        (past first second third later : List (Stride Unit)) (wait closes added s : Stride Unit)
        (events : List Event) (fd : Fd) (d d' : Direction) (callback : CallbackId) (t : Token),
      (start (.boot limit) capacity).strides ms =
        past ++ wait :: (first ++ closes :: (second ++ added :: (third ++ s :: later))) →
      wait.Collects events →
      (∀ q ∈ first ++ closes :: (second ++ added :: third), ¬q.Waits) →
      closes.move = .file (.close fd) → added.Adds fd d callback →
      ¬s.Starts callback (.readiness t d') := by
  intro h
  exact h none 64 _ _ [Reusing.starts, Reusing.removes] [Reusing.opens]
    [Reusing.ends, Reusing.passes] [] _ _ _ _ _ _ _ _ _ _ Reusing.cut Reusing.collects
    Reusing.same rfl Reusing.adds_adds Reusing.next_starts

end Loop

end EventLoop
