import EventLoop.Proofs.Attention
import EventLoop.Proofs.Wakeups

/-!
No wakeup gets lost. As long as there is something in the queue, the counter that wakes the driver
is raised, so that the next wait cannot block: whoever queues a wakeup raises the counter
afterwards, and the driver, when it drains the counter, takes the whole queue.

* `Passage.heard` says that no move breaks this, and `Passage.drained` which moves drain the
  counter.
* `no_wakeup_is_lost` is the main statement here.
-/

namespace EventLoop.Loop

variable {ι : Type}

/-- A counter that can be raised is raised as long as something is queued. -/
def Heard (l : Loop ι) : Prop :=
  l.reactor.kernel.wakeup.writable = true → l.reactor.wakeups ≠ [] →
    l.reactor.kernel.wakeup.isRaised = true

lemma Passage.heard {l l' : Loop ι} {m : Move ι} {accepted : List Wakeup}
    {called dropped : List CallbackId} (h : Passage l m l' accepted called dropped)
    (hl : l.Heard) : l'.Heard := by
  have hkept (queue : l'.reactor.wakeups = l.reactor.wakeups)
      (counter : l'.reactor.kernel.wakeup = l.reactor.kernel.wakeup) : l'.Heard := by
    rw [Heard, queue, counter]
    exact hl
  have hempty (queue : l'.reactor.wakeups = []) : l'.Heard := fun _ hne => absurd queue hne
  cases h with
  | rests queue _ counter => exact hkept queue counter
  | nudges _ _ heard => exact fun hwritable _ => heard hwritable
  | accepts _ _ _ heard _ => exact fun hwritable _ => heard hwritable
  | stops _ queue _ _ => exact hempty queue
  | takes _ _ queue _ => exact hempty queue
  | works _ queue _ counter => exact hkept queue counter
  | discards _ queue _ counter => exact hkept queue counter
  | loses _ queue _ counter => exact hkept queue counter
  | breaks _ _ broken =>
      intro hwritable
      rw [broken] at hwritable
      cases hwritable

lemma heard_after (kernel : Kernel) (capacity : Nat) (ms : List (Move ι)) :
    ((start kernel capacity).after ms : Loop ι).Heard :=
  history_rec (P := fun _ l => l.Heard) (fun _ hne => absurd rfl hne)
    (fun _ s h => s.passage.heard h) ms

/-- The counter is drained by a wait only, and this wait takes the whole queue. -/
lemma Passage.drained {l l' : Loop ι} {m : Move ι} {accepted : List Wakeup}
    {called dropped : List CallbackId} (h : Passage l m l' accepted called dropped)
    (hraised : l.reactor.kernel.wakeup.isRaised = true)
    (hdrained : l'.reactor.kernel.wakeup.isRaised = false)
    (hwritable : l'.reactor.kernel.wakeup.writable = true) :
    (m = .advance ∧ l.stage = .head) ∧ l'.reactor.wakeups = [] ∧
      l'.stage.unworked = l.reactor.wakeups := by
  have hkept (counter : l'.reactor.kernel.wakeup = l.reactor.kernel.wakeup) : False := by
    rw [counter, hraised] at hdrained
    cases hdrained
  have hheard (heard : l'.reactor.kernel.wakeup.writable = true →
      l'.reactor.kernel.wakeup.isRaised = true) : False := by
    rw [heard hwritable] at hdrained
    cases hdrained
  cases h with
  | rests _ _ counter => exact (hkept counter).elim
  | nudges _ _ heard => exact (hheard heard).elim
  | accepts _ _ _ heard _ => exact (hheard heard).elim
  | stops _ _ _ heard => exact (hheard heard).elim
  | takes waits _ queue hand => exact ⟨waits, queue, hand⟩
  | works _ _ _ counter => exact (hkept counter).elim
  | discards _ _ _ counter => exact (hkept counter).elim
  | loses _ _ _ counter => exact (hkept counter).elim
  | breaks _ _ broken =>
      rw [broken] at hwritable
      cases hwritable

/-- What a wait makes of the counter and the queue. -/
lemma Advance.waited {l l' : Loop ι} {notes : List (Reactor.Note ι)} (h : Advance l l' notes)
    (hs : l.stage = .head) (hl : l.reactor.stopped = false) {k : Kernel} {batch : Batch}
    (hp : l.reactor.kernel.poll l.reactor.capacity = .ok (k, batch)) :
    (batch.woken = false → l'.reactor.kernel.wakeup = l.reactor.kernel.wakeup ∧
      l'.reactor.wakeups = l.reactor.wakeups) ∧
    (batch.woken = true → l'.reactor.kernel.wakeup.isRaised = false ∧
      l'.reactor.wakeups = [] ∧ l'.stage = .waking l.reactor.wakeups batch.events) := by
  have hcounter := Kernel.poll_wakeup hp
  rcases h.of_head hs with ⟨hstopped | ⟨e, he⟩, -⟩ | ⟨k', batch', -, hp', hcases⟩
  · rw [hl] at hstopped
    cases hstopped
  · rw [hp] at he
    cases he
  · rw [hp] at hp'
    cases hp'
    rcases hcases with ⟨hwoken, rfl⟩ | ⟨hwoken, rfl⟩
    · rw [if_pos hwoken] at hcounter
      refine ⟨fun h => by simp [hwoken] at h, fun _ => ⟨?_, rfl, rfl⟩⟩
      show k.wakeup.isRaised = false
      rw [hcounter, Counter.isRaised_drain]
    · rw [if_neg (by simp [hwoken])] at hcounter
      exact ⟨fun _ => ⟨hcounter, rfl⟩, fun h => by simp [hwoken] at h⟩

/-- **No wakeup is lost.** At any time, in a run of the driver or outside of it, as long as the
counter can be raised: if something is queued, the counter is raised, and a wait for events would
not block. A wait that brings events without a wakeup leaves the counter and the queue as they were,
and one that brings a wakeup takes the whole queue; and nothing but such a wait ever drains the
counter. -/
theorem no_wakeup_is_lost (kernel : Kernel) (attentive : kernel.Attentive) (capacity : Nat)
    (ms : List (Move ι)) :
    (((start kernel capacity).after ms : Loop ι).reactor.kernel.wakeup.writable = true →
      ((start kernel capacity).after ms).reactor.wakeups ≠ [] →
      ((start kernel capacity).after ms).reactor.kernel.wakeup.isRaised = true ∧
        ∀ most, ¬((start kernel capacity).after ms).reactor.kernel.Blocks most) ∧
    (∀ s ∈ (start kernel capacity).strides ms, ∀ k batch, s.Waits →
      s.before.reactor.stopped = false →
      s.before.reactor.kernel.poll s.before.reactor.capacity = .ok (k, batch) →
      (batch.woken = false → s.after.reactor.kernel.wakeup = s.before.reactor.kernel.wakeup ∧
        s.after.reactor.wakeups = s.before.reactor.wakeups) ∧
      (batch.woken = true → s.after.reactor.kernel.wakeup.isRaised = false ∧
        s.after.reactor.wakeups = [] ∧
        s.after.stage = .waking s.before.reactor.wakeups batch.events)) ∧
    (∀ s ∈ (start kernel capacity).strides ms,
      s.before.reactor.kernel.wakeup.isRaised = true →
      s.after.reactor.kernel.wakeup.isRaised = false →
      s.after.reactor.kernel.wakeup.writable = true →
      s.Waits ∧ s.after.reactor.wakeups = [] ∧
        s.after.stage.unworked = s.before.reactor.wakeups) := by
  refine ⟨fun hwritable hqueue => ?_, ?_, ?_⟩
  · have hraised := heard_after kernel capacity ms hwritable hqueue
    exact ⟨hraised, (attentive_after (l := start kernel capacity) attentive ms).not_blocks hraised⟩
  · intro s _ k batch hwaits hrunning hpoll
    exact (s.advance hwaits.1).2.waited hwaits.2 hrunning hpoll
  · intro s _ hraised hdrained hwritable
    exact s.passage.drained hraised hdrained hwritable

/-! ### A wakeup that has to wait

The counter is full when the reactor is made, and a wait brings one event only. A wakeup is queued
while the driver is about to wait; the next wait reports a descriptor instead, and the callback of
this descriptor panics.
-/

namespace Crowded

/-- A kernel with a counter that cannot be raised further. -/
def kernel : Kernel :=
  { Kernel.boot none with wakeup := ⟨Counter.full, true⟩, ready := [.wakeup] }

lemma attentive : kernel.Attentive :=
  (Kernel.attentive_boot none).of_sameFiles ⟨rfl, rfl, rfl, rfl, rfl⟩ nofun .nil
    (List.nodup_singleton _) (fun _ => List.mem_singleton.mpr rfl) nofun

/-- The first wait drains the counter, and a wakeup is queued before the second one. -/
def begin : List (Move Unit) :=
  [.file (.pair 100 101), .add 100 .readOnly, .file (.write 101 [120]), .enter, .advance,
    .advance, .advance, .wakeUp true]

/-- The first wait. -/
def drains : Stride Unit := stride ((start kernel 1).after (begin.take 4)) .advance rfl

/-- The second wait. -/
def passes : Stride Unit := stride ((start kernel 1).after begin) .advance rfl

/-- All of it, up to the panic. -/
def moves : List (Move Unit) := begin ++ [.advance, .advance, .unwind]

lemma drains_mem : drains ∈ (start kernel 1).strides moves := by
  have hcut : (start kernel 1).strides moves = (start kernel 1).strides (begin.take 4) ++
      drains :: drains.after.strides (moves.drop 5) := rfl
  rw [hcut]
  simp

lemma passes_mem : passes ∈ (start kernel 1).strides moves := by
  have hcut : (start kernel 1).strides moves = (start kernel 1).strides begin ++
      passes :: passes.after.strides [.advance, .unwind] := rfl
  rw [hcut]
  simp

end Crowded

/-- The full batch of the second wait leaves the counter raised, and after the panic, outside of any
run, the wakeup is still queued and no wait can block. -/
theorem no_wakeup_is_lost_crowded :
    Crowded.kernel.Attentive ∧
      ((start Crowded.kernel 1).after Crowded.moves : Loop Unit).stage = .outside ∧
      ((start Crowded.kernel 1).after Crowded.moves : Loop Unit).reactor.wakeups = [.call 1] ∧
      (∀ most, ¬((start Crowded.kernel 1).after Crowded.moves).reactor.kernel.Blocks most) ∧
      Crowded.passes.after.stage = .dispatching [⟨0, true, false⟩] ∧
      Crowded.passes.after.reactor.kernel.wakeup = ⟨1, true⟩ ∧
      Crowded.drains.before.reactor.kernel.wakeup = ⟨Counter.full, true⟩ ∧
      Crowded.drains.Waits ∧ Crowded.drains.after.stage.unworked = [] := by
  have hall := no_wakeup_is_lost (ι := Unit) Crowded.kernel Crowded.attentive 1 Crowded.moves
  refine ⟨Crowded.attentive, rfl, rfl, (hall.1 rfl (by decide)).2, rfl, ?_, rfl, ?_⟩
  · have hpasses := hall.2.1 _ Crowded.passes_mem _ ⟨false, [⟨0, true, false⟩]⟩ ⟨rfl, rfl⟩ rfl rfl
    exact (hpasses.1 rfl).1
  · have hdrains := hall.2.2 _ Crowded.drains_mem rfl rfl rfl
    exact ⟨hdrains.1, hdrains.2.2⟩

end EventLoop.Loop
