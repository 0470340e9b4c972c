import EventLoop.Proofs.Kernel.Attention
import EventLoop.Proofs.Moves
import EventLoop.Proofs.Sync

/-!
Whatever is done with a reactor, its kernel misses no entry that is ready.

* `Told.attentive` says so of what the reactor tells the kernel about a descriptor.
* `attentive_after` is the main statement here.
-/

namespace EventLoop

namespace Reactor

/-- Telling the kernel about a descriptor makes no entry ready unheard. -/
lemma Told.attentive {k k' : Kernel} (h : Told k k') (hk : k.Attentive) : k'.Attentive := by
  obtain ⟨fd, token, before, after, hsynced⟩ := h
  cases hsynced with
  | idle _ _ => exact hk
  | watched _ _ asked => exact hk.watched asked
  | unwatched _ _ asked => exact hk.unwatched asked
  | same _ => exact hk
  | rewatched _ _ asked => exact hk.rewatched asked

end Reactor

namespace Loop

variable {ι : Type}

lemma Change.attentive {l : Loop ι} {m : Move ι} {reply : Reply ι} {r : Reactor ι}
    (h : Change l m reply r) (hl : l.reactor.kernel.Attentive) : r.kernel.Attentive := by
  cases h with
  | add fd i => exact (l.reactor.added fd i l.nextCallback).tells.attentive hl
  | remove fd i => exact (l.reactor.removed fd i).tells.attentive hl
  | requestWrite fd => exact (l.reactor.requested fd).tells.attentive hl
  | takeWrite _ armed handler => exact (l.reactor.taken _ armed handler).tells.attentive hl
  | file acted => exact hl.act acted
  | breakWatching => exact hl.breakWatching
  | same _ registrations => exact hl.signalled registrations.signalled

/-- **No entry that is ready is ever missed.** -/
theorem attentive_after {l : Loop ι} (hl : l.reactor.kernel.Attentive) (ms : List (Move ι)) :
    (l.after ms).reactor.kernel.Attentive :=
  history_rec (P := fun _ l' => l'.reactor.kernel.Attentive) hl
    (fun _ s h => s.change.attentive h) ms

end Loop

end EventLoop
