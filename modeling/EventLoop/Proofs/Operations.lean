import EventLoop.Proofs.Registry
import EventLoop.Reactor.Basic

/-!
What comes of the four operations on registrations, told once and case by case.

* `Reactor.Added`, `Reactor.Removed`, `Reactor.Requested` and `Reactor.Taken` list the outcomes,
  each with its reason; `added`, `removed`, `requested` and `taken` say that there are no others.
* `Reactor.handlerOf` is the callback that a descriptor has in a direction, and each outcome comes
  with a lemma that says what it does to these callbacks, and one that it keeps the table sound.
-/

namespace EventLoop

/-- Whether an interest covers a direction. -/
def Interest.covers (i : Interest) : Reactor.Direction → Bool
  | .reading => i.read
  | .writing => i.write

/-- An interest that is not empty covers some direction. -/
lemma Interest.exists_covers {i : Interest} (hi : i.isEmpty = false) : ∃ d, i.covers d = true := by
  rcases i with ⟨_ | _, _ | _⟩
  · cases hi
  · exact ⟨.writing, rfl⟩
  · exact ⟨.reading, rfl⟩
  · exact ⟨.reading, rfl⟩

namespace Registration

variable {η : Type}

/-- The handler of a registration in a direction. -/
def handler (r : Registration η) : Reactor.Direction → Option η
  | .reading => r.read
  | .writing => r.write

@[simp] lemma handler_fresh (t : Token) (d : Reactor.Direction) :
    (fresh t : Registration η).handler d = none := by
  cases d <;> rfl

@[simp] lemma handler_add (r : Registration η) (i : Interest) (h : η) (d : Reactor.Direction) :
    (r.add i h).handler d = if i.covers d then some h else r.handler d := by
  cases d <;> rfl

@[simp] lemma handler_drop (r : Registration η) (i : Interest) (d : Reactor.Direction) :
    (r.drop i).handler d = if i.covers d then none else r.handler d := by
  cases d <;> rfl

lemma isEmpty_add {r : Registration η} {i : Interest} {h : η} (hi : i.isEmpty = false) :
    (r.add i h).isEmpty = false := by
  rcases i with ⟨_ | _, _ | _⟩ <;> simp_all [isEmpty, Interest.isEmpty, interest, add]

/-- A registration is empty when it has a handler in no direction. -/
lemma isEmpty_iff {r : Registration η} : r.isEmpty = true ↔ ∀ d, r.handler d = none := by
  constructor
  · intro h d
    simp only [isEmpty, Interest.isEmpty, interest, Bool.and_eq_true, Bool.not_eq_true',
      Option.isSome_eq_false_iff, Option.isNone_iff_eq_none] at h
    cases d
    · exact h.1
    · exact h.2
  · intro h
    have hr : r.read = none := h .reading
    have hw : r.write = none := h .writing
    simp [isEmpty, Interest.isEmpty, interest, hr, hw]

end Registration

namespace Reactor

variable {ι : Type}

/-- What comes of adding a callback: it is refused, and a token was drawn in vain at most, or the
kernel is told and the registration has the callback. -/
inductive Added (r : Reactor ι) (fd : Fd) (i : Interest) (callback : CallbackId) :
    Reactor ι → Bool → Prop
  | refused {registry : Registry CallbackId}
      (kept : registry = r.registry ∨ registry = (r.registry.currentOrFresh fd).1) :
      Added r fd i callback { r with registry } false
  | added {k : Kernel} (asked : i.isEmpty = false)
      (apart : (r.registry.currentOrFresh fd).2.overlaps i = false)
      (synced : sync r.kernel fd (r.registry.currentOrFresh fd).2.token
        (r.registry.currentOrFresh fd).2.active
        ((r.registry.currentOrFresh fd).2.add i callback).active = .ok k) :
      Added r fd i callback
        { r with
          kernel := k
          registry := (r.registry.currentOrFresh fd).1.insert fd
            ((r.registry.currentOrFresh fd).2.add i callback) } true

lemma added (r : Reactor ι) (fd : Fd) (i : Interest) (callback : CallbackId) :
    Added r fd i callback (r.add fd i callback).1 (r.add fd i callback).2.1 := by
  rw [add]
  split
  · exact .refused (.inl rfl)
  · next hi =>
      dsimp only
      split
      · exact .refused (.inr rfl)
      · next ho =>
          split
          · exact .refused (.inr rfl)
          · next k hk => exact .added (by simpa using hi) (by simpa using ho) hk

/-- The table after the callbacks for an interest were dropped from a registration: without the
registration, if nothing is left of it. -/
def dropped (registry : Registry CallbackId) (fd : Fd) (next : Registration CallbackId) :
    Registry CallbackId :=
  if next.isEmpty then (registry.remove fd).1 else registry.insert fd next

/-- What comes of removing callbacks: nothing, or the registration loses them and the kernel is
told, unless it forgot the descriptor before. -/
inductive Removed (r : Reactor ι) (fd : Fd) (i : Interest) : Reactor ι → Bool → Prop
  | refused : Removed r fd i r false
  | removed {current : Registration CallbackId} {k : Kernel}
      (entry : r.registry.get? fd = some current) (overlaps : current.overlaps i = true)
      (synced : sync r.kernel fd current.token current.active (current.drop i).active = .ok k) :
      Removed r fd i
        { r with kernel := k, registry := dropped r.registry fd (current.drop i) } true
  | gone {current : Registration CallbackId} {e : OsError}
      (entry : r.registry.get? fd = some current) (overlaps : current.overlaps i = true)
      (synced : sync r.kernel fd current.token current.active (current.drop i).active = .error e)
      (inactive : (current.drop i).active.isEmpty = true) (gone : isGone e = true) :
      Removed r fd i { r with registry := dropped r.registry fd (current.drop i) } true

lemma removed (r : Reactor ι) (fd : Fd) (i : Interest) :
    Removed r fd i (r.remove fd i).1 (r.remove fd i).2.1 := by
  rw [remove]
  split
  · exact .refused
  · next current hc =>
      split
      · exact .refused
      · next ho =>
          dsimp only
          split
          · next k hk => exact .removed hc (by simpa using ho) hk
          · next e he =>
              split
              · next hg =>
                  rw [Bool.and_eq_true] at hg
                  exact .gone hc (by simpa using ho) he hg.1 hg.2
              · exact .refused

/-- What comes of arming a write callback: there is none or the kernel refuses, it was armed before,
or it is armed now. -/
inductive Requested (r : Reactor ι) (fd : Fd) : Reactor ι → Bool → Prop
  | refused : Requested r fd r false
  | already {current : Registration CallbackId} (entry : r.registry.get? fd = some current)
      (write : current.write.isSome = true) (armed : current.armed = true) : Requested r fd r true
  | armed {current : Registration CallbackId} {k : Kernel}
      (entry : r.registry.get? fd = some current) (write : current.write.isSome = true)
      (disarmed : current.armed = false)
      (synced : sync r.kernel fd current.token current.active
        { current with armed := true }.active = .ok k) :
      Requested r fd
        { r with
          kernel := k
          registry := r.registry.modify fd fun _ => { current with armed := true } } true

lemma requested (r : Reactor ι) (fd : Fd) :
    Requested r fd (r.requestWrite fd).1 (r.requestWrite fd).2.1 := by
  rw [requestWrite]
  split
  · exact .refused
  · next current hc =>
      split
      · exact .refused
      · next hw =>
          rw [Option.isNone_iff_eq_none, ← ne_eq, ← Option.isSome_iff_ne_none] at hw
          split
          · next ha => exact .already hc hw ha
          · next ha =>
              dsimp only
              split
              · exact .refused
              · next k hk => exact .armed hc hw (by simpa using ha) hk

/-- What comes of picking an armed write callback: the registration is disarmed, whether the kernel
can be told or not. -/
inductive Taken (r : Reactor ι) (fd : Fd) (current : Registration CallbackId) : Reactor ι → Prop
  | told {k : Kernel}
      (synced : sync r.kernel fd current.token current.active
        { current with armed := false }.active = .ok k) :
      Taken r fd current
        { r with
          kernel := k
          registry := r.registry.modify fd fun _ => { current with armed := false } }
  | untold {e : OsError}
      (synced : sync r.kernel fd current.token current.active
        { current with armed := false }.active = .error e) :
      Taken r fd current
        { r with registry := r.registry.modify fd fun _ => { current with armed := false } }

lemma taken (r : Reactor ι) (fd : Fd) {current : Registration CallbackId} {callback : CallbackId}
    (armed : current.armed = true) (handler : current.write = some callback) :
    Taken r fd current (r.takeWrite fd current).1 := by
  rw [takeWrite]
  split
  · next h => simp [armed] at h
  · split
    · next h => simp [handler] at h
    · dsimp only
      split
      · next e he => exact .untold he
      · next k hk => exact .told hk

/-! ### What is left alone -/

/-- The two differ in the registrations and in the kernel at most. -/
structure SameWork (r r' : Reactor ι) : Prop where
  wakeups : r'.wakeups = r.wakeups
  queues : r'.queues = r.queues
  stopped : r'.stopped = r.stopped
  capacity : r'.capacity = r.capacity

lemma SameWork.refl (r : Reactor ι) : SameWork r r := ⟨rfl, rfl, rfl, rfl⟩

lemma SameWork.symm {r r' : Reactor ι} (h : SameWork r r') : SameWork r' r :=
  ⟨h.wakeups.symm, h.queues.symm, h.stopped.symm, h.capacity.symm⟩

lemma SameWork.trans {r r' r'' : Reactor ι} (h : SameWork r r') (h' : SameWork r' r'') :
    SameWork r r'' :=
  ⟨h'.wakeups.trans h.wakeups, h'.queues.trans h.queues, h'.stopped.trans h.stopped,
    h'.capacity.trans h.capacity⟩

lemma Added.sameWork {r r' : Reactor ι} {fd : Fd} {i : Interest} {callback : CallbackId} {b : Bool}
    (h : Added r fd i callback r' b) : SameWork r r' := by
  cases h <;> exact ⟨rfl, rfl, rfl, rfl⟩

lemma Removed.sameWork {r r' : Reactor ι} {fd : Fd} {i : Interest} {b : Bool}
    (h : Removed r fd i r' b) : SameWork r r' := by
  cases h <;> exact ⟨rfl, rfl, rfl, rfl⟩

lemma Requested.sameWork {r r' : Reactor ι} {fd : Fd} {b : Bool} (h : Requested r fd r' b) :
    SameWork r r' := by
  cases h <;> exact ⟨rfl, rfl, rfl, rfl⟩

lemma Taken.sameWork {r r' : Reactor ι} {fd : Fd} {current : Registration CallbackId}
    (h : Taken r fd current r') : SameWork r r' := by
  cases h <;> exact ⟨rfl, rfl, rfl, rfl⟩

lemma sameWork_wake (r : Reactor ι) : SameWork r r.wake.1 := by
  rw [wake]
  split
  · exact ⟨rfl, rfl, rfl, rfl⟩
  · exact .refl r

@[simp] lemma wakeUp_stopped (r : Reactor ι) (w : Option Wakeup) :
    (r.wakeUp w).1.stopped = r.stopped := by
  unfold wakeUp
  split
  · exact r.sameWork_wake.stopped
  · next w =>
      split
      · rfl
      · exact (sameWork_wake { r with wakeups := r.wakeups ++ [w] }).stopped

@[simp] lemma stop_stopped (r : Reactor ι) : r.stop.1.stopped = true :=
  (sameWork_wake { r with stopped := true, wakeups := [] }).stopped

lemma takeDelivery_kept (r : Reactor ι) (q : QueueId) :
    (r.takeDelivery q).1.wakeups = r.wakeups ∧ (r.takeDelivery q).1.stopped = r.stopped ∧
      (r.takeDelivery q).1.kernel = r.kernel := by
  unfold takeDelivery
  dsimp only
  split
  · exact ⟨rfl, rfl, rfl⟩
  · split <;> exact ⟨rfl, rfl, rfl⟩

lemma returnConsumer_kept (r : Reactor ι) (q : QueueId) (callback : CallbackId) :
    (r.returnConsumer q callback).1.wakeups = r.wakeups ∧
      (r.returnConsumer q callback).1.stopped = r.stopped ∧
      (r.returnConsumer q callback).1.kernel = r.kernel := by
  rw [returnConsumer]
  split <;> exact ⟨rfl, rfl, rfl⟩

/-! ### What the outcomes do to the table -/

lemma dropped_get? (registry : Registry CallbackId) (fd x : Fd) (next : Registration CallbackId) :
    (dropped registry fd next).get? x =
      if fd = x then (if next.isEmpty then none else some next) else registry.get? x := by
  rw [dropped]
  split <;> simp

lemma follows_dropped {registry : Registry CallbackId} (h : registry.Sound) {fd : Fd}
    {current next : Registration CallbackId} (entry : registry.get? fd = some current)
    (token : next.token = current.token) : registry.Follows (dropped registry fd next) := by
  rw [dropped]
  split
  · exact Registry.follows_remove h fd
  · next hn =>
      have hcurrent := Registry.currentOrFresh_of_some entry
      have htoken : next.token = (registry.currentOrFresh fd).2.token := by rw [hcurrent, token]
      have hf := Registry.follows_insert h htoken (by simpa using hn)
      rwa [hcurrent] at hf

lemma Added.follows {r r' : Reactor ι} {fd : Fd} {i : Interest} {callback : CallbackId} {b : Bool}
    (h : Added r fd i callback r' b) (hr : r.registry.Sound) : r.registry.Follows r'.registry := by
  cases h with
  | refused kept =>
      rcases kept with rfl | rfl
      · exact hr.follows
      · exact Registry.follows_currentOrFresh hr fd
  | added asked _ _ => exact Registry.follows_insert hr rfl (Registration.isEmpty_add asked)

lemma Removed.follows {r r' : Reactor ι} {fd : Fd} {i : Interest} {b : Bool}
    (h : Removed r fd i r' b) (hr : r.registry.Sound) : r.registry.Follows r'.registry := by
  cases h with
  | refused => exact hr.follows
  | removed entry _ _ => exact follows_dropped hr entry rfl
  | gone entry _ _ _ _ => exact follows_dropped hr entry rfl

lemma Requested.follows {r r' : Reactor ι} {fd : Fd} {b : Bool} (h : Requested r fd r' b)
    (hr : r.registry.Sound) : r.registry.Follows r'.registry := by
  cases h with
  | refused => exact hr.follows
  | already _ _ _ => exact hr.follows
  | armed entry _ _ _ => exact Registry.follows_modify hr entry rfl (hr.filled fd _ entry :)

lemma Taken.registry {r r' : Reactor ι} {fd : Fd} {current : Registration CallbackId}
    (h : Taken r fd current r') :
    r'.registry = r.registry.modify fd fun _ => { current with armed := false } := by
  cases h <;> rfl

lemma Taken.follows {r r' : Reactor ι} {fd : Fd} {current : Registration CallbackId}
    (h : Taken r fd current r') (entry : r.registry.get? fd = some current)
    (hr : r.registry.Sound) : r.registry.Follows r'.registry := by
  rw [h.registry]
  exact Registry.follows_modify hr entry rfl (hr.filled fd _ entry :)

/-- What a descriptor has changes only if a callback is added for it. -/
lemma Added.get?_of_not {r r' : Reactor ι} {fd : Fd} {i : Interest} {callback : CallbackId}
    {b : Bool} (h : Added r fd i callback r' b) {x : Fd} (hx : ¬(b = true ∧ fd = x)) :
    r'.registry.get? x = r.registry.get? x := by
  cases h with
  | refused kept => rcases kept with rfl | rfl <;> simp
  | added _ _ _ =>
      have hne : fd ≠ x := fun he => hx ⟨rfl, he⟩
      simp [hne]

lemma Added.asked {r r' : Reactor ι} {fd : Fd} {i : Interest} {callback : CallbackId}
    (h : Added r fd i callback r' true) : i.isEmpty = false := by
  cases h with
  | added asked _ _ => exact asked

/-- Only by adding are tokens drawn. -/
lemma dropped_nextToken (registry : Registry CallbackId) (fd : Fd)
    (next : Registration CallbackId) :
    (dropped registry fd next).nextToken = registry.nextToken := by
  rw [dropped]
  split
  · rw [Registry.remove]
    split <;> rfl
  · rfl

lemma Removed.nextToken {r r' : Reactor ι} {fd : Fd} {i : Interest} {b : Bool}
    (h : Removed r fd i r' b) : r'.registry.nextToken = r.registry.nextToken := by
  cases h with
  | refused => rfl
  | removed _ _ _ => exact dropped_nextToken _ _ _
  | gone _ _ _ _ _ => exact dropped_nextToken _ _ _

lemma modify_nextToken (registry : Registry CallbackId) (fd : Fd)
    (change : Registration CallbackId → Registration CallbackId) :
    (registry.modify fd change).nextToken = registry.nextToken := by
  rw [Registry.modify]
  split <;> rfl

lemma Requested.nextToken {r r' : Reactor ι} {fd : Fd} {b : Bool} (h : Requested r fd r' b) :
    r'.registry.nextToken = r.registry.nextToken := by
  cases h with
  | refused => rfl
  | already _ _ _ => rfl
  | armed _ _ _ _ => exact modify_nextToken _ _ _

lemma Taken.nextToken {r r' : Reactor ι} {fd : Fd} {current : Registration CallbackId}
    (h : Taken r fd current r') : r'.registry.nextToken = r.registry.nextToken := by
  rw [h.registry]
  exact modify_nextToken _ _ _

/-! ### What the outcomes do to the callbacks -/

/-- The callback that a descriptor has in a direction. -/
def handlerOf (r : Reactor ι) (fd : Fd) (d : Direction) : Option CallbackId :=
  (r.registry.get? fd).bind (·.handler d)

lemma currentOrFresh_handler (r : Reactor ι) (fd : Fd) (d : Direction) :
    (r.registry.currentOrFresh fd).2.handler d = r.handlerOf fd d := by
  rw [handlerOf]
  cases hc : r.registry.get? fd with
  | none => simp [Registry.currentOrFresh_of_none hc]
  | some current => simp [Registry.currentOrFresh_of_some hc]

/-- What dropping some handlers of a registration leaves of the callbacks. -/
lemma handlerOf_of_dropped {r r' : Reactor ι} {fd : Fd} {current : Registration CallbackId}
    {i : Interest} (entry : r.registry.get? fd = some current)
    (h : r'.registry = dropped r.registry fd (current.drop i)) (x : Fd) (d : Direction) :
    r'.handlerOf x d = if fd = x ∧ i.covers d then none else r.handlerOf x d := by
  unfold handlerOf
  rw [h, dropped_get?]
  by_cases hx : fd = x
  · subst hx
    rw [if_pos rfl]
    split
    · next he =>
        have hnone := Registration.isEmpty_iff.mp he d
        rw [Registration.handler_drop] at hnone
        simpa [entry] using hnone.symm
    · simp [entry]
  · simp [hx]

/-- Adding a callback gives it to the descriptor in the directions that it is for. -/
lemma Added.handlerOf {r r' : Reactor ι} {fd : Fd} {i : Interest} {callback : CallbackId} {b : Bool}
    (h : Added r fd i callback r' b) (x : Fd) (d : Direction) :
    r'.handlerOf x d =
      if b = true ∧ fd = x ∧ i.covers d then some callback else r.handlerOf x d := by
  cases h with
  | refused kept =>
      rcases kept with rfl | rfl <;> simp [Reactor.handlerOf]
  | added _ _ _ =>
      by_cases hx : fd = x
      · subst hx
        simp [Reactor.handlerOf, currentOrFresh_handler]
      · simp [Reactor.handlerOf, hx]

/-- Removing callbacks takes from the descriptor what it has in the directions given up. -/
lemma Removed.handlerOf {r r' : Reactor ι} {fd : Fd} {i : Interest} {b : Bool}
    (h : Removed r fd i r' b) (x : Fd) (d : Direction) :
    r'.handlerOf x d = if b = true ∧ fd = x ∧ i.covers d then none else r.handlerOf x d := by
  cases h with
  | refused => simp
  | removed entry _ _ => simpa using handlerOf_of_dropped entry rfl x d
  | gone entry _ _ _ _ => simpa using handlerOf_of_dropped entry rfl x d

/-- Whether a registration is armed makes no difference to the callbacks. -/
lemma handlerOf_of_modify {r r' : Reactor ι} {fd : Fd} {current : Registration CallbackId}
    {armed : Bool} (entry : r.registry.get? fd = some current)
    (h : r'.registry = r.registry.modify fd fun _ => { current with armed }) (x : Fd)
    (d : Direction) : r'.handlerOf x d = r.handlerOf x d := by
  unfold handlerOf
  rw [h, Registry.get?_modify]
  split
  · next hx =>
      subst hx
      cases d <;> simp [entry, Registration.handler]
  · rfl

lemma Requested.handlerOf {r r' : Reactor ι} {fd : Fd} {b : Bool} (h : Requested r fd r' b)
    (x : Fd) (d : Direction) : r'.handlerOf x d = r.handlerOf x d := by
  cases h with
  | refused => rfl
  | already _ _ _ => rfl
  | armed entry _ _ _ => exact handlerOf_of_modify entry rfl x d

lemma Taken.handlerOf {r r' : Reactor ι} {fd : Fd} {current : Registration CallbackId}
    (h : Taken r fd current r') (entry : r.registry.get? fd = some current) (x : Fd)
    (d : Direction) : r'.handlerOf x d = r.handlerOf x d :=
  handlerOf_of_modify entry h.registry x d

end Reactor

end EventLoop
