import EventLoop.Log
import EventLoop.Poller

/-!
The reactor: who is to be called back for which descriptor, which wakeups are queued, and the
queues whose items are delivered by wakeups. Callbacks are known by numbers; what they do is the
business of whoever handed them over.

* `Reactor` is the state and `Reactor.start` a fresh one.
* `Reactor.add`, `Reactor.remove` and `Reactor.requestWrite` change registrations; each answers
  whether it succeeded and changes nothing where it did not.
* `Reactor.takeWrite` picks the write callback of an event and disarms it.
* `Reactor.wakeUp` queues a wakeup and `Reactor.stop` drops all of them.
* `Reactor.push`, `Reactor.drainQueue`, `Reactor.setConsumer`, `Reactor.clearConsumer` and
  `Reactor.takeDelivery` work on the queues.
* `Reactor.Note` is what happens on the way, `Reactor.Note.log?` the log line of it.
-/

namespace EventLoop

/-- The number of a callback that was handed over. -/
abbrev CallbackId := Nat

/-- The number of a reactive queue. -/
abbrev QueueId := Nat

/-- What the driver does when it is woken. -/
inductive Wakeup where
  | call (callback : CallbackId)
  /-- Hands what a queue holds to the consumer of the queue. -/
  | deliver (queue : QueueId)
deriving DecidableEq

/-- The callback that a wakeup holds. -/
def Wakeup.callback? : Wakeup → Option CallbackId
  | call id => some id
  | deliver _ => none

/-- A queue whose items are delivered to a consumer. -/
structure ReactiveQueue (ι : Type) where
  items : List ι
  consumer : Option CallbackId

/-- The state of a reactor, together with the operating system that it talks to. -/
structure Reactor (ι : Type) where
  kernel : Kernel
  registry : Registry CallbackId
  /-- The wakeups to be worked off, in the order in which they were accepted. -/
  wakeups : List Wakeup
  queues : Std.ExtTreeMap QueueId (ReactiveQueue ι)
  stopped : Bool
  /-- How many events a poll brings at most. -/
  capacity : Nat

namespace Reactor

variable {ι : Type}

/-- In which of its two roles a callback for a descriptor runs. -/
inductive Direction where
  | reading
  | writing
deriving DecidableEq

/-- What a callback is called for. -/
inductive Role (ι : Type) where
  | readiness (token : Token) (direction : Direction)
  | wakeup
  | consumer (queue : QueueId) (items : List ι)

/-- How a run of the driver ended. -/
inductive Exit where
  | stopped
  | failed (error : OsError)
  /-- A callback panicked. -/
  | panicked
  /-- A token led to a registration that carries another one. -/
  | mismatched (held asked : Token)
deriving DecidableEq

/-- What happens in a reactor. -/
inductive Note (ι : Type) where
  | created (capacity : Nat)
  | overlapping (fd : Fd) (interest : Interest)
  | registrationFailed (fd : Fd) (error : OsError)
  | registered (fd : Fd) (interest : Interest) (callback : CallbackId)
  | unregistered (fd : Fd) (interest : Interest)
  | alreadyGone (fd : Fd)
  | deregistrationFailed (fd : Fd) (error : OsError)
  | rearmed (fd : Fd)
  | rearmFailed (fd : Fd) (error : OsError)
  | disarmFailed (fd : Fd) (error : OsError)
  | stopRequested
  | discarded (count : Nat)
  | accepted (wakeup : Wakeup)
  | refused (wakeup : Wakeup)
  | wakeFailed (error : OsError)
  | pushed (queue : QueueId) (item : ι) (length : Nat)
  | drained (queue : QueueId) (items : List ι)
  | entered
  | left (exit : Exit)
  | working (count : Nat)
  | started (callback : CallbackId) (role : Role ι)
  | finished (callback : CallbackId)
  | released (callback : CallbackId)

/-- The log line of a happening, where there is one. -/
def Note.log? : Note ι → Option LogLine
  | created capacity => some (.debug s!"reactor created (event capacity {capacity})")
  | overlapping fd i => some (.trace s!"fd {fd}: {i.render} already registered")
  | registrationFailed fd e => some (.warn s!"fd {fd}: registration failed: {e.render}")
  | registered fd i _ => some (.trace s!"fd {fd}: registered {i.render}")
  | unregistered fd i => some (.trace s!"fd {fd}: unregistered {i.render}")
  | alreadyGone fd => some (.trace s!"fd {fd}: already gone from epoll")
  | deregistrationFailed fd e => some (.warn s!"fd {fd}: deregistration failed: {e.render}")
  | rearmFailed fd e => some (.warn s!"fd {fd}: write re-arm failed: {e.render}")
  | disarmFailed fd e => some (.warn s!"fd {fd}: write disarm failed: {e.render}")
  | stopRequested => some (.debug "reactor stop requested")
  | discarded count => some (.debug s!"dropping {count} wakeup callback(s) on stop")
  | refused _ => some (.trace "reactor stopped, dropping wakeup callback")
  | wakeFailed e => some (.warn s!"reactor wakeup failed: {e.render}")
  | pushed _ _ length => some (.trace s!"reactive queue push (len {length})")
  | entered => some (.debug "reactor running")
  | left .stopped => some (.debug "reactor stopped")
  | working count => some (.trace s!"running {count} wakeup callback(s)")
  | _ => none

/-- The number of events that a poll brings at most, where nothing else is asked for. -/
def defaultCapacity : Nat := 64

/-- A reactor without registrations. -/
def start (kernel : Kernel) (capacity : Nat) : Reactor ι :=
  { kernel := kernel
    registry := .empty
    wakeups := []
    queues := ∅
    stopped := false
    capacity := capacity }

/-- How many descriptors have a callback. -/
def registered (r : Reactor ι) : Nat := r.registry.size

/-! ### Registrations -/

/-- Tells the kernel what a descriptor is watched for now, given what it was watched for before. -/
def sync (k : Kernel) (fd : Fd) (token : Token) (before after : Interest) :
    Except OsError Kernel :=
  match before.isEmpty, after.isEmpty with
  | true, true => .ok k
  | true, false => k.watch fd token after
  | false, true => k.unwatch fd
  | false, false => if before = after then .ok k else k.rewatch fd token after

/-- Registers a callback for an interest in a descriptor. An empty interest and one that has a
callback already are turned down; so is what the kernel refuses to watch. -/
def add (r : Reactor ι) (fd : Fd) (i : Interest) (callback : CallbackId) :
    Reactor ι × Bool × List (Note ι) :=
  if i.isEmpty then (r, false, [])
  else
    let (registry, current) := r.registry.currentOrFresh fd
    let r := { r with registry }
    if current.overlaps i then (r, false, [.overlapping fd i])
    else
      let next := current.add i callback
      match sync r.kernel fd next.token current.active next.active with
      | .error e => (r, false, [.registrationFailed fd e])
      | .ok kernel =>
        ({ r with kernel, registry := r.registry.insert fd next }, true,
          [.registered fd i callback])

/-- Whether a refusal means that the kernel has forgotten the descriptor already. -/
def isGone (e : OsError) : Bool := e = .notFound || e = .badDescriptor

/-- Removes the callbacks for an interest in a descriptor. A kernel that has forgotten the
descriptor is no obstacle to removing the last of them. -/
def remove (r : Reactor ι) (fd : Fd) (i : Interest) : Reactor ι × Bool × List (Note ι) :=
  match r.registry.get? fd with
  | none => (r, false, [])
  | some current =>
    if !current.overlaps i then (r, false, [])
    else
      let next := current.drop i
      let dropFrom (r : Reactor ι) : Reactor ι :=
        { r with
          registry :=
            if next.isEmpty then (r.registry.remove fd).1 else r.registry.insert fd next }
      match sync r.kernel fd next.token current.active next.active with
      | .ok kernel => (dropFrom { r with kernel }, true, [.unregistered fd i])
      | .error e =>
        if next.active.isEmpty && isGone e then
          (dropFrom r, true, [.alreadyGone fd, .unregistered fd i])
        else (r, false, [.deregistrationFailed fd e])

/-- Arms the write callback of a descriptor. -/
def requestWrite (r : Reactor ι) (fd : Fd) : Reactor ι × Bool × List (Note ι) :=
  match r.registry.get? fd with
  | none => (r, false, [])
  | some current =>
    if current.write.isNone then (r, false, [])
    else if current.armed then (r, true, [])
    else
      let next := { current with armed := true }
      match sync r.kernel fd next.token current.active next.active with
      | .error e => (r, false, [.rearmFailed fd e])
      | .ok kernel =>
        ({ r with kernel, registry := r.registry.modify fd fun _ => next }, true, [.rearmed fd])

/-- Picks the write callback of a registration and disarms it, if it is armed. That the kernel
refuses to disarm the descriptor changes nothing. -/
def takeWrite (r : Reactor ι) (fd : Fd) (current : Registration CallbackId) :
    Reactor ι × Option CallbackId × List (Note ι) :=
  if !current.armed then (r, none, [])
  else
    match current.write with
    | none => (r, none, [])
    | some callback =>
      let next := { current with armed := false }
      let r := { r with registry := r.registry.modify fd fun _ => next }
      match sync r.kernel fd next.token current.active next.active with
      | .error e => (r, some callback, [.disarmFailed fd e])
      | .ok kernel => ({ r with kernel }, some callback, [])

/-! ### Wakeups -/

/-- Wakes the driver. -/
def wake (r : Reactor ι) : Reactor ι × List (Note ι) :=
  match r.kernel.wake with
  | .ok kernel => ({ r with kernel }, [])
  | .error e => (r, [.wakeFailed e])

/-- Queues a wakeup, if there is one, and wakes the driver. A stopped reactor drops the wakeup. -/
def wakeUp (r : Reactor ι) : Option Wakeup → Reactor ι × List (Note ι)
  | none => r.wake
  | some w =>
    if r.stopped then (r, [.refused w])
    else
      let (r, notes) := { r with wakeups := r.wakeups ++ [w] }.wake
      (r, .accepted w :: notes)

/-- Stops the reactor: the queued wakeups are dropped, and the driver is woken to find out. -/
def stop (r : Reactor ι) : Reactor ι × List (Note ι) :=
  let requested := if r.stopped then [] else [.stopRequested]
  let discarded := if r.wakeups.isEmpty then [] else [.discarded r.wakeups.length]
  let (r, notes) := { r with stopped := true, wakeups := [] }.wake
  (r, requested ++ discarded ++ notes)

/-! ### Queues -/

/-- A queue; one that was never used holds nothing. -/
def queue (r : Reactor ι) (q : QueueId) : ReactiveQueue ι := r.queues[q]?.getD ⟨[], none⟩

/-- Replaces the state of a queue. -/
def setQueue (r : Reactor ι) (q : QueueId) (state : ReactiveQueue ι) : Reactor ι :=
  { r with queues := r.queues.insert q state }

/-- Adds an item to a queue and sees to its delivery. The answer is the length of the queue then. -/
def push (r : Reactor ι) (q : QueueId) (item : ι) : Reactor ι × Nat × List (Note ι) :=
  let state := r.queue q
  let items := state.items ++ [item]
  let (r, notes) := (r.setQueue q { state with items }).wakeUp (some (.deliver q))
  (r, items.length, .pushed q item items.length :: notes)

/-- Takes all items out of a queue. -/
def drainQueue (r : Reactor ι) (q : QueueId) : Reactor ι × List ι × List (Note ι) :=
  let state := r.queue q
  (r.setQueue q { state with items := [] }, state.items, [.drained q state.items])

/-- Installs the consumer of a queue. -/
def setConsumer (r : Reactor ι) (q : QueueId) (callback : CallbackId) : Reactor ι :=
  r.setQueue q { r.queue q with consumer := some callback }

/-- Removes the consumer of a queue. A consumer that is at work is not in the queue, and is put
back after its work. -/
def clearConsumer (r : Reactor ι) (q : QueueId) : Reactor ι :=
  r.setQueue q { r.queue q with consumer := none }

/-- Takes the items and the consumer out of a queue, unless it has no items or no consumer. -/
def takeDelivery (r : Reactor ι) (q : QueueId) : Reactor ι × Option (CallbackId × List ι) :=
  let state := r.queue q
  match state.consumer with
  | none => (r, none)
  | some callback =>
    if state.items.isEmpty then (r, none)
    else (r.setQueue q ⟨[], none⟩, some (callback, state.items))

/-- Puts a consumer back into its queue, unless the queue got another one meanwhile; the answer
says whether it was put back. -/
def returnConsumer (r : Reactor ι) (q : QueueId) (callback : CallbackId) : Reactor ι × Bool :=
  match (r.queue q).consumer with
  | some _ => (r, false)
  | none => (r.setConsumer q callback, true)

end Reactor

end EventLoop
