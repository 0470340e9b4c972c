import EventLoop.Kernel.Actions
import EventLoop.Reactor.Basic

/-!
The driver of a reactor, move by move. A run goes round in a loop: it waits for events, works off
the wakeups that were queued by then, and hands each event to the callbacks it concerns. While a
callback runs, the reactor can be used like at any other time.

* `Loop.Stage` is where the driver stands; `Loop.Activation` is a callback that is running.
* `Loop` is the reactor with the driver, and with the owners that callbacks for descriptors have;
  `Loop.giveBack` is what owners do when they let go of a callback.
* `Loop.advance` lets the driver make its next move; `Loop.finish` and `Loop.unwind` end the
  running callback.
* `Loop.Move` lists everything that can happen, and `Loop.step` makes one move.
-/

namespace EventLoop

namespace Loop

/-- Where the driver stands. While a callback runs, it is where the driver goes on afterwards. -/
inductive Stage where
  /-- No run is in progress. -/
  | outside
  /-- About to look whether the reactor was stopped, and to wait. -/
  | head
  /-- Working off wakeups, with the events still to come. -/
  | waking (rest : List Wakeup) (events : List Event)
  /-- Handing out events. -/
  | dispatching (events : List Event)
  /-- Between the two halves of an event. -/
  | halfway (event : Event) (rest : List Event)
deriving DecidableEq

/-- A callback that is running. -/
structure Activation (ι : Type) where
  callback : CallbackId
  role : Reactor.Role ι

/-- The callback that is running, if the driver shares it with registrations. -/
def Activation.shared {ι : Type} (a : Activation ι) : List CallbackId :=
  match a.role with
  | .readiness _ _ => [a.callback]
  | _ => []

/-- The callback that is running, if the driver has it for itself. -/
def Activation.sole {ι : Type} (a : Activation ι) : List CallbackId :=
  match a.role with
  | .readiness _ _ => []
  | _ => [a.callback]

end Loop

/-- A reactor with its driver. -/
structure Loop (ι : Type) where
  reactor : Reactor ι
  stage : Loop.Stage
  active : Option (Loop.Activation ι)
  /-- The owners of the callbacks for descriptors, each told by what it owns. A slot of a
  registration is an owner, and so is the driver while it runs the callback. -/
  owners : List CallbackId
  /-- The number that the next callback handed over gets. -/
  nextCallback : CallbackId

namespace Loop

open Reactor (Note Role Exit)

variable {ι : Type}

/-- A fresh reactor that nobody drives. -/
def start (kernel : Kernel) (capacity : Nat) : Loop ι :=
  ⟨.start kernel capacity, .outside, none, [], 0⟩

/-- What a move of the session answers. -/
inductive Reply (ι : Type) where
  | done
  | flag (value : Bool)
  | count (value : Nat)
  | items (values : List ι)
  | file (answer : Kernel.Answer)

/-- What can happen to a reactor. -/
inductive Move (ι : Type) where
  | add (fd : Fd) (interest : Interest)
  | remove (fd : Fd) (interest : Interest)
  | requestWrite (fd : Fd)
  | stop
  /-- Wakes the driver, with or without a callback for it. -/
  | wakeUp (withCallback : Bool)
  | push (queue : QueueId) (item : ι)
  | drain (queue : QueueId)
  | setConsumer (queue : QueueId)
  | clearConsumer (queue : QueueId)
  /-- Something is done with a file. -/
  | file (action : Kernel.Action)
  /-- The watched set breaks. -/
  | breakWatching
  /-- The wakeup counter breaks. -/
  | breakWakeup
  /-- A run begins. -/
  | enter
  /-- The driver makes its next move. -/
  | advance
  /-- The running callback comes to its end. -/
  | finish
  /-- The running callback panics. -/
  | unwind

/-- Those of the callbacks that are given back, one after the other, that lose their last owner by
it. -/
def orphaned (owners : List CallbackId) : List CallbackId → List CallbackId
  | [] => []
  | id :: ids =>
    let owners := owners.erase id
    if id ∈ owners then orphaned owners ids else id :: orphaned owners ids

/-- Owners give callbacks back, one after the other; with its last owner a callback is released. -/
def giveBack (l : Loop ι) (ids : List CallbackId) : Loop ι × List (Note ι) :=
  ({ l with owners := ids.foldl List.erase l.owners }, (orphaned l.owners ids).map .released)

/-- The release of the callbacks that wakeups hold, in their order. -/
def discards (wakeups : List Wakeup) : List (Note ι) :=
  (wakeups.filterMap Wakeup.callback?).map .released

/-- Hands a callback over, under a number of its own. -/
def newCallback (l : Loop ι) : Loop ι × CallbackId :=
  ({ l with nextCallback := l.nextCallback + 1 }, l.nextCallback)

/-- Registers a new callback, which every slot that gets it owns; a callback that is turned down is
released. -/
def add (l : Loop ι) (fd : Fd) (i : Interest) : Loop ι × Bool × List (Note ι) :=
  let (l, id) := l.newCallback
  let (reactor, added, notes) := l.reactor.add fd i id
  ({ l with reactor, owners := (if added then i.each id else []) ++ l.owners }, added,
    if added then notes else notes ++ [.released id])

/-- Removes callbacks, which the slots that held them give back. -/
def remove (l : Loop ι) (fd : Fd) (i : Interest) : Loop ι × Bool × List (Note ι) :=
  let held := (l.reactor.registry.get? fd).elim [] (·.handlersFor i)
  let (reactor, removed, notes) := l.reactor.remove fd i
  let (l, released) := { l with reactor }.giveBack (if removed then held else [])
  (l, removed, notes ++ released)

/-- Wakes the driver, with a new callback if asked for; a callback that is refused is released. -/
def wakeUp (l : Loop ι) (withCallback : Bool) : Loop ι × List (Note ι) :=
  if withCallback then
    let (l, id) := l.newCallback
    let (reactor, notes) := l.reactor.wakeUp (some (.call id))
    ({ l with reactor }, if l.reactor.stopped then notes ++ [.released id] else notes)
  else
    let (reactor, notes) := l.reactor.wakeUp none
    ({ l with reactor }, notes)

/-- Stops the reactor; the callbacks of the dropped wakeups are released. -/
def stop (l : Loop ι) : Loop ι × List (Note ι) :=
  let (reactor, notes) := l.reactor.stop
  ({ l with reactor }, notes ++ discards l.reactor.wakeups)

/-- The release of the consumer that a queue holds. -/
def consumerRelease (l : Loop ι) (q : QueueId) : List (Note ι) :=
  (l.reactor.queue q).consumer.toList.map .released

/-- Installs a new callback as the consumer of a queue, in the place of the one before. -/
def setConsumer (l : Loop ι) (q : QueueId) : Loop ι × List (Note ι) :=
  let old := l.consumerRelease q
  let (l, id) := l.newCallback
  ({ l with reactor := l.reactor.setConsumer q id }, old)

/-- Removes the consumer of a queue. -/
def clearConsumer (l : Loop ι) (q : QueueId) : Loop ι × List (Note ι) :=
  ({ l with reactor := l.reactor.clearConsumer q }, l.consumerRelease q)

/-- The driver becomes an owner of a callback that a registration holds. -/
def share (l : Loop ι) (callback : CallbackId) : Loop ι :=
  { l with owners := callback :: l.owners }

/-- The driver starts a callback, and goes on at a stage afterwards. -/
def invoke (l : Loop ι) (callback : CallbackId) (role : Role ι) (after : Stage) :
    Loop ι × List (Note ι) :=
  ({ l with stage := after, active := some ⟨callback, role⟩ }, [.started callback role])

/-- The driver goes on at a stage. -/
def goTo (l : Loop ι) (stage : Stage) : Loop ι × List (Note ι) := ({ l with stage }, [])

/-- The run ends. -/
def leave (l : Loop ι) (exit : Exit) : Loop ι × List (Note ι) :=
  ({ l with stage := .outside, active := none }, [.left exit])

/-- The driver waits for events, unless the reactor was stopped, and takes the queued wakeups if
it was woken. -/
def await (l : Loop ι) : Loop ι × List (Note ι) :=
  if l.reactor.stopped then l.leave .stopped
  else
    match l.reactor.kernel.poll l.reactor.capacity with
    | .error e => l.leave (.failed e)
    | .ok (kernel, batch) =>
      let l := { l with reactor := { l.reactor with kernel } }
      if batch.woken then
        let pending := l.reactor.wakeups
        ({ l with
            reactor := { l.reactor with wakeups := [] }
            stage := .waking pending batch.events },
          if pending.isEmpty then [] else [.working pending.length])
      else l.goTo (.dispatching batch.events)

/-- The driver works off a wakeup. Wakeups left when the reactor was stopped are dropped. -/
def workOff (l : Loop ι) (w : Wakeup) (rest : List Wakeup) (events : List Event) :
    Loop ι × List (Note ι) :=
  if l.reactor.stopped then ({ l with stage := .dispatching events }, discards (w :: rest))
  else
    match w with
    | .call id => l.invoke id .wakeup (.waking rest events)
    | .deliver q =>
      match l.reactor.takeDelivery q with
      | (_, none) => l.goTo (.waking rest events)
      | (reactor, some (callback, items)) =>
        { l with reactor }.invoke callback (.consumer q items) (.waking rest events)

/-- The driver hands the first half of an event to the read callback it concerns. -/
def dispatchRead (l : Loop ι) (e : Event) (rest : List Event) : Loop ι × List (Note ι) :=
  if !e.readable then l.goTo (.halfway e rest)
  else
    match l.reactor.registry.resolve e.token with
    | .absent => l.goTo (.halfway e rest)
    | .mismatched held => l.leave (.mismatched held e.token)
    | .found _ registration =>
      match registration.read with
      | none => l.goTo (.halfway e rest)
      | some id => (l.share id).invoke id (.readiness e.token .reading) (.halfway e rest)

/-- The driver hands the second half of an event to the write callback it concerns. -/
def dispatchWrite (l : Loop ι) (e : Event) (rest : List Event) : Loop ι × List (Note ι) :=
  if !e.writable then l.goTo (.dispatching rest)
  else
    match l.reactor.registry.resolve e.token with
    | .absent => l.goTo (.dispatching rest)
    | .mismatched held => l.leave (.mismatched held e.token)
    | .found fd registration =>
      match l.reactor.takeWrite fd registration with
      | (reactor, none, notes) => ({ l with reactor, stage := .dispatching rest }, notes)
      | (reactor, some id, notes) =>
        let (l, started) :=
          ({ l with reactor }.share id).invoke id (.readiness e.token .writing) (.dispatching rest)
        (l, notes ++ started)

/-- The next move of the driver, if no callback is running. -/
def advance (l : Loop ι) : Option (Loop ι × List (Note ι)) :=
  if l.active.isSome then none
  else
    match l.stage with
    | .outside => none
    | .head => some l.await
    | .waking [] events => some (l.goTo (.dispatching events))
    | .waking (w :: rest) events => some (l.workOff w rest events)
    | .dispatching [] => some (l.goTo .head)
    | .dispatching (e :: rest) => some (l.dispatchRead e rest)
    | .halfway e rest => some (l.dispatchWrite e rest)

/-- The wakeups that the driver has taken and not worked off. -/
def Stage.unworked : Stage → List Wakeup
  | waking rest _ => rest
  | _ => []

/-- The running callback comes to its end. The driver gives back what it shares with registrations;
a consumer goes back to its queue, if that has no other one, and is released otherwise. -/
def finish (l : Loop ι) : Option (Loop ι × List (Note ι)) :=
  l.active.map fun a =>
    let l := { l with active := none }
    match a.role with
    | .readiness _ _ =>
      let (l, released) := l.giveBack [a.callback]
      (l, .finished a.callback :: released)
    | .wakeup => (l, [.finished a.callback, .released a.callback])
    | .consumer q _ =>
      let (reactor, returned) := l.reactor.returnConsumer q a.callback
      ({ l with reactor },
        .finished a.callback :: if returned then [] else [.released a.callback])

/-- The running callback panics. The run ends, the driver lets go of the callback, and after it the
wakeups of the batch that are left are released. -/
def unwind (l : Loop ι) : Option (Loop ι × List (Note ι)) :=
  l.active.map fun a =>
    let rest := l.stage.unworked
    let (l, exited) := l.leave .panicked
    let (l, released) := l.giveBack a.shared
    (l, released ++ a.sole.map .released ++ discards rest ++ exited)

/-- Makes one move, if it is possible, and says what it answers and what happened. -/
def step (l : Loop ι) : Move ι → Option (Loop ι × Reply ι × List (Note ι))
  | .add fd i =>
    let (l, added, notes) := l.add fd i
    some (l, .flag added, notes)
  | .remove fd i =>
    let (l, removed, notes) := l.remove fd i
    some (l, .flag removed, notes)
  | .requestWrite fd =>
    let (reactor, armed, notes) := l.reactor.requestWrite fd
    some ({ l with reactor }, .flag armed, notes)
  | .stop =>
    let (l, notes) := l.stop
    some (l, .done, notes)
  | .wakeUp withCallback =>
    let (l, notes) := l.wakeUp withCallback
    some (l, .done, notes)
  | .push q item =>
    let (reactor, length, notes) := l.reactor.push q item
    some ({ l with reactor }, .count length, notes)
  | .drain q =>
    let (reactor, items, notes) := l.reactor.drainQueue q
    some ({ l with reactor }, .items items, notes)
  | .setConsumer q =>
    let (l, notes) := l.setConsumer q
    some (l, .done, notes)
  | .clearConsumer q =>
    let (l, notes) := l.clearConsumer q
    some (l, .done, notes)
  | .file action =>
    (l.reactor.kernel.act action).map fun (kernel, answer) =>
      ({ l with reactor := { l.reactor with kernel } }, .file answer, [])
  | .breakWatching =>
    some ({ l with reactor := { l.reactor with kernel := l.reactor.kernel.breakWatching } },
      .done, [])
  | .breakWakeup =>
    some ({ l with reactor := { l.reactor with kernel := l.reactor.kernel.breakWakeup } },
      .done, [])
  | .enter =>
    if l.stage = .outside ∧ l.active.isNone then some ({ l with stage := .head }, .done, [.entered])
    else none
  | .advance => l.advance.map fun (l, notes) => (l, .done, notes)
  | .finish => l.finish.map fun (l, notes) => (l, .done, notes)
  | .unwind => l.unwind.map fun (l, notes) => (l, .done, notes)

end Loop

end EventLoop
