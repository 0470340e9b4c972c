import EventLoop.Kernel.Basic

/-!
Changing the watched set and waiting for readiness.

* `Kernel.watch`, `Kernel.rewatch` and `Kernel.unwatch` add, change and remove the entry of a
  descriptor; each fails without changing anything where the entry is not as expected.
* `Kernel.collect` goes through a queue of entries and reports the ready ones.
* `Kernel.wait` is a wait that reports at most so many entries.
* `Kernel.wake` and `Kernel.drain` work on the wakeup counter.
-/

namespace EventLoop

/-- The token under which the wakeup counter is watched: the largest word of 64 bits. -/
def Token.wakeup : Token := 18446744073709551615

/-- A reported entry: its token and what it is ready for. -/
structure Report where
  token : Token
  readiness : Readiness
deriving DecidableEq

namespace Kernel

/-- The file behind a number that is about to be watched. A number that is not open comes first
among the refusals, then a file that cannot be watched, then a broken watched set. -/
def watchable (k : Kernel) (fd : Fd) : Except OsError FileId :=
  match k.fileOf? fd with
  | none => .error .badDescriptor
  | some f =>
    if !k.canWatch f then .error .notPermitted
    else if k.watchingBroken then .error .invalid
    else .ok f

/-- The watched entry of a file under a number. -/
def watch? (k : Kernel) (f : FileId) (fd : Fd) : Option Watch :=
  k.watches.find? fun w => w.file == f && w.fd == fd

/-- Queues an entry that is ready at once. -/
def noteIfReady (k : Kernel) (w : Watch) : Kernel :=
  if (k.watchReadiness w).any then k.enqueue [w.key] else k

/-- Adds an entry for a descriptor. -/
def watch (k : Kernel) (fd : Fd) (token : Token) (interest : Interest) : Except OsError Kernel := do
  let f ← k.watchable fd
  match k.watch? f fd with
  | some _ => throw .alreadyExists
  | none =>
    let w : Watch := ⟨f, fd, interest, token⟩
    return { k with watches := w :: k.watches }.noteIfReady w

/-- Changes the entry of a descriptor. -/
def rewatch (k : Kernel) (fd : Fd) (token : Token) (interest : Interest) :
    Except OsError Kernel := do
  let f ← k.watchable fd
  match k.watch? f fd with
  | none => throw .notFound
  | some old =>
    let w : Watch := ⟨f, fd, interest, token⟩
    return { k with watches := k.watches.map fun v => if v = old then w else v }.noteIfReady w

/-- Removes the entry of a descriptor. -/
def unwatch (k : Kernel) (fd : Fd) : Except OsError Kernel := do
  let f ← k.watchable fd
  match k.watch? f fd with
  | none => throw .notFound
  | some old =>
    return { k with
      watches := k.watches.filter (· ≠ old)
      ready := k.ready.filter (· ≠ old.key) }

/-- What there is to report about an entry, if anything. -/
def report? (k : Kernel) : WatchKey → Option Report
  | .wakeup =>
    if k.wakeup.isRaised then some ⟨.wakeup, { Readiness.nothing with input := true }⟩ else none
  | .entry f fd =>
    match k.watch? f fd with
    | none => none
    | some w =>
      let r := k.watchReadiness w
      if r.any then some ⟨w.token, r⟩ else none

/-- What going through a queue of entries yields: the reports, the entries reported, and the
entries not looked at. -/
structure Harvest where
  reports : List Report
  reported : List WatchKey
  untouched : List WatchKey

/-- Goes through a queue of entries until so many are reported. An entry with nothing to report
leaves the queue. -/
def collect (k : Kernel) : Nat → List WatchKey → Harvest
  | _, [] => ⟨[], [], []⟩
  | 0, keys => ⟨[], [], keys⟩
  | most + 1, key :: keys =>
    match k.report? key with
    | none => collect k (most + 1) keys
    | some report =>
      let h := collect k most keys
      ⟨report :: h.reports, key :: h.reported, h.untouched⟩

/-- A wait cannot be asked for more entries than this: their records of 12 bytes are to fit into a
space whose size is a signed word of 32 bits. -/
def mostReports : Nat := 178956970

/-- A wait that reports at most so many entries. Reported entries go behind those not looked at, so
that they are looked at again later. Nothing to report is what an interrupted wait answers. -/
def wait (k : Kernel) (most : Nat) : Except OsError (Kernel × List Report) :=
  if k.watchingBroken || most == 0 || mostReports < most then .error .invalid
  else
    let h := k.collect most k.ready
    .ok ({ k with ready := h.untouched ++ h.reported }, h.reports)

/-- Raises the wakeup counter. -/
def wake (k : Kernel) : Except OsError Kernel := do
  let wakeup ← k.wakeup.wake
  return { k with wakeup }.enqueue [.wakeup]

/-- Takes the wakeup counter back to zero. -/
def drain (k : Kernel) : Kernel := { k with wakeup := k.wakeup.drain }

/-- From now on every change of the watched set and every wait fails. -/
def breakWatching (k : Kernel) : Kernel := { k with watchingBroken := true }

/-- From now on there is a file in the place of the wakeup counter that can only be read: it cannot
be raised, and is not watched any more. -/
def breakWakeup (k : Kernel) : Kernel :=
  { k with wakeup := .readOnly, ready := k.ready.filter (· ≠ .wakeup) }

end Kernel

end EventLoop
