import Std.Data.ExtTreeMap
import EventLoop.Kernel.Counter
import EventLoop.Registry

/-!
The part of the operating system that an event loop talks to: open files behind descriptor numbers,
the set of watched descriptors, the queue of those that may be ready, and the wakeup counter.

* `Readiness` says what a file is ready for; `Readiness.masked` keeps what an interest asks for.
* `File` is an open file: one end of a connection, a source whose readiness others decide, or a
  device that cannot be watched.
* `Watch` is an entry of the watched set; it belongs to a file and the number it was added under.
* `Kernel` is all of it, and `Kernel.readiness` computes what a file is ready for.
-/

namespace EventLoop

/-- What a file is ready for. -/
structure Readiness where
  /-- There is something to read, if only the end of the input. -/
  input : Bool
  /-- The other side will not write any more. -/
  peerClosed : Bool
  /-- There is room to write. -/
  output : Bool
  /-- Nothing can pass in either direction any more. -/
  hangUp : Bool
  /-- The connection broke. -/
  error : Bool
deriving DecidableEq, Inhabited

namespace Readiness

/-- Ready for nothing. -/
def nothing : Readiness := ⟨false, false, false, false, false⟩

/-- The part of a readiness that an interest asks for. Hang-ups and errors come unasked. -/
def masked (r : Readiness) (i : Interest) : Readiness :=
  { r with
    input := i.read && r.input
    peerClosed := i.read && r.peerClosed
    output := i.write && r.output }

/-- Whether there is anything to report. -/
def any (r : Readiness) : Bool := r.input || r.peerClosed || r.output || r.hangUp || r.error

/-- A reader is told about input, the end of it, hang-ups and errors. -/
def readable (r : Readiness) : Bool := r.input || r.peerClosed || r.hangUp || r.error

/-- A writer is told about room, hang-ups and errors. -/
def writable (r : Readiness) : Bool := r.output || r.hangUp || r.error

end Readiness

/-- The number of an open file. -/
abbrev FileId := Nat

/-- One end of a connection. -/
structure Endpoint where
  /-- The other end. -/
  peer : FileId
  /-- What has arrived and was not read yet. -/
  inbox : List UInt8
  /-- No more will arrive. -/
  inputShut : Bool
  /-- No more will be sent. -/
  outputShut : Bool
  /-- The connection broke, and nobody was told yet. -/
  broken : Bool
deriving DecidableEq

/-- A fresh end of a connection to a peer. -/
def Endpoint.connectedTo (peer : FileId) : Endpoint := ⟨peer, [], false, false, false⟩

/-- An open file. -/
inductive File where
  /-- A device that swallows everything and cannot be watched. -/
  | device
  | endpoint (e : Endpoint)
  /-- A pipe, a terminal or the like: others decide what it is ready for. -/
  | source (state : Readiness)
deriving DecidableEq

/-- An entry of the watched set. It is keyed by the file and the number under which the file was
open when the entry was made. -/
structure Watch where
  file : FileId
  fd : Fd
  interest : Interest
  token : Token
deriving DecidableEq

/-- The key of a watched entry, or the wakeup counter's. -/
inductive WatchKey where
  | wakeup
  | entry (file : FileId) (fd : Fd)
deriving DecidableEq

/-- The key of an entry. -/
def Watch.key (w : Watch) : WatchKey := .entry w.file w.fd

/-- The state of the operating system, as far as an event loop sees it. -/
structure Kernel where
  /-- The open files. -/
  files : Std.ExtTreeMap FileId File
  /-- The open descriptor numbers and the files behind them. -/
  descriptors : Std.ExtTreeMap Fd FileId
  /-- The number that the next opened file gets. -/
  nextFile : FileId
  /-- The watched entries, the latest first. -/
  watches : List Watch
  /-- The entries that may be ready, in the order in which a wait looks at them. -/
  ready : List WatchKey
  /-- The counter that wakes a waiting driver. -/
  wakeup : Counter
  /-- How much an endpoint's inbox holds; without a limit it holds everything. -/
  inboxLimit : Option Nat
  /-- How much the next sends take at most, one after the other, but a byte if they take anything.
  The sends after them take what fits. -/
  portions : List Nat
  /-- A broken watched set refuses every change and every wait. -/
  watchingBroken : Bool

namespace Kernel

/-- Nothing open and nothing watched but the wakeup counter. -/
def boot (inboxLimit : Option Nat) : Kernel :=
  { files := ∅
    descriptors := ∅
    nextFile := 0
    watches := []
    ready := []
    wakeup := .fresh
    inboxLimit := inboxLimit
    portions := []
    watchingBroken := false }

/-- The file behind a descriptor number. -/
def fileOf? (k : Kernel) (fd : Fd) : Option FileId := k.descriptors[fd]?

/-- Whether a descriptor number is open. -/
def isOpen (k : Kernel) (fd : Fd) : Bool := (k.fileOf? fd).isSome

/-- One end of a connection, if the file is one. -/
def endpoint? (k : Kernel) (f : FileId) : Option Endpoint :=
  match k.files[f]? with
  | some (.endpoint e) => some e
  | _ => none

/-- What a source is ready for, if the file is one. -/
def source? (k : Kernel) (f : FileId) : Option Readiness :=
  match k.files[f]? with
  | some (.source state) => some state
  | _ => none

/-- Whether a file can be watched: devices and what is gone cannot. -/
def canWatch (k : Kernel) (f : FileId) : Bool := (k.endpoint? f).isSome || (k.source? f).isSome

/-- Replaces the state of an endpoint. -/
def setEndpoint (k : Kernel) (f : FileId) (e : Endpoint) : Kernel :=
  { k with files := k.files.insert f (.endpoint e) }

/-- Replaces what a source is ready for. -/
def setSource (k : Kernel) (f : FileId) (state : Readiness) : Kernel :=
  { k with files := k.files.insert f (.source state) }

/-- How many more bytes the inbox of a file takes; what is no endpoint any more takes everything,
since the write fails before. -/
def room (k : Kernel) (f : FileId) : Option Nat :=
  match k.inboxLimit, k.endpoint? f with
  | some limit, some e => some (limit - e.inbox.length)
  | _, _ => none

/-- Whether the inbox of a file takes another byte. -/
def hasRoom (k : Kernel) (f : FileId) : Bool := k.room f != some 0

/-- What a file is ready for. -/
def readiness (k : Kernel) (f : FileId) : Readiness :=
  match k.endpoint? f with
  | none => (k.source? f).getD .nothing
  | some e =>
    { input := !e.inbox.isEmpty || e.inputShut
      peerClosed := e.inputShut
      output := k.hasRoom e.peer
      hangUp := e.inputShut && e.outputShut
      error := e.broken }

/-- What a watched entry is ready for, as far as it asks. -/
def watchReadiness (k : Kernel) (w : Watch) : Readiness := (k.readiness w.file).masked w.interest

/-- Puts entries at the end of the ready queue, each unless it is queued already. -/
def enqueue (k : Kernel) (keys : List WatchKey) : Kernel :=
  { k with
    ready := keys.foldl (fun ready key => if key ∈ ready then ready else ready ++ [key]) k.ready }

/-- Queues the entries of a file that a condition picks, the latest entry first. -/
def alert (k : Kernel) (f : FileId) (picks : Watch → Bool) : Kernel :=
  k.enqueue ((k.watches.filter fun w => w.file == f && picks w).map Watch.key)

end Kernel

end EventLoop
