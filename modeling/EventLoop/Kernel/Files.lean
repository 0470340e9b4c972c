import EventLoop.Kernel.Basic

/-!
Opening, using and closing files. Whatever may make a watched file ready puts its entries into the
ready queue.

* `Kernel.openPair`, `Kernel.openFile` and `Kernel.duplicate` open descriptor numbers, and
  `Kernel.become` changes what a source is ready for.
* `Kernel.close` closes one; with the last number of a file the file goes, and its watched entries
  with it.
* `Kernel.send` and `Kernel.receive` move bytes, `Kernel.arrived` counts those not received yet.
* `Kernel.shutOutput` and `Kernel.shutBoth` end the directions of a connection.
-/

namespace EventLoop.Kernel

/-- Opens a connected pair of endpoints under two numbers. -/
def openPair (k : Kernel) (a b : Fd) : Kernel :=
  let f := k.nextFile
  let g := k.nextFile + 1
  { k with
    files := (k.files.insert f (.endpoint (.connectedTo g))).insert g (.endpoint (.connectedTo f))
    descriptors := (k.descriptors.insert a f).insert b g
    nextFile := k.nextFile + 2 }

/-- Opens a file of its own under a number: the device or a source. -/
def openFile (k : Kernel) (fd : Fd) (file : File) : Kernel :=
  { k with
    files := k.files.insert k.nextFile file
    descriptors := k.descriptors.insert fd k.nextFile
    nextFile := k.nextFile + 1 }

/-- Changes what the source behind a number is ready for. -/
def become (k : Kernel) (fd : Fd) (state : Readiness) : Kernel :=
  match k.fileOf? fd with
  | none => k
  | some f =>
    match k.source? f with
    | none => k
    | some _ => (k.setSource f state).alert f fun _ => true

/-- Opens a second number for the file behind a number. -/
def duplicate (k : Kernel) (source target : Fd) : Kernel :=
  match k.fileOf? source with
  | none => k
  | some f => { k with descriptors := k.descriptors.insert target f }

/-- The end of an endpoint as its peer sees it: nothing passes any more, and the connection counts
as broken if the endpoint left something unread. -/
def orphan (k : Kernel) (f : FileId) (unread : Bool) : Kernel :=
  match k.endpoint? f with
  | none => k
  | some e =>
    let e := { e with inputShut := true, outputShut := true, broken := e.broken || unread }
    (k.setEndpoint f e).alert f fun _ => true

/-- The end of a file: its watched entries vanish, and its peer learns of it. -/
def release (k : Kernel) (f : FileId) : Kernel :=
  let bereaved := k.endpoint? f
  let k := { k with
    files := k.files.erase f
    watches := k.watches.filter (·.file != f)
    ready := k.ready.filter fun
      | .wakeup => true
      | .entry g _ => g != f }
  match bereaved with
  | none => k
  | some e => k.orphan e.peer (!e.inbox.isEmpty)

/-- Closes a number; the file ends with its last number. -/
def close (k : Kernel) (fd : Fd) : Kernel :=
  match k.fileOf? fd with
  | none => k
  | some f =>
    let k := { k with descriptors := k.descriptors.erase fd }
    if k.descriptors.any fun _ g => g == f then k else k.release f

/-- The endpoint behind a number, with its file. -/
def endpointOf (k : Kernel) (fd : Fd) : Except OsError (FileId × Endpoint) :=
  match k.fileOf? fd with
  | none => .error .badDescriptor
  | some f =>
    match k.endpoint? f with
    | none => .error .notSocket
    | some e => .ok (f, e)

/-- The part of some bytes that there is room for. -/
def fitting (k : Kernel) (f : FileId) (data : List UInt8) : List UInt8 :=
  match k.room f with
  | none => data
  | some n => data.take n

/-- The part of some bytes that the next send to a file takes: no more than fits, nor than its
portion is. -/
def portion (k : Kernel) (f : FileId) (data : List UInt8) : List UInt8 :=
  match k.portions with
  | [] => k.fitting f data
  | n :: _ => (k.fitting f data).take (max n 1)

/-- Sends bytes to the peer: a part of them, and how many those were. A peer that takes nothing is
full. -/
def send (k : Kernel) (fd : Fd) (data : List UInt8) : Except OsError (Kernel × Nat) := do
  let (_, e) ← k.endpointOf fd
  if e.outputShut then throw .brokenPipe
  if data.isEmpty then return (k, 0)
  match k.endpoint? e.peer with
  | none => throw .brokenPipe
  | some p =>
    let taken := k.portion e.peer data
    if taken.isEmpty then throw .wouldBlock
    let k := { k with portions := k.portions.tail }
    let k := k.setEndpoint e.peer { p with inbox := p.inbox ++ taken }
    return (k.alert e.peer (·.interest.read), taken.length)

/-- Receives at most so many bytes; no bytes mean the end of the input. A break of the connection is
told once, after everything that arrived before it. Where the inbox had been full, the peer can
write again. -/
def receive (k : Kernel) (fd : Fd) (most : Nat) : Kernel × Except OsError (List UInt8) :=
  match k.endpointOf fd with
  | .error e => (k, .error e)
  | .ok (f, e) =>
    if e.inbox.isEmpty then
      if e.broken then (k.setEndpoint f { e with broken := false }, .error .connectionReset)
      else if e.inputShut then (k, .ok [])
      else (k, .error .wouldBlock)
    else
      let wasFull := !k.hasRoom f
      let k := k.setEndpoint f { e with inbox := e.inbox.drop most }
      (if wasFull then k.alert e.peer (·.interest.write) else k, .ok (e.inbox.take most))

/-- How many bytes have arrived at a number and were not read yet. -/
def arrived (k : Kernel) (fd : Fd) : Nat :=
  match k.endpointOf fd with
  | .error _ => 0
  | .ok (_, e) => e.inbox.length

/-- Ends directions of a connection, for both of its ends. -/
def shut (k : Kernel) (fd : Fd) (output input : Bool) : Kernel :=
  match k.endpointOf fd with
  | .error _ => k
  | .ok (f, e) =>
    let k := k.setEndpoint f
      { e with outputShut := e.outputShut || output, inputShut := e.inputShut || input }
    let k := k.alert f fun _ => true
    match k.endpoint? e.peer with
    | none => k
    | some p =>
      let k := k.setEndpoint e.peer
        { p with inputShut := p.inputShut || output, outputShut := p.outputShut || input }
      k.alert e.peer fun _ => true

/-- Nothing more will be sent from a number. -/
def shutOutput (k : Kernel) (fd : Fd) : Kernel := k.shut fd true false

/-- Nothing more will pass to or from a number. -/
def shutBoth (k : Kernel) (fd : Fd) : Kernel := k.shut fd true true

end EventLoop.Kernel
