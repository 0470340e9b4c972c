import EventLoop.Echo.Server
import EventLoop.Kernel.Actions
import EventLoop.Text.Utf8

/-!
Sessions with an echo server and its clients. A client holds the other end of the connection that
the server was handed.

* `Echoing.Op` is what can be done, `Echoing.Reply` what comes back.
* `Echoing` is the server with the names of its clients.
* `Echoing.perform` does one operation.
-/

namespace EventLoop.Session

namespace Echoing

/-- Whether clients reach a server over the network. -/
inductive Network where
  | loopback
  | unreachable
deriving DecidableEq

/-- The operations of a session. -/
inductive Op where
  /-- Connects a client. -/
  | connect (client : String)
  /-- Hands the server a device in the place of a connection. -/
  | connectDevice (client : String)
  | send (client : String) (text : String)
  | receive (client : String)
  /-- The client announces that it sends no more. -/
  | half (client : String)
  /-- The client goes. -/
  | hangUp (client : String)
  | settle
  | close (client : String)
  | touch (client : String)
  | readable (client : String)
  | flush (client : String)
  /-- Adds to what is to be written to a client. -/
  | queue (client : String) (text : String)
  | outbox (client : String)
  | state
  /-- The client sends so many bytes, repeating a text, and then reads as many. -/
  | bulk (client : String) (text : String) (bytes : Nat)
  /-- Clients connect over the network, each with a message. -/
  | network (messages : List String)
  /-- Accepts from a socket that does not listen. -/
  | acceptNothing
  /-- Talks to the server over the network from its beginning to its end. -/
  | demonstrate
  | unknown

/-- A client: its own descriptor and the server's, and whether it has gone. -/
structure Client where
  own : Fd
  served : Fd
  gone : Bool

/-- How a bulk transfer went. -/
structure Transfer where
  sent : Nat
  received : Nat
  /-- The digest of the received bytes. -/
  digest : UInt64

/-- What an operation answers. -/
inductive Reply where
  | done
  | count (value : Nat)
  | brokenPipe
  | received (text : String) (ending : Kernel.Ending)
  | text (value : String)
  | state (connections registered pending : Nat)
  | transfer (result : Transfer)
  | network (accepted : Nat) (replies : List String)
  | demonstration (lines : List String) (result : Except OsError Unit)
  | inUse
  | noClient
  | failed (fault : Fault)
  | unknown

/-- A line that the server prints, to users or as a complaint. -/
structure Line where
  complaint : Bool
  text : String

end Echoing

/-- A session with an echo server. -/
structure Echoing where
  network : Echoing.Network
  server : Echo.Server
  clients : List (String × Echoing.Client)
  /-- The next descriptor that is free. -/
  nextFd : Fd
  /-- How many clients connected over the network. -/
  visitors : Nat

namespace Echoing

/-- How much a socket holds. -/
def socketCapacity : Nat := 212992

/-- A session with a fresh server that has one worker. -/
def start (network : Network) : Echoing :=
  ⟨network, .start (.boot (some socketCapacity)) 1, [], 10, 0⟩

/-- The client of a name. -/
def client? (s : Echoing) (name : String) : Option Client := s.clients.lookup name

/-- The client of a name, unless it has gone. -/
def present? (s : Echoing) (name : String) : Option Client := (s.client? name).filter (!·.gone)

/-- Replaces the state of the operating system. -/
def setKernel (s : Echoing) (kernel : Kernel) : Echoing :=
  { s with server := s.server.setKernel kernel }

/-- Hands the server a new connection. -/
def connect (s : Echoing) (name : String) : Echoing :=
  let client : Client := ⟨s.nextFd + 1, s.nextFd, false⟩
  let s := s.setKernel (s.server.kernel.openPair client.served client.own)
  { s with
    server := (s.server.connect client.served).1
    clients := (name, client) :: s.clients
    nextFd := s.nextFd + 2 }

/-- The name under which a descriptor of the server is printed. -/
def nameOf (s : Echoing) (fd : Fd) : String :=
  match s.clients.find? (·.2.served == fd) with
  | some (name, _) => name
  | none => toString fd

/-- The line of something printed. -/
def render (name : Fd → String) : Echo.Printed → Line
  | .closed fd => ⟨false, s!"closed connection {name fd}"⟩
  | .writeFailed e => ⟨true, s!"write failed: {e.render}"⟩
  | .acceptFailed e => ⟨true, s!"accept failed: {e.render}"⟩
  | .noWorker failure => ⟨true, failure.render⟩

/-- Takes the lines printed during an operation. -/
def takeLines (s : Echoing) (name : Fd → String) : Echoing × List Line :=
  ({ s with server := { s.server with printed := [] } },
    s.server.printed.reverse.map (render name))

/-- Lets the server work off everything. -/
def settle (s : Echoing) : Echoing := { s with server := s.server.settle }

/-- A client sends bytes. -/
def send (s : Echoing) (c : Client) (bytes : List UInt8) : Echoing × Except OsError Nat :=
  match s.server.kernel.send c.own bytes with
  | .error e => (s, .error e)
  | .ok (kernel, count) => (s.setKernel kernel, .ok count)

/-- A client reads all there is. -/
def receive (s : Echoing) (c : Client) : Echoing × List UInt8 × Kernel.Ending :=
  let (kernel, bytes, ending) := s.server.kernel.receiveAll c.own none
  (s.setKernel kernel, bytes, ending)

/-! ### Bulk transfers -/

/-- The digest of no bytes. -/
def digestStart : UInt64 := 0xcbf29ce484222325

/-- The digest of bytes appended to those digested before. -/
def digest (start : UInt64) (bytes : List UInt8) : UInt64 :=
  bytes.foldl (fun h b => (h ^^^ b.toUInt64) * 0x100000001b3) start

/-- So many bytes, repeating some. -/
def cycle (bytes : List UInt8) (count : Nat) : List UInt8 :=
  if bytes.isEmpty then []
  else ((List.replicate (count / bytes.length + 1) bytes).flatten).take count

/-- A client sends bytes, and lets the server work whenever its socket is full. The answer is how
many were sent. -/
def sendAll (c : Client) : Nat → Echoing → List UInt8 → Nat → Echoing × Nat
  | 0, s, _, sent => (s, sent)
  | fuel + 1, s, bytes, sent =>
    if bytes.isEmpty then (s, sent)
    else
      match s.send c bytes with
      | (s, .ok count) => sendAll c fuel s (bytes.drop count) (sent + count)
      | (s, .error e) =>
        if e = .wouldBlock then sendAll c fuel s.settle bytes sent else (s, sent)

/-- A client reads all there is until it has so many bytes at least, and lets the server work before
each time. -/
def receiveBytes (c : Client) (wanted : Nat) : Nat → Echoing → Nat → UInt64 → Echoing × Nat × UInt64
  | 0, s, received, hash => (s, received, hash)
  | fuel + 1, s, received, hash =>
    if wanted ≤ received then (s, received, hash)
    else
      let (s, bytes, ending) := s.settle.receive c
      let received := received + bytes.length
      let hash := digest hash bytes
      if ending = .again then receiveBytes c wanted fuel s received hash
      else (s, received, hash)

/-- A client sends so many bytes and reads until as many came. Replies to what it had sent before
are among them. -/
def bulk (s : Echoing) (c : Client) (text : String) (bytes : Nat) : Echoing × Transfer :=
  let data := cycle (Text.Utf8.toBytes text) bytes
  let (s, sent) := sendAll c (2 * data.length + 1) s data 0
  let (s, received, hash) := receiveBytes c bytes (data.length + 1) s 0 digestStart
  (s, ⟨sent, received, hash⟩)

/-! ### Over the network -/

/-- The name of a client that came over the network. -/
def visitorName (n : Nat) : String := s!"tcp{n}"

/-- A client connects over the network. -/
def visit (s : Echoing) : Echoing × String :=
  let name := visitorName s.visitors
  ({ s.connect name with visitors := s.visitors + 1 }, name)

/-- A client sends a message and reads the reply. -/
def talk (s : Echoing) (name : String) (message : String) : Echoing × String :=
  match s.present? name with
  | none => (s, "")
  | some c =>
    let (s, _) := s.send c (Text.Utf8.toBytes message)
    let (s, bytes, _) := s.settle.receive c
    (s, Text.Utf8.ofBytes bytes)

/-- A client goes. -/
def hangUp (s : Echoing) (name : String) : Echoing :=
  match s.present? name with
  | none => s
  | some c =>
    { s.setKernel (s.server.kernel.close c.own) with
      clients := s.clients.map fun (n, d) => (n, if n == name then { d with gone := true } else d) }

/-- A client goes, and the server finds out. -/
def depart (s : Echoing) (name : String) : Echoing := (s.hangUp name).settle

/-- Clients connect over the network, each tells its message, and they go in the same order. -/
def visitAll (s : Echoing) (messages : List String) : Echoing × Reply :=
  let (s, names) := messages.foldl (fun (s, names) _ =>
    let (s, name) := s.visit
    (s, names ++ [name])) (s, [])
  let (s, replies) := (names.zip messages).foldl (fun (s, replies) (name, message) =>
    let (s, answer) := s.talk name message
    (s, replies ++ [answer])) (s, [])
  (names.foldl depart s, .network names.length replies)

/-- The messages of the demonstration. -/
def demonstrationMessages : List String := ["hello", "treadle"]

/-- A client talks to a fresh server: the lines that are printed, and how it ends. -/
def demonstrate (network : Network) : List String × Except OsError Unit :=
  let listening := "echo server listening on 127.0.0.1:PORT"
  match network with
  | .unreachable => ([listening], .error .networkUnreachable)
  | .loopback =>
    let s : Echoing := ⟨network, .start (.boot (some socketCapacity)) 4, [], 10, 0⟩
    let (s, name) := s.visit
    let (_, lines) := demonstrationMessages.foldl (fun (s, lines) message =>
      let (s, answer) := s.talk name message
      (s, lines ++ [s!"{message} -> {answer}"])) (s, [listening])
    (lines, .ok ())

/-! ### Operations -/

/-- Does something to the server's side of a client's connection. -/
def serve (s : Echoing) (name : String) (f : Echo.Server → Fd → Echo.Server) : Echoing × Reply :=
  match s.client? name with
  | none => (s, .noClient)
  | some c => ({ s with server := f s.server c.served }, .done)

/-- Hands the server a device in the place of a connection; the name stays free. -/
def connectDevice (s : Echoing) (name : String) : Echoing × Reply × List Line :=
  let fd := s.nextFd
  let s := s.setKernel (s.server.kernel.openFile fd .device)
  let (server, accepted) := s.server.connect fd
  let s := { s with server, nextFd := fd + 1 }
  let (s, lines) := s.takeLines fun _ => name
  let s := s.setKernel (s.server.kernel.close fd)
  (s, if accepted then .done else .failed (.other "reactor refused the connection"), lines)

/-- Does one operation, and leaves what is printed to be collected. -/
def operate (s : Echoing) : Op → Echoing × Reply
  | .connect name =>
    if (s.client? name).isSome then (s, .inUse) else (s.connect name, .done)
  | .send name text =>
    if text.isEmpty then (s, .count 0)
    else
      match s.present? name with
      | none => (s, .noClient)
      | some c =>
        match s.send c (Text.Utf8.toBytes text) with
        | (s, .ok count) => (s, .count count)
        | (s, .error e) => (s, if e = .brokenPipe then .brokenPipe else .failed (.os e))
  | .receive name =>
    match s.present? name with
    | none => (s, .noClient)
    | some c =>
      let (s, bytes, ending) := s.receive c
      (s, .received (Text.Utf8.ofBytes bytes) ending)
  | .half name =>
    match s.present? name with
    | none => (s, .noClient)
    | some c => (s.setKernel (s.server.kernel.shutOutput c.own), .done)
  | .hangUp name =>
    match s.client? name with
    | none => (s, .noClient)
    | some _ => (s.hangUp name, .done)
  | .settle => (s.settle, .done)
  | .close name => s.serve name Echo.Server.close
  | .touch name => s.serve name Echo.Server.touch
  | .readable name => s.serve name fun server fd => (server.onReadable fd).finishJob
  | .flush name => s.serve name Echo.Server.flush
  | .queue name text =>
    match s.client? name with
    | none => (s, .noClient)
    | some c =>
      let s := { s with server := s.server.appendOutbox c.served (Text.Utf8.toBytes text) }
      (s, .count (s.server.outbox c.served).size)
  | .outbox name =>
    match s.client? name with
    | none => (s, .noClient)
    | some c => (s, .text (Text.Utf8.ofBytes (s.server.outbox c.served).toList))
  | .state =>
    let server := s.server
    (s, .state server.connections.size server.loop.reactor.registered server.scheduler.pending)
  | .bulk name text bytes =>
    match s.present? name with
    | none => (s, .noClient)
    | some c =>
      let (s, result) := s.bulk c text bytes
      (s, .transfer result)
  | .network messages =>
    match s.network, messages with
    | .unreachable, _ :: _ => (s, .failed (.os .networkUnreachable))
    | _, messages => s.visitAll messages
  | .acceptNothing => ({ s with server := s.server.accept [.failed .invalid] }, .done)
  | .demonstrate =>
    let (lines, result) := demonstrate s.network
    (s, .demonstration lines result)
  | .connectDevice _ | .unknown => (s, .unknown)

/-- Does one operation: what it answers, and what the server printed meanwhile. -/
def perform (s : Echoing) : Op → Echoing × Reply × List Line
  | .connectDevice name =>
    if (s.client? name).isSome then (s, .inUse, []) else s.connectDevice name
  | op =>
    let (s, reply) := s.operate op
    let (s, lines) := s.takeLines s.nameOf
    (s, reply, lines)

end Echoing

end EventLoop.Session
