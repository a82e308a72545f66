import DeviceGateway.Connection.Error
import DeviceGateway.Inbound.Queue
import DeviceGateway.Outbound.Publisher
import DeviceGateway.Session.Presence

/-!
# Gateway

The connections of a gateway, the writers and sessions that belong to them, and the queue of
messages from devices. What stays the same while a gateway runs is its `Service`.
-/

namespace DeviceGateway

structure Service (ε : Type) where
  charset : Charset := .utf8
  /-- the largest remaining length of a packet from a device -/
  packetLimit : Nat
  /-- how long a connection may be silent -/
  idleTimeout : Duration
  /-- who may connect; without a verifier, everyone -/
  verifier : Option Verifier := none
  handler : Handler ε ConnectionId

structure Connection where
  address : SocketAddress
  /-- the number of its writer -/
  writer : Nat
  /-- the identity of the device, once it has connected -/
  identity : Option String := none
  /-- what was read of a packet that is not complete -/
  unread : Bytes := []
  /-- when the connection will have been silent for too long -/
  deadline : Duration
  deriving DecidableEq, Repr

structure Gateway (ε : Type) extends Presence ε ConnectionId Outbound where
  connections : Index ConnectionId Connection := ∅
  queue : MessageQueue (Inbound ConnectionId)
  /-- the number of the next connection -/
  next : Nat := 1

namespace Gateway

variable {ε : Type}

/-- A gateway without connections. -/
def start (charset : Charset) (queueCapacity : Nat) : Gateway ε where
  outbound := { charset }
  queue := .bounded queueCapacity

def note (g : Gateway ε) (n : Notice) : Gateway ε := { g with journal := g.journal.note n }

def noteAll (g : Gateway ε) (ns : List Notice) : Gateway ε :=
  { g with journal := g.journal.noteAll ns }

def record (g : Gateway ε) (e : Journal.Entry) : Gateway ε :=
  { g with journal := g.journal.record e }

def connection? (g : Gateway ε) (c : ConnectionId) : Option Connection := g.connections.get? c

def setConnection (g : Gateway ε) (c : ConnectionId) (conn : Connection) : Gateway ε :=
  { g with connections := g.connections.modify c fun _ => conn }

/-- The connections that are open, in the order in which they were accepted. -/
def live (g : Gateway ε) : List ConnectionId :=
  g.connections.keys.mergeSort fun c d => c.raw ≤ d.raw

/-! ### Coming and going -/

/-- Takes a connection in, with a writer of its own. -/
def accept (svc : Service ε) (now : Duration) (address : SocketAddress) (g : Gateway ε) :
    ConnectionId × Gateway ε :=
  let c : ConnectionId := ⟨g.next⟩
  let (writer, table) := g.outbound.addWriter
  let conn : Connection := { address, writer, deadline := now + svc.idleTimeout }
  (c, { g with
    outbound := table.insert c writer
    connections := g.connections.insert c conn
    next := g.next + 1 }.note (.accepted c address))

/-- Takes a connection out of everything. A second time there is nothing to do. -/
def tearDown (svc : Service ε) (c : ConnectionId) (g : Gateway ε) : Gateway ε :=
  match g.connection? c with
  | some conn =>
    let g := { g with
      connections := g.connections.erase c
      outbound := (g.outbound.remove c).close conn.writer }
    let (_, p) := g.toPresence.offline svc.handler .table c
    { g with toPresence := p }.note (.tornDown ⟨c, conn.identity⟩)
  | none => g

/-! ### Messages to devices -/

def publish (m : OutboundMessage) (g : Gateway ε) : Sent × Gateway ε :=
  let (sent, w) := g.toSurroundings.publish m
  (sent, { g with toSurroundings := w })

/-- Publishes a message to the device of a session, if there is that session. -/
def publishTo (identity topic content : String) (g : Gateway ε) : Option Sent × Gateway ε :=
  match (g.registry.lookup? identity).bind g.registry.session? with
  | some s =>
    let (sent, g) := g.publish (s.messageOf topic content)
    (some sent, g)
  | none => (none, g)

/-- Closes the writers of all connections, which will then end. -/
def closeAll (g : Gateway ε) : Gateway ε := { g with outbound := g.outbound.closeAll }

/-- Takes the session on a connection offline, and says whether there was one. -/
def takeOffline (svc : Service ε) (c : ConnectionId) (g : Gateway ε) : Bool × Gateway ε :=
  let (n, p) := g.toPresence.offline svc.handler .table c
  (n.isSome, { g with toPresence := p })

end Gateway

end DeviceGateway
