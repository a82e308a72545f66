import DeviceGateway.Charset
import DeviceGateway.Index
import DeviceGateway.Log
import DeviceGateway.Packet.Layout

/-!
# Writers of connections

Packets for a device wait in the writer of its connection until they are taken to the network. A
writer holds whole packets only: what does not encode leaves no trace (`Writer.send`). The table
says which writer a connection has; several connections may share one. A message goes to the
connection it names (`Outbound.publish`).
-/

namespace DeviceGateway

/-! ### Writers -/

structure Writer where
  /-- the written packets that wait, latest first -/
  packets : List Bytes := []
  isOpen : Bool := true
  deriving DecidableEq, Repr

namespace Writer

/-- The octets that wait, in order. -/
def buffer (w : Writer) : Bytes := w.packets.reverse.flatten

def send (w : Writer) (p : Packet) : Except SendError Writer :=
  if w.isOpen then
    match p.encode with
    | .ok b => .ok { w with packets := b :: w.packets }
    | .error e => .error (.encode e)
  else .error .closed

def close (w : Writer) : Writer := { w with isOpen := false }

/-- The octets that wait, and the writer without them. -/
def take (w : Writer) : Bytes × Writer := (w.buffer, { w with packets := [] })

@[simp] theorem buffer_take (w : Writer) : w.take.2.buffer = [] := rfl

end Writer

/-! ### The table -/

/-- The writers by number, and the number of each connection's writer. -/
structure Outbound where
  charset : Charset
  writers : List Writer := []
  routes : Index ConnectionId Nat := ∅

namespace Outbound

variable (o : Outbound)

/-- Adds a writer, and gives its number. -/
def addWriter : Nat × Outbound :=
  (o.writers.length, { o with writers := o.writers ++ [{}] })

def insert (c : ConnectionId) (writer : Nat) : Outbound :=
  { o with routes := o.routes.insert c writer }

def remove (c : ConnectionId) : Outbound := { o with routes := o.routes.erase c }

/-- The number of a connection's writer. -/
def route? (c : ConnectionId) : Option Nat := o.routes.get? c

def writer? (n : Nat) : Option Writer := o.writers[n]?

def modify (n : Nat) (f : Writer → Writer) : Outbound :=
  { o with writers := o.writers.modify n f }

def close (n : Nat) : Outbound := o.modify n Writer.close

/-- Closes the writers of all connections in the table. -/
def closeAll : Outbound := (o.routes.entries.map Prod.snd).foldl close o

/-- Takes what waits in a writer. -/
def take (n : Nat) : Bytes × Outbound :=
  match o.writer? n with
  | some w => (w.buffer, o.modify n fun w => w.take.2)
  | none => ([], o)

/-- Puts a packet into a writer. -/
def send (n : Nat) (p : Packet) : Except SendError Outbound :=
  match o.writer? n with
  | some w => (w.send p).map fun w => { o with writers := o.writers.set n w }
  | none => .error .closed

/-- The packet that carries a message. -/
def packetOf (m : OutboundMessage) : Packet :=
  .publish { topic := m.topic, payload := o.charset.encode m.content }

def publish (m : OutboundMessage) : Except PublishError Outbound :=
  if m.topic = "" then .error .emptyTopic
  else if m.content = "" then .error .emptyContent
  else
    match o.route? m.connection with
    | none => .error (.notConnected m.connection)
    | some n =>
      match o.send n (o.packetOf m) with
      | .ok o => .ok o
      | .error .closed => .error (.closed m.connection)
      | .error (.encode e) => .error (.encode e)

end Outbound

end DeviceGateway
