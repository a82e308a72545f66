import DeviceGateway.Gateway.Basic
import DeviceGateway.Packet.Stream

/-!
# Exchange of packets

What a gateway does with the packets of a connection, in their order: it answers them, puts messages
into the queue, and binds the connection to a session when the device connects. `Gateway.receive`
takes octets as they come; it handles every packet that is complete and keeps the rest.
-/

namespace DeviceGateway.Gateway

variable {ε : Type} (svc : Service ε) (c : ConnectionId) (conn : Connection) (g : Gateway ε)

/-- Puts an answer into the writer of a connection. One that cannot be sent is noted. -/
def reply (p : Packet) : Gateway ε :=
  match g.outbound.send conn.writer p with
  | .ok o => { g with outbound := o }
  | .error e => g.note (.notSent ⟨c, conn.identity⟩ p.name e)

/-! ### Connecting -/

def login (p : Connect) : Login := ⟨p.clientId, p.username, p.password⟩

/-- Asks the verifier about a client. -/
def verify (p : Connect) : Bool × Gateway ε :=
  match svc.verifier with
  | none => (true, g)
  | some v =>
    let verdict := v ⟨login p, g.journal.entries⟩
    let g := (g.record (.verify (login p))).noteAll verdict.notices
    (verdict.admits, match verdict.accepted with
      | .ok _ => g
      | .error panic => g.note (.panicked (.verifier c p.clientId) panic))

/-- Makes the connection that of an identity, and says so to the device. -/
def establish (p : Connect) (identity : String) : Gateway ε :=
  let (_, presence) := g.toPresence.online svc.handler .table
    ⟨identity, c, conn.address, p.username, p.password, c⟩
  let conn := { conn with identity := some identity }
  ({ g with toPresence := presence }.setConnection c conn).reply c conn (.connAck false .accepted)

/-- Without an identity the connection stays open, but gets no session and no answer. -/
def connect (p : Connect) : Option Ending × Gateway ε :=
  let g := g.note (.connect c conn.address p)
  match g.verify svc c p with
  | (false, g) =>
    (some (.error (.protocol .notAuthorized)),
      g.note (.rejected c conn.address p.clientId p.username))
  | (true, g) =>
    let identity := svc.handler.identify g.journal.entries p.clientId
    let g := g.record (.identify p.clientId)
    match identity with
    | .ok identity => (none, g.establish svc c conn p identity)
    | .error panic =>
      (none, (g.note (.panicked (.identityMapping c p.clientId) panic)).note
        (.noIdentity c conn.address p.clientId))

/-! ### Messages from the device -/

/-- Puts a message into the queue. One that the queue does not take is lost. -/
def enqueue (m : Inbound ConnectionId) : Gateway ε :=
  match g.queue.enqueue m with
  | .ok q => { g with queue := q }
  | .error (.full m) => g.note (.queueFull ⟨c, conn.identity⟩ g.queue.capacity m.topic)
  | .error (.closed m) => g.note (.queueClosed ⟨c, conn.identity⟩ m.topic)

/-- The answer to a message, which does not depend on what becomes of it. -/
def acknowledgement? (p : Publish) : Option Packet :=
  match p.qos, p.packetId with
  | .atLeastOnce, some id => some (.pubAck id)
  | .exactlyOnce, some id => some (.pubRec id)
  | _, _ => none

def takeMessage (p : Publish) : Gateway ε :=
  let g := g.note (.publish ⟨c, conn.identity⟩ p)
  let g := match acknowledgement? p with
    | some answer => g.reply c conn answer
    | none => g
  g.enqueue c conn ⟨c, p.topic, svc.charset.decode p.payload, conn.address, c⟩

/-! ### All packets -/

/-- Handles a packet, and gives the end of the connection if the packet ends it. -/
def handle (p : Packet) : Option Ending × Gateway ε :=
  let peer : Peer := ⟨c, conn.identity⟩
  let early := match p, conn.identity with
    | .connect _, _ | _, some _ => g
    | _, none => g.note (.beforeConnect c conn.address p.name)
  match p with
  | .connect p => g.connect svc c conn p
  | .publish p => (none, early.takeMessage svc c conn p)
  | .pubRel id => (none, early.reply c conn (.pubComp id))
  | .subscribe id subscriptions =>
    (none, (early.note (.subscribe peer id (subscriptions.map (·.filter)))).reply c conn
      (.subAck id (subscriptions.map fun s => .granted s.qos)))
  | .unsubscribe id filters =>
    (none, (early.note (.unsubscribe peer id filters)).reply c conn (.unsubAck id))
  | .pingReq => (none, early.reply c conn .pingResp)
  | .disconnect => (some (.ok ()), early.note (.disconnect peer))
  | p => (none, early.note (.ignored peer p.name))

/-- Handles packets in their order, up to one that ends the connection. -/
def handleAll : List Packet → Gateway ε → Option Ending × Gateway ε
  | [], g => (none, g)
  | p :: ps, g =>
    match g.connection? c with
    | none => (none, g)
    | some conn =>
      match g.handle svc c conn p with
      | (none, g) => handleAll ps g
      | ended => ended

/-- Takes octets from a device. What is wrong ends the connection, but only behind the packets
before it. -/
def receive (b : Bytes) : Option Ending × Gateway ε :=
  let d := Drained.ofBuffer svc.packetLimit (conn.unread ++ b)
  match handleAll svc c d.packets (g.setConnection c { conn with unread := d.rest }) with
  | (none, g) => (d.failure.map fun e => .error (.decode e), g)
  | ended => ended

end DeviceGateway.Gateway
