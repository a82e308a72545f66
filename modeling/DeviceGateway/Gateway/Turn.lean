import DeviceGateway.Gateway.Exchange

/-!
# Turns of a connection

A connection takes a turn when something happened to it. It reads what came, writes what waits in
its writer, and in the end it may be over; then it is taken out of the gateway in the same turn.
-/

namespace DeviceGateway

/-- What happened to a connection. -/
inductive Signal
  | bytes (b : Bytes)
  | endOfStream
  | readFailure (text : String)
  /-- something waits in the writer, or the writer was closed -/
  | writer
  /-- time has passed -/
  | clock
  deriving DecidableEq, Repr

/-- What a turn came to. -/
structure Turn (ε : Type) where
  /-- what was written to the device -/
  written : Bytes := []
  ended : Option Ending := none
  /-- the identity of the device when the connection ended -/
  identity : Option String := none
  gateway : Gateway ε

namespace Gateway

variable {ε : Type} (svc : Service ε) (writeFailure : Option String) (now : Duration)
  (c : ConnectionId) (conn : Connection) (g : Gateway ε)

/-- Writes what waits in the writer. Where writing fails, it fails only if there is something. -/
def flush : Turn ε :=
  let (b, o) := g.outbound.take conn.writer
  let g := { g with outbound := o }
  match writeFailure with
  | some e => if b = [] then { gateway := g } else { ended := some (.error (.io e)), gateway := g }
  | none => { written := b, gateway := g }

def isWriterOpen : Bool := ((g.outbound.writer? conn.writer).map (·.isOpen)).getD false

/-- The turn of a connection up to its end. Answers to what came before something wrong still go
out. -/
def respond : Signal → Turn ε
  | .bytes b =>
    let conn := { conn with deadline := now + svc.idleTimeout }
    let (ended, g) := g.receive svc c conn b
    let t := g.flush writeFailure conn
    { t with ended := t.ended <|> ended }
  | .endOfStream =>
    { ended := some (.ok ()), gateway := g.note (.closedByPeer ⟨c, conn.identity⟩) }
  | .readFailure e => { ended := some (.error (.io e)), gateway := g }
  | .writer =>
    let t := g.flush writeFailure conn
    if t.ended.isSome || g.isWriterOpen conn then t
    else
      { t with
        ended := some (.error .shutdown)
        gateway := t.gateway.note (.writerClosed ⟨c, conn.identity⟩) }
  | .clock =>
    { ended := if conn.deadline ≤ now then some (.error .idleTimeout) else none, gateway := g }

/-- The turn of a connection. -/
def turn (s : Signal) : Turn ε :=
  match g.connection? c with
  | some conn =>
    let t := g.respond svc writeFailure now c conn s
    if t.ended.isSome then
      { t with
        identity := (t.gateway.connection? c).bind (·.identity)
        gateway := t.gateway.tearDown svc c }
    else t
  | none => { gateway := g }

end Gateway

end DeviceGateway
