import DeviceGateway.Outbound.Table
import DeviceGateway.Reaction

/-!
# Publishing

Messages on their way through the table of writers. A publisher is made for a connection but sends
each message to the connection that the message names.
-/

namespace DeviceGateway

namespace Outbound

/-- What there is to note when a message was published or not. A closed connection is no news. -/
def notice? (m : OutboundMessage) : Sent → Option Notice
  | .ok () => some (.queued m.connection m.topic)
  | .error .emptyTopic => some (.dropped m.connection m.topic .emptyTopic)
  | .error .emptyContent => some (.dropped m.connection m.topic .emptyContent)
  | .error (.notConnected _) => some (.dropped m.connection m.topic .notConnected)
  | .error (.closed _) => none
  | .error (.encode e) => some (.dropped m.connection m.topic (.notEncoded e))

end Outbound

namespace Surroundings

/-- Publishes a message. One that is not sent leaves the writers as they are. -/
def publish (w : Surroundings Outbound) (m : OutboundMessage) : Sent × Surroundings Outbound :=
  let (sent, o) : Sent × Outbound := match w.outbound.publish m with
    | .ok o => (.ok (), o)
    | .error e => (.error e, w.outbound)
  let w := { w with outbound := o }
  (sent, match Outbound.notice? m sent with
    | some n => w.note n
    | none => w)

end Surroundings

/-- The publishers of connections. -/
def Transport.table : Transport ConnectionId Outbound := fun _ m w => w.publish m

/-- Publishes to the connection that a publisher is made for. -/
def Transport.reply {τ : Type} (publish : Transport ConnectionId τ) (connection : ConnectionId)
    (topic content : String) (w : Surroundings τ) : Sent × Surroundings τ :=
  publish connection ⟨connection, topic, content⟩ w

end DeviceGateway
