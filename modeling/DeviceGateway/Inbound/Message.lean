import DeviceGateway.Connection.Id
import DeviceGateway.Net.Address
import DeviceGateway.Outbound.Message

/-!
# Messages from devices
-/

namespace DeviceGateway

/-- A message from a device, with the connection it came on. -/
structure Inbound (π : Type) where
  connection : ConnectionId
  topic : String
  content : String
  address : SocketAddress
  publisher : π
  deriving DecidableEq, Repr

namespace Inbound

variable {π : Type}

/-- An answer to the device that a message came from. -/
def replyOf (m : Inbound π) (topic content : String) : OutboundMessage :=
  ⟨m.connection, topic, content⟩

end Inbound

end DeviceGateway
