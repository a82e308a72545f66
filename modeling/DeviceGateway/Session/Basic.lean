import DeviceGateway.Bytes
import DeviceGateway.Connection.Id
import DeviceGateway.Net.Address
import DeviceGateway.Outbound.Message

/-!
# Sessions

The session of a device, with the connection that carries it. A device that connects again keeps its
session, which is bound to the new connection.
-/

namespace DeviceGateway

/-- The connection of a device that comes online, and what it came with. -/
structure Arrival (π : Type) where
  identity : String
  connection : ConnectionId
  address : SocketAddress
  username : Option String := none
  password : Option Bytes := none
  publisher : π
  deriving DecidableEq, Repr

structure Session (ε π : Type) where
  identity : String
  connection : ConnectionId
  address : SocketAddress
  username : Option String
  password : Option Bytes
  publisher : π
  /-- what the application keeps with the session -/
  extension : ε
  deriving DecidableEq, Repr

namespace Session

variable {ε π : Type}

/-- The session of a device that was not online. -/
def start (fresh : ε) (a : Arrival π) : Session ε π :=
  ⟨a.identity, a.connection, a.address, a.username, a.password, a.publisher, fresh⟩

/-- The session on another connection. -/
def rebind (s : Session ε π) (a : Arrival π) : Session ε π :=
  { s with
    connection := a.connection
    address := a.address
    username := a.username
    password := a.password
    publisher := a.publisher }

/-- A message to the device of the session. -/
def messageOf (s : Session ε π) (topic content : String) : OutboundMessage :=
  ⟨s.connection, topic, content⟩

end Session

end DeviceGateway
