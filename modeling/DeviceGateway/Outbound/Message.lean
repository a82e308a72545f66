import DeviceGateway.Connection.Id
import DeviceGateway.Wire.Error

/-!
# Messages to devices

A message for one device, and why it was not sent.
-/

namespace DeviceGateway

structure OutboundMessage where
  connection : ConnectionId
  topic : String
  content : String
  deriving DecidableEq, Repr

/-- Why a writer does not take a packet. -/
inductive SendError
  | closed
  | encode (e : EncodeError)
  deriving DecidableEq, Repr

def SendError.message : SendError → String
  | closed => "connection closed"
  | encode e => s!"encode error: {e.message}"

/-- Why a message was not sent. -/
inductive PublishError
  | emptyTopic
  | emptyContent
  | notConnected (connection : ConnectionId)
  | closed (connection : ConnectionId)
  | encode (e : EncodeError)
  deriving DecidableEq, Repr

/-- The error in words, with a name for each connection. -/
def PublishError.message (label : ConnectionId → String) : PublishError → String
  | emptyTopic => "topic must not be empty"
  | emptyContent => "content must not be empty"
  | notConnected c => s!"{label c} is not connected"
  | closed c => s!"{label c} is closed"
  | encode e => s!"encode error: {e.message}"

/-- What came of sending a message. -/
abbrev Sent := Except PublishError Unit

end DeviceGateway
