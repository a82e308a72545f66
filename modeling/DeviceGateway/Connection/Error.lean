import DeviceGateway.Wire.Error

/-!
# How connections end
-/

namespace DeviceGateway

/-- Why a connection ended, other than by the will of the device. -/
inductive ConnectionError
  | io (text : String)
  | protocol (e : ProtocolError)
  | decode (e : DecodeError)
  | idleTimeout
  | shutdown
  deriving DecidableEq, Repr

def ConnectionError.message : ConnectionError → String
  | io text => s!"IO error: {text}"
  | protocol e => s!"Protocol error: {e.message}"
  | decode e => s!"Decode error: {e.message}"
  | idleTimeout => "Idle timeout"
  | shutdown => "Shutdown"

/-- How a connection ended. -/
abbrev Ending := Except ConnectionError Unit

end DeviceGateway
