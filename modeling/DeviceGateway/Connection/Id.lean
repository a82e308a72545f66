import DeviceGateway.Text.Digits

/-!
# Connection identifiers

Every accepted connection has a number that no other connection of the process has.
-/

namespace DeviceGateway

structure ConnectionId where
  raw : Nat
  deriving DecidableEq, Repr, Inhabited

namespace ConnectionId

/-- The identifier as messages and log lines show it. -/
def label (id : ConnectionId) : String := "conn-" ++ Digits.hex id.raw

end ConnectionId

end DeviceGateway
