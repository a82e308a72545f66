import DeviceGateway.Tls.Material

/-!
# Starting

Before a gateway runs it has to listen on its address and to have its TLS material, in this order.
Whether it can depends on the machine.
-/

namespace DeviceGateway

/-- What a machine lets a program do. -/
structure Host where
  /-- how many threads it runs at once -/
  parallelism : Nat
  files : TlsMaterial.Files
  /-- why it does not let the program listen on an address -/
  refusal? : SocketAddress → Option String

inductive StartError
  | listen (address : SocketAddress) (reason : String)
  | tls (e : TlsError)
  deriving DecidableEq, Repr

def StartError.message : StartError → String
  | listen a reason => s!"cannot listen on {a.text}: {reason}"
  | tls e => s!"TLS setup failed: {e.label}"

namespace Host

def loadTls (h : Host) : Option TlsFiles → Except TlsError (Option TlsMaterial)
  | some files => (TlsMaterial.load h.files files).map some
  | none => .ok none

/-- The TLS material of a gateway that can start. -/
def prepare (h : Host) (s : Settings) : Except StartError (Option TlsMaterial) :=
  match h.refusal? s.address with
  | some reason => .error (.listen s.address reason)
  | none => (h.loadTls s.tls).mapError .tls

end Host

end DeviceGateway
