import DeviceGateway.Charset
import DeviceGateway.Duration
import DeviceGateway.Net.Address
import DeviceGateway.Packet.Decode

/-!
# Settings of a gateway

What a gateway runs with. A value of zero asks for the default; `Settings.normalized` puts the
defaults in and brings the counts of threads into range, and `Settings.override` replaces single
values.
-/

namespace DeviceGateway

/-- The files of TLS. -/
structure TlsFiles where
  certificate : String
  key : String
  clientAuthority : Option String := none
  /-- whether a client has to show a certificate -/
  requireClient : Bool := false
  deriving DecidableEq, Repr

structure Settings where
  address : SocketAddress := ⟨.unspecified, 1883, 0⟩
  acceptThreads : Nat := 1
  ioThreads : Nat := 0
  idleTimeout : Duration := .ofSeconds 90
  maxPacketSize : Nat := Packet.defaultMaxSize
  queueCapacity : Nat := 100000
  charset : Charset := .utf8
  tls : Option TlsFiles := none
  deriving DecidableEq, Repr

namespace Settings

def maxAcceptThreads : Nat := 5

def maxIoThreads : Nat := 100

def defaultIdleTimeout : Duration := .ofSeconds 90

def defaultQueueCapacity : Nat := 100000

/-- The default stands for zero. -/
def orDefault (default n : Nat) : Nat := if n = 0 then default else n

/-- The settings with defaults for zeros and thread counts in range, on a machine that runs
`parallelism` threads at once. -/
def normalized (parallelism : Nat) (s : Settings) : Settings :=
  { s with
    acceptThreads := max 1 (min s.acceptThreads maxAcceptThreads)
    ioThreads := min (orDefault parallelism s.ioThreads) maxIoThreads
    idleTimeout := if s.idleTimeout.nanoseconds = 0 then defaultIdleTimeout else s.idleTimeout
    maxPacketSize := orDefault Packet.defaultMaxSize s.maxPacketSize
    queueCapacity := orDefault defaultQueueCapacity s.queueCapacity }

/-- Values that stand in for those of the settings. -/
structure Overrides where
  address : Option SocketAddress := none
  acceptThreads : Option Nat := none
  ioThreads : Option Nat := none
  idleTimeout : Option Duration := none
  maxPacketSize : Option Nat := none
  queueCapacity : Option Nat := none
  charset : Option Charset := none
  deriving DecidableEq, Repr

def override (s : Settings) (o : Overrides) : Settings :=
  { s with
    address := o.address.getD s.address
    acceptThreads := o.acceptThreads.getD s.acceptThreads
    ioThreads := o.ioThreads.getD s.ioThreads
    idleTimeout := o.idleTimeout.getD s.idleTimeout
    maxPacketSize := o.maxPacketSize.getD s.maxPacketSize
    queueCapacity := o.queueCapacity.getD s.queueCapacity
    charset := o.charset.getD s.charset }

end Settings

end DeviceGateway
