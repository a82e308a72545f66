import DeviceGateway.Settings

/-!
# Configuration

What a configuration file can say, with the defaults for what it does not say. `Config.faults` lists
what is wrong with a configuration, in the order in which it is reported; `Config.validate` reports
the first fault. `Config.settings` gives the settings of the gateway.
-/

namespace DeviceGateway

namespace Config

structure Log where
  level : String := "warn"
  filter : Option String := none
  deriving DecidableEq, Repr

structure Tls where
  certificate : String
  key : String
  clientAuthority : Option String := none
  requireClient : Bool := false
  deriving DecidableEq, Repr

structure Server where
  bind : SocketAddress := ⟨.unspecified, 1883, 0⟩
  acceptThreads : Nat := 1
  ioThreads : Nat := 0
  tls : Option Tls := none
  deriving DecidableEq, Repr

structure Limits where
  maxPacketSize : Nat := Packet.defaultMaxSize
  maxQueuedMessages : Nat := Settings.defaultQueueCapacity
  idleTimeout : Duration := Settings.defaultIdleTimeout
  deriving DecidableEq, Repr

structure User where
  username : String
  password : Option String := none
  passwordHash : Option String := none
  deriving DecidableEq, Repr

structure Auth where
  enabled : Bool := false
  allowAnonymous : Bool := true
  users : List User := []
  deriving DecidableEq, Repr

end Config

structure Config where
  log : Config.Log := {}
  server : Config.Server := {}
  limits : Config.Limits := {}
  charset : Charset := .utf8
  auth : Config.Auth := {}
  deriving DecidableEq, Repr

namespace Config

/-- What can be wrong with a configuration that was read. -/
inductive Fault
  | packetSize
  | noSecret (username : String)
  | twoSecrets (username : String)
  | emptyPassword (username : String)
  | hashFormat (username : String)
  | noCertificate
  | noKey
  | noClientAuthority
  deriving DecidableEq, Repr

namespace Fault

def message : Fault → String
  | packetSize => s!"max_packet_size must not exceed {VarInt.max} bytes"
  | noSecret u => s!"User '{u}' must have either 'password' or 'password_hash'"
  | twoSecrets u => s!"User '{u}' cannot have both 'password' and 'password_hash'"
  | emptyPassword u => s!"User '{u}' has empty password"
  | hashFormat u => s!"User '{u}' has invalid password_hash format (must be argon2 PHC format)"
  | noCertificate => "server.tls.cert is required when TLS is configured"
  | noKey => "server.tls.key is required when TLS is configured"
  | noClientAuthority => "server.tls.ca_cert is required when require_client_cert is set"

end Fault

/-- How the hash of a password begins. -/
def hashMark : List Char := "$argon2".toList

/-- A user has one secret, either a password that is not empty or a hash. -/
def User.fault? (u : User) : Option Fault :=
  match u.password, u.passwordHash with
  | none, none => some (.noSecret u.username)
  | some _, some _ => some (.twoSecrets u.username)
  | some p, none => if p = "" then some (.emptyPassword u.username) else none
  | none, some h => if hashMark.isPrefixOf h.toList then none else some (.hashFormat u.username)

def Tls.fault? (t : Tls) : Option Fault :=
  if t.certificate = "" then some .noCertificate
  else if t.key = "" then some .noKey
  else if t.requireClient ∧ t.clientAuthority = none then some .noClientAuthority
  else none

def Limits.fault? (l : Limits) : Option Fault :=
  if VarInt.max < l.maxPacketSize then some .packetSize else none

/-- Everything that is wrong, at most one fault for each user. -/
def faults (c : Config) : List Fault :=
  c.limits.fault?.toList ++ c.auth.users.filterMap User.fault? ++
    (c.server.tls.bind Tls.fault?).toList

def validate (c : Config) : Except Fault Unit :=
  match c.faults with
  | [] => .ok ()
  | f :: _ => .error f

/-- Why there is no configuration. -/
inductive Error
  /-- the file cannot be read, or is not text -/
  | unreadable
  /-- a document does not say what a configuration says -/
  | notRead
  /-- the layers together do not say what a configuration says -/
  | notMerged
  | invalid (f : Fault)
  deriving DecidableEq, Repr

namespace Error

/-- The kind of an error. -/
def label : Error → String
  | unreadable => "IO error"
  | notRead => "Parse error"
  | notMerged => "Config error"
  | invalid _ => "Validation error"

def message : Error → String
  | invalid f => s!"{label (invalid f)}: {f.message}"
  | e => e.label

end Error

/-- A configuration, if nothing is wrong with it. -/
def validated (c : Config) : Except Error Config :=
  match c.validate with
  | .ok () => .ok c
  | .error f => .error (.invalid f)

def tlsFiles (t : Tls) : TlsFiles := ⟨t.certificate, t.key, t.clientAuthority, t.requireClient⟩

/-- The settings that a configuration asks for, normalized. -/
def settings (parallelism : Nat) (c : Config) : Settings :=
  Settings.normalized parallelism
    { address := c.server.bind
      acceptThreads := c.server.acceptThreads
      ioThreads := c.server.ioThreads
      idleTimeout := c.limits.idleTimeout
      maxPacketSize := c.limits.maxPacketSize
      queueCapacity := c.limits.maxQueuedMessages
      charset := c.charset
      tls := c.server.tls.map tlsFiles }

/-! ### What is reported first -/

variable {c : Config} {f : Fault}

theorem validate_eq_ok : c.validate = .ok () ↔ c.faults = [] := by
  unfold validate
  split <;> simp_all

theorem validate_eq_error : c.validate = .error f ↔ c.faults.head? = some f := by
  unfold validate
  split <;> simp_all

end Config

end DeviceGateway
