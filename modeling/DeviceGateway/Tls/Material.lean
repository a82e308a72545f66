import DeviceGateway.Settings
import DeviceGateway.Tls.Key

/-!
# TLS material

What a gateway needs for TLS, from its files: a chain of certificates, the private key of the first,
and the authorities that vouch for clients. `TlsMaterial.load` finds the first thing that is wrong.
-/

namespace DeviceGateway

inductive TlsError
  /-- a file cannot be read -/
  | io
  | certificate
  | privateKey
  | config
  deriving DecidableEq, Repr

def TlsError.label : TlsError → String
  | io => "IO error"
  | certificate => "Certificate error"
  | privateKey => "Private key error"
  | config => "TLS config error"

structure TlsMaterial where
  chain : List Bytes
  key : PrivateKey
  authorities : List Bytes
  deriving DecidableEq, Repr

namespace TlsMaterial

/-- A way to read a file by its path. -/
abbrev Files := String → Option Bytes

def readFile (files : Files) (path : String) : Except TlsError Pem :=
  match files path with
  | some b => .ok (.ofBytes b)
  | none => .error .io

/-- The certificates in a file, of which there has to be one. -/
def readCertificates (files : Files) (path : String) : Except TlsError (List Bytes) := do
  let pem ← readFile files path
  let found := (pem.sections.filter (·.label = "CERTIFICATE")).map (·.content)
  if pem.broken ∨ found = [] then throw .certificate else return found

/-- The first private key in a file. -/
def readKey (files : Files) (path : String) : Except TlsError PrivateKey := do
  match (← readFile files path).sections.findSome? PrivateKey.ofSection? with
  | some key => return key
  | none => throw .privateKey

/-- The certificates of authorities in a file. -/
def readAuthorities (files : Files) (path : String) : Except TlsError (List Bytes) := do
  let found ← readCertificates files path
  if found.all fun b => (Certificate.ofDer? b).isSome then return found else throw .certificate

/-- Whether a key is the one that the first certificate of a chain is about. -/
def goesWith (key : PrivateKey) (chain : List Bytes) : Bool :=
  match key.publicKey?, chain.head?.bind Certificate.ofDer? with
  | some k, some c => c.version = 3 && c.key = k
  | _, _ => false

def load (files : Files) (tls : TlsFiles) : Except TlsError TlsMaterial := do
  if tls.requireClient ∧ tls.clientAuthority.isNone then throw .config
  let chain ← readCertificates files tls.certificate
  let key ← readKey files tls.key
  let authorities ← match tls.clientAuthority with
    | some path => readAuthorities files path
    | none => pure []
  if goesWith key chain then return ⟨chain, key, authorities⟩ else throw .config

end TlsMaterial

end DeviceGateway
