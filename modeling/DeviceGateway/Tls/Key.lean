import DeviceGateway.Tls.Der
import DeviceGateway.Tls.Pem

/-!
# Keys and certificates

The public key that a certificate is about, and the one that belongs to a private key. A certificate
goes with a private key if the two are the same.
-/

namespace DeviceGateway

open Der

structure PublicKey where
  /-- the algorithm with its parameters -/
  algorithm : List Element
  bits : Bytes
  deriving DecidableEq, Repr

/-! ### Certificates -/

structure Certificate where
  version : Nat
  key : PublicKey
  deriving DecidableEq, Repr

namespace Certificate

/-- The version that an element states, if it does. -/
def version? (e : Element) : Option Nat :=
  if e.tag = contextTag 0 then
    match read e.content with
    | some (v, []) => if v.tag = integerTag then some (number v.content + 1) else none
    | _ => none
  else none

/-- The version, one where none is stated, and the elements behind it. -/
def readVersion : List Element → Option (Nat × List Element)
  | [] => none
  | e :: es => if e.tag = contextTag 0 then (version? e).map (·, es) else some (1, e :: es)

/-- The public key with its algorithm. -/
def subjectKey? (e : Element) : Option PublicKey := do
  match ← e.elements? with
  | [algorithm, bits] => return ⟨← algorithm.elements?, ← bits.bits?⟩
  | _ => none

def ofDer? (b : Bytes) : Option Certificate := do
  match ← sequence? b with
  | [body, algorithm, signature] =>
    let (version, fields) ← readVersion (← body.elements?)
    let _ ← algorithm.elements?
    let _ ← signature.bits?
    match fields with
    | serial :: innerAlgorithm :: issuer :: validity :: subject :: key :: _ =>
      let _ ← [issuer, validity, subject].mapM Element.elements?
      if serial.tag = integerTag ∧ innerAlgorithm = algorithm then
        return ⟨version, ← subjectKey? key⟩
      else none
    | _ => none
  | _ => none

end Certificate

/-! ### Private keys -/

/-- A private key in one of the forms that there are. -/
inductive PrivateKey
  | pkcs1 (der : Bytes)
  | sec1 (der : Bytes)
  | pkcs8 (der : Bytes)
  deriving DecidableEq, Repr

namespace PrivateKey

def ofSection? (s : Pem.Section) : Option PrivateKey :=
  match s.label with
  | "RSA PRIVATE KEY" => some (pkcs1 s.content)
  | "EC PRIVATE KEY" => some (sec1 s.content)
  | "PRIVATE KEY" => some (pkcs8 s.content)
  | _ => none

def rsaObject : Element := ⟨objectTag, [0x2A, 0x86, 0x48, 0x86, 0xF7, 0x0D, 0x01, 0x01, 0x01]⟩

def ellipticObject : Element := ⟨objectTag, [0x2A, 0x86, 0x48, 0xCE, 0x3D, 0x02, 0x01]⟩

def null : Element := ⟨0x05, []⟩

/-- The public part of an RSA key: modulus and exponent. -/
def rsaBits? (der : Bytes) : Option Bytes := do
  match ← sequence? der with
  | _ :: modulus :: exponent :: _ =>
    return encode ⟨sequenceTag, encode modulus ++ encode exponent⟩
  | _ => none

/-- The curve and the public point of a key for an elliptic curve, where they are stated. -/
def ellipticParts? (der : Bytes) : Option (List Element × Option Bytes) := do
  match ← sequence? der with
  | version :: secret :: more =>
    if version = ⟨integerTag, [1]⟩ ∧ secret.tag = octetStringTag then
      let curve := (more.find? (·.tag = contextTag 0)).bind fun e => readAll e.content
      let point := (more.find? (·.tag = contextTag 1)).bind fun e =>
        (read e.content).bind (·.1.bits?)
      return (curve.getD [], point)
    else none
  | _ => none

/-- The public key that belongs to a private key, where the key says so. -/
def publicKey? : PrivateKey → Option PublicKey
  | pkcs1 der => do return ⟨[rsaObject, null], ← rsaBits? der⟩
  | sec1 der => do
    let (curve, point) ← ellipticParts? der
    return ⟨ellipticObject :: curve, ← point⟩
  | pkcs8 der => do
    match ← sequence? der with
    | _ :: algorithm :: inner :: _ =>
      let algorithm ← algorithm.elements?
      if inner.tag ≠ octetStringTag then none
      else if algorithm.head? = some rsaObject then return ⟨algorithm, ← rsaBits? inner.content⟩
      else if algorithm.head? = some ellipticObject then
        return ⟨algorithm, ← (← ellipticParts? inner.content).2⟩
      else none
    | _ => none

end PrivateKey

end DeviceGateway
