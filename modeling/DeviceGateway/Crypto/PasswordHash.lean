import DeviceGateway.Crypto.Argon2
import DeviceGateway.Text.Base64
import DeviceGateway.Text.Digits

/-!
# Hashes of passwords as text

A hash is written `$argon2id$v=19$m=65536,t=3,p=4$salt$hash`. `PasswordHash.ofText?` reads the
parts, and `PasswordHash.accepts` says whether a password has the hash.
-/

namespace DeviceGateway

structure PasswordHash where
  algorithm : String
  version : Option Nat
  params : List (String × List Char)
  salt : Option (List Char)
  hash : Option Bytes
  deriving DecidableEq, Repr

namespace PasswordHash

/-! ### Reading the parts -/

/-- A text cut at every `mark`. -/
def splitAt (mark : Char) : List Char → List (List Char)
  | [] => [[]]
  | c :: cs =>
    if c = mark then [] :: splitAt mark cs
    else
      match splitAt mark cs with
      | part :: parts => (c :: part) :: parts
      | [] => [[c]]

/-- The name of an algorithm or of a parameter. -/
def name? (cs : List Char) : Option String :=
  if cs ≠ [] ∧ cs.length ≤ 32 ∧ cs.all (fun c => c.isLower || c.isDigit || c = '-') then
    some (String.ofList cs)
  else none

/-- The value of a parameter, or a salt. -/
def value? (cs : List Char) : Option (List Char) :=
  if cs.length ≤ 64 ∧ cs.all (fun c => c.isAlphanum || ['/', '+', '.', '-'].contains c) then some cs
  else none

/-- A number of 32 bits without leading zeros. -/
def number? (cs : List Char) : Option Nat :=
  if cs.head? = some '0' ∧ cs.length ≠ 1 then none
  else (Digits.value? 10 cs).filter (· < UInt32.size)

def param? (cs : List Char) : Option (String × List Char) :=
  match splitAt '=' cs with
  | [name, value] => do return (← name? name, ← value? value)
  | _ => none

def params? (cs : List Char) : Option (List (String × List Char)) :=
  if 127 < cs.length then none else (splitAt ',' cs).mapM param?

def salt? (cs : List Char) : Option (List Char) := if cs.length < 4 then none else value? cs

def hash? (cs : List Char) : Option Bytes :=
  (Base64.decode? cs).filter fun b => 10 ≤ b.length && b.length ≤ 64

/-- The version, when the first part is one, and the parts behind it. -/
def readVersion : List (List Char) → Option (Option Nat × List (List Char))
  | [] => some (none, [])
  | part :: parts =>
    match part with
    | 'v' :: '=' :: cs =>
      if part.contains ',' then some (none, part :: parts)
      else do return (some (← number? (← value? cs)), parts)
    | _ => some (none, part :: parts)

/-- The parameters, when the first part has any, and the parts behind it. -/
def readParams : List (List Char) → Option (List (String × List Char) × List (List Char))
  | [] => some ([], [])
  | part :: parts =>
    if part.contains '=' then do return (← params? part, parts) else some ([], part :: parts)

def ofText? (s : String) : Option PasswordHash := do
  match splitAt '$' s.toList with
  | [] :: algorithm :: parts =>
    let algorithm ← name? algorithm
    let (version, parts) ← readVersion parts
    let (params, parts) ← readParams parts
    match parts with
    | [] => return ⟨algorithm, version, params, none, none⟩
    | [salt] => return ⟨algorithm, version, params, ← salt? salt, none⟩
    | [salt, hash] => return ⟨algorithm, version, params, ← salt? salt, ← hash? hash⟩
    | _ => none
  | _ => none

/-! ### Checking passwords -/

def variant? (algorithm : String) : Option Argon2.Variant :=
  match algorithm with
  | "argon2d" => some .d
  | "argon2i" => some .i
  | "argon2id" => some .id
  | _ => none

/-- The version with a number. Where there is none it is the newer. -/
def version? : Option Nat → Option Argon2.Version
  | none | some 19 => some .v19
  | some 16 => some .v16
  | _ => none

/-- Takes a parameter into account. -/
def setParam? (p : Argon2.Params) (param : String × List Char) : Option Argon2.Params :=
  match param with
  | ("m", v) => (number? v).map fun n => { p with memory := n }
  | ("t", v) => (number? v).map fun n => { p with passes := n }
  | ("p", v) => (number? v).map fun n => { p with lanes := n }
  | ("keyid", v) => ((Base64.decode? v).filter fun b => b.length ≤ 8).map fun _ => p
  | ("data", v) =>
    ((Base64.decode? v).filter fun b => b.length ≤ 32).map fun b => { p with associated := b }
  | _ => none

/-- The parameters of a hash of the given length, within their bounds. -/
def argonParams? (params : List (String × List Char)) (length : Nat) : Option Argon2.Params :=
  (params.foldlM setParam? { memory := 19456, passes := 2, lanes := 1, length }).filter fun p =>
    8 ≤ p.memory && 8 * p.lanes ≤ p.memory && 1 ≤ p.passes && 1 ≤ p.lanes && p.lanes < 0x1000000

/-- What a password hashes to with the parameters and the salt of `h`. -/
def rehash? (h : PasswordHash) (length : Nat) (password : Bytes) : Option Bytes := do
  let variant ← variant? h.algorithm
  let version ← version? h.version
  let params ← argonParams? h.params length
  let salt ← Base64.decode? (← h.salt)
  if salt.length < 8 then none else some (Argon2.hash variant version params password salt)

def accepts (h : PasswordHash) (password : Bytes) : Bool :=
  match h.hash with
  | none => false
  | some expected => h.rehash? expected.length password = some expected

end PasswordHash

end DeviceGateway
