import DeviceGateway.Bytes

/-!
# Base 64

Each character stands for six bits, most significant first. `Base64.decode?` reads the canonical
form without padding, in which the bits that are left over are zero. `Base64.decodePadded?` reads a
text that may be padded, and does not look at the bits that are left over.
-/

namespace DeviceGateway.Base64

/-- The six bits that a character stands for. -/
def digit? (c : Char) : Option Nat :=
  if 'A' ≤ c ∧ c ≤ 'Z' then some (c.toNat - 65)
  else if 'a' ≤ c ∧ c ≤ 'z' then some (c.toNat - 71)
  else if '0' ≤ c ∧ c ≤ '9' then some (c.toNat + 4)
  else if c = '+' then some 62
  else if c = '/' then some 63
  else none

/-- The octets of six-bit digits, four digits for three octets. -/
def octets? : List Nat → Option Bytes
  | a :: b :: c :: d :: r =>
    (octets? r).map fun rest =>
      .ofNat (a * 4 + b / 16) :: .ofNat (b % 16 * 16 + c / 4) :: .ofNat (c % 4 * 64 + d) :: rest
  | [a, b, c] => some [.ofNat (a * 4 + b / 16), .ofNat (b % 16 * 16 + c / 4)]
  | [a, b] => some [.ofNat (a * 4 + b / 16)]
  | [_] => none
  | [] => some []

/-- The bits that digits have beyond their octets. -/
def leftover : List Nat → Nat
  | _ :: _ :: _ :: _ :: r => leftover r
  | [_, _, c] => c % 4
  | [_, b] => b % 16
  | _ => 0

/-- The octets that a text without padding stands for. -/
def decode? (cs : List Char) : Option Bytes := do
  let digits ← cs.mapM digit?
  if leftover digits = 0 then octets? digits else none

/-- The octets that a text stands for whose last group may be padded with `=` to four characters. -/
def decodePadded? (cs : List Char) : Option Bytes := do
  let text := cs.takeWhile (· ≠ '=')
  let padding := cs.dropWhile (· ≠ '=')
  if padding = [] ∨ (padding.all (· = '=') ∧ padding.length = (4 - text.length % 4) % 4) then
    octets? (← text.mapM digit?)
  else none

end DeviceGateway.Base64
