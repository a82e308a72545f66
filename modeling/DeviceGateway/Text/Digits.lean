/-!
# Numbers as text

`Digits.hex` writes a number in lower-case hexadecimal without leading zeros. `Digits.value?` reads
digits of any base up to sixteen, and `Digits.natural?` a decimal number with a bound, which may
begin with `+` and with zeros.
-/

namespace DeviceGateway.Digits

/-- The numbers below this, and those down to its opposite, are integers of 64 bits. -/
def signedLimit : Nat := 0x8000000000000000

/-- The lower-case hexadecimal form of a number. -/
def hex (n : Nat) : String := String.ofList (Nat.toDigits 16 n)

/-- The value of a digit in a base of at most sixteen. -/
def digit? (base : Nat) (c : Char) : Option Nat :=
  let d :=
    if '0' ≤ c ∧ c ≤ '9' then c.toNat - 48
    else if 'a' ≤ c ∧ c ≤ 'f' then c.toNat - 87
    else if 'A' ≤ c ∧ c ≤ 'F' then c.toNat - 55
    else base
  if d < base then some d else none

/-- The value of a run of digits behind a value already read. -/
def valueAfter (base : Nat) (acc : Nat) : List Char → Option Nat
  | [] => some acc
  | c :: cs =>
    match digit? base c with
    | some d => valueAfter base (acc * base + d) cs
    | none => none

/-- The value of a non-empty run of digits. -/
def value? (base : Nat) : List Char → Option Nat
  | [] => none
  | cs => valueAfter base 0 cs

/-- A decimal number below `bound`, with an optional `+` before it. -/
def natural? (bound : Nat) (cs : List Char) : Option Nat :=
  let digits := match cs with
    | '+' :: r => r
    | r => r
  (value? 10 digits).filter (· < bound)

/-- A decimal number with an optional sign, from `-bound` to `bound - 1`. -/
def integer? (bound : Nat) : List Char → Option Int
  | '-' :: r => ((value? 10 r).filter (· ≤ bound)).map fun n => -(n : Int)
  | r => (natural? bound r).map Int.ofNat

end DeviceGateway.Digits
