import DeviceGateway.Text.Digits

/-!
# Binary floating point numbers of 64 bits

A finite number is `m · 2 ^ e` with `m` below `2 ^ 53` and `e` at least `-1074`.
`Binary64.ofDecimal` rounds a decimal to the nearest number, a tie to the even significand;
`Binary64.text` writes the fewest digits that round back, without an exponent; `Binary64.rounded` is
the nearest integer, a half away from zero. All of it is exact arithmetic on natural numbers.
-/

namespace DeviceGateway

inductive Binary64
  | nan
  | infinite (negative : Bool)
  | finite (negative : Bool) (significand : Nat) (exponent : Int)
  deriving DecidableEq, Repr

namespace Binary64

/-- The top bit of the significand of a number that is not subnormal: `2 ^ 52`. -/
def implicitBit : Nat := 0x10000000000000

/-- The fraction `n · b ^ k`. -/
def scaled (b n : Nat) (k : Int) : Nat × Nat := (n * b.pow k.toNat, b.pow (-k).toNat)

/-! ### From decimals -/

/-- The integer nearest to `n / d`, in a tie the even one. -/
def nearestEven (n d : Nat) : Nat :=
  let q := n / d
  let r := n % d
  if 2 * r < d ∨ (2 * r = d ∧ q % 2 = 0) then q else q + 1

/-- The exponent of the number nearest to `n / d`. -/
def exponentOf (n d : Nat) : Int :=
  let estimate : Int := (Nat.log2 n : Int) - Nat.log2 d - 53
  let (a, b) := scaled 2 n (-estimate)
  max (if a < 2 * implicitBit * (b * d) then estimate else estimate + 1) (-1074)

/-- The number nearest to `n / d`. -/
def ofRatio (negative : Bool) (n d : Nat) : Binary64 :=
  let e := exponentOf n d
  let (a, b) := scaled 2 n (-e)
  let m := nearestEven a (b * d)
  let (m, e) := if m = 2 * implicitBit then (implicitBit, e + 1) else (m, e)
  if 971 < e then .infinite negative else .finite negative m e

/-- The number nearest to `n · 10 ^ k`. Decimals far out of range are not computed. -/
def ofDecimal (negative : Bool) (n : Nat) (k : Int) : Binary64 :=
  let digits : Int := (toString n).length
  if n = 0 ∨ digits + k < -400 then .finite negative 0 (-1074)
  else if 400 < digits + k then .infinite negative
  else
    let (a, b) := scaled 10 n k
    ofRatio negative a b

/-- The number with the given digits before and behind the point. There is at least one digit. -/
def ofParts (negative : Bool) (whole fraction : List Char) (exponent : Int) : Option Binary64 :=
  (Digits.value? 10 (whole ++ fraction)).map fun n =>
    ofDecimal negative n (exponent - fraction.length)

/-- The exponent behind a mark, if there is one, to the end of the text. -/
def exponent? : List Char → Option Int
  | [] => some 0
  | c :: cs =>
    if c = 'e' ∨ c = 'E' then
      match cs with
      | '-' :: r => (Digits.value? 10 r).map fun n => -(n : Int)
      | '+' :: r => (Digits.value? 10 r).map Int.ofNat
      | r => (Digits.value? 10 r).map Int.ofNat
    else none

/-- An unsigned decimal, or the name of infinity or of what is no number. -/
def unsigned? (negative : Bool) (cs : List Char) : Option Binary64 :=
  let word := String.ofList (cs.map Char.toLower)
  if word = "inf" ∨ word = "infinity" then some (infinite negative)
  else if word = "nan" then some nan
  else
    let whole := cs.takeWhile Char.isDigit
    let (fraction, rest) :=
      match cs.dropWhile Char.isDigit with
      | '.' :: r => (r.takeWhile Char.isDigit, r.dropWhile Char.isDigit)
      | r => ([], r)
    (exponent? rest).bind (ofParts negative whole fraction)

/-- The number that a text spells from end to end. -/
def ofText? (s : String) : Option Binary64 :=
  match s.toList with
  | '-' :: cs => unsigned? true cs
  | '+' :: cs => unsigned? false cs
  | cs => unsigned? false cs

/-! ### To integers -/

def isZero : Binary64 → Bool
  | finite _ 0 _ => true
  | _ => false

/-- The nearest integer in `0 ..< bound`, a half going up; what is out of range goes to the end that
it lies beyond, and what is no number goes to zero. -/
def rounded (bound : Nat) : Binary64 → Nat
  | nan => 0
  | infinite negative => if negative then 0 else bound - 1
  | finite true _ _ => 0
  | finite false m e =>
    let (a, b) := scaled 2 m e
    min ((2 * a + b) / (2 * b)) (bound - 1)

/-! ### To text -/

/-- Twice the ends of the interval of numbers that round to `m · 2 ^ e`, over a common `2 ^ (e -
1)`: the half units below and above, the lower one halved at a power of two. -/
def interval (m : Nat) (e : Int) : Nat × Nat :=
  if m = implicitBit ∧ -1074 < e then (4 * m - 1, 4 * m + 2) else (4 * m - 2, 4 * m + 2)

/-- Whether `c · 10 ^ k` rounds to `m · 2 ^ e`. -/
def roundsTo (m : Nat) (e : Int) (c : Nat) (k : Int) : Bool :=
  let (lo, hi) := interval m e
  let (a, b) := scaled 10 c k
  let (p, q) := scaled 2 1 (e - 2)
  if m % 2 = 0 then lo * p * b ≤ a * q && a * q ≤ hi * p * b
  else lo * p * b < a * q && a * q < hi * p * b

/-- The multiple of `10 ^ k` that rounds to `m · 2 ^ e`: of two the nearer, of two as near the
larger. -/
def onGrid (m : Nat) (e : Int) (k : Int) : Option Nat :=
  let (p, q) := scaled 2 m e
  let (s, t) := scaled 10 1 k
  let below := p * t / (q * s)
  let rest := p * t % (q * s)
  match roundsTo m e below k && below != 0, roundsTo m e (below + 1) k with
  | true, true => some (if 2 * rest < q * s then below else below + 1)
  | true, false => some below
  | false, true => some (below + 1)
  | false, false => none

/-- The first grid of those with steps `10 ^ k`, `10 ^ (k - 1)`, … that has a hit. -/
def firstGrid (m : Nat) (e : Int) : Nat → Int → Nat × Int
  | 0, k => (0, k)
  | fuel + 1, k =>
    match onGrid m e k with
    | some c => (c, k)
    | none => firstGrid m e fuel (k - 1)

/-- The fewest digits `c` with `c · 10 ^ k` rounding to `m · 2 ^ e`. -/
def shortest (m : Nat) (e : Int) : Nat × Int :=
  let (p, q) := scaled 2 m e
  let magnitude : Int := (toString (p / q)).length
  if p < q then firstGrid m e 400 0 else firstGrid m e 20 magnitude

/-- The decimal `c · 10 ^ k` without an exponent. -/
def positional (c : Nat) (k : Int) : String :=
  let digits := (toString c).toList
  if 0 ≤ k then String.ofList (digits ++ List.replicate k.toNat '0')
  else
    let places := (-k).toNat
    let padded := List.replicate (places + 1 - digits.length) '0' ++ digits
    let whole := padded.length - places
    String.ofList (padded.take whole ++ '.' :: padded.drop whole)

def text : Binary64 → String
  | nan => "NaN"
  | infinite negative => if negative then "-inf" else "inf"
  | finite negative m e =>
    let unsigned :=
      if m = 0 then "0"
      else
        let (c, k) := shortest m e
        positional c k
    if negative then "-" ++ unsigned else unsigned

end Binary64

end DeviceGateway
