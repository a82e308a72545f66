import DeviceGateway.Bytes

/-!
# DER

Elements with a tag, a length in its shortest form, and content. `Der.read` takes an element off the
front of octets and `Der.encode` writes one.
-/

namespace DeviceGateway.Der

structure Element where
  tag : UInt8
  content : Bytes
  deriving DecidableEq, Repr

/-- A number from its octets, most significant first. -/
def number (b : Bytes) : Nat := b.foldl (fun n o => n * 256 + o.toNat) 0

/-- A length in its shortest form, and the rest. -/
def readLength : Bytes → Option (Nat × Bytes)
  | [] => none
  | o :: b =>
    if o < 128 then some (o.toNat, b)
    else do
      let (digits, rest) ← Bytes.cut? (o.toNat - 128) b
      let n := number digits
      if digits.length ≤ 4 ∧ 128 ≤ n ∧ digits.head? ≠ some 0 then some (n, rest) else none

/-- An element at the front of octets, and the rest. -/
def read : Bytes → Option (Element × Bytes)
  | [] => none
  | tag :: b => do
    let (n, b) ← readLength b
    let (content, rest) ← Bytes.cut? n b
    return (⟨tag, content⟩, rest)

/-- The elements that octets consist of; `fuel` bounds their number. -/
def readUpTo : Nat → Bytes → Option (List Element)
  | _, [] => some []
  | 0, _ :: _ => none
  | fuel + 1, b => do
    let (e, rest) ← read b
    return e :: (← readUpTo fuel rest)

def readAll (b : Bytes) : Option (List Element) := readUpTo b.length b

/-! ### Kinds of elements -/

def sequenceTag : UInt8 := 0x30

def integerTag : UInt8 := 0x02

def bitStringTag : UInt8 := 0x03

def octetStringTag : UInt8 := 0x04

def objectTag : UInt8 := 0x06

/-- The tag of an element that is there only for its number `n`. -/
def contextTag (n : UInt8) : UInt8 := 0xA0 + n

/-- The elements of a sequence. -/
def Element.elements? (e : Element) : Option (List Element) :=
  if e.tag = sequenceTag then readAll e.content else none

/-- The elements of octets that are a sequence and nothing else. -/
def sequence? (b : Bytes) : Option (List Element) :=
  match read b with
  | some (e, []) => e.elements?
  | _ => none

/-- The octets of a bit string with whole octets. -/
def Element.bits? (e : Element) : Option Bytes :=
  match e.content with
  | 0 :: b => if e.tag = bitStringTag then some b else none
  | _ => none

/-! ### Writing -/

/-- The octets of a number, most significant first, without leading zeros. -/
def octets (n : Nat) : Bytes :=
  if h : n = 0 then [] else octets (n / 256) ++ [.ofNat (n % 256)]
decreasing_by omega

def writeLength (n : Nat) : Bytes :=
  if n < 128 then [.ofNat n] else .ofNat (128 + (octets n).length) :: octets n

def encode (e : Element) : Bytes := e.tag :: writeLength e.content.length ++ e.content

end DeviceGateway.Der
