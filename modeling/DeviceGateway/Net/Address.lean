import DeviceGateway.Text.Digits

/-!
# Socket addresses

An IP address of either version with a port, read by `SocketAddress.ofText?` and written by
`SocketAddress.text`. A version 6 address is read in every spelling, shortened or with a dotted
tail, and written in the canonical one.
-/

namespace DeviceGateway

/-- The eight groups of a version 6 address. -/
structure Groups where
  toList : List UInt16
  length_eq : toList.length = 8
  deriving DecidableEq, Repr

inductive IpAddress
  | v4 (a b c d : UInt8)
  | v6 (groups : Groups)
  deriving DecidableEq, Repr

structure SocketAddress where
  ip : IpAddress
  port : UInt16
  /-- the interface of a version 6 address, zero for none -/
  zone : UInt32 := 0
  deriving DecidableEq, Repr

namespace IpAddress

/-- The address that stands for every interface. -/
def unspecified : IpAddress := v4 0 0 0 0

/-! ### Reading -/

/-- A decimal octet without leading zeros, and the rest. -/
def readOctet (cs : List Char) : Option (UInt8 × List Char) :=
  let digits := cs.takeWhile Char.isDigit
  if digits.length ≤ 3 ∧ (digits.head? = some '0' → digits.length = 1) then
    match Digits.value? 10 digits with
    | some n => if n < 256 then some (.ofNat n, cs.dropWhile Char.isDigit) else none
    | none => none
  else none

/-- Drops a character that must be there. -/
def expect (c : Char) : List Char → Option (List Char)
  | d :: cs => if c = d then some cs else none
  | [] => none

/-- Four octets with points between them. -/
def readDotted (cs : List Char) : Option ((UInt8 × UInt8 × UInt8 × UInt8) × List Char) := do
  let (a, cs) ← readOctet cs
  let (b, cs) ← readOctet (← expect '.' cs)
  let (c, cs) ← readOctet (← expect '.' cs)
  let (d, cs) ← readOctet (← expect '.' cs)
  return ((a, b, c, d), cs)

/-- The two groups that four octets fill. -/
def groupsOf : UInt8 × UInt8 × UInt8 × UInt8 → List UInt16
  | (a, b, c, d) => [.ofNat (a.toNat * 256 + b.toNat), .ofNat (c.toNat * 256 + d.toNat)]

def isHexDigit (c : Char) : Bool := (Digits.digit? 16 c).isSome

/-- One to four hexadecimal digits, and the rest. -/
def readGroup (cs : List Char) : Option (UInt16 × List Char) :=
  let digits := cs.takeWhile isHexDigit
  if digits.length ≤ 4 then
    (Digits.value? 16 digits).map fun n => (.ofNat n, cs.dropWhile isHexDigit)
  else none

/-- At most `n` groups with colons between them, and one before the first if there are groups
already. Four octets with points may stand for the last two; the second component says so. -/
def readGroups (already : Bool) : Nat → List Char → List UInt16 × Bool × List Char
  | 0, cs => ([], false, cs)
  | n + 1, cs =>
    match if already then expect ':' cs else some cs with
    | none => ([], false, cs)
    | some r =>
      match if n = 0 then none else readDotted r with
      | some (octets, r) => (groupsOf octets, true, r)
      | none =>
        match readGroup r with
        | none => ([], false, cs)
        | some (g, r) =>
          let (gs, dotted, r) := readGroups true n r
          (g :: gs, dotted, r)

/-- A version 6 address. The mark `::` stands for at least one group of zeros, and no dotted tail
comes before it. -/
def readV6 (cs : List Char) : Option (Groups × List Char) :=
  let (before, dotted, cs) := readGroups false 8 cs
  if h : before.length = 8 then some (⟨before, h⟩, cs)
  else if dotted then none
  else do
    let cs ← expect ':' (← expect ':' cs)
    let (behind, _, cs) := readGroups false (7 - before.length) cs
    let groups := before ++ List.replicate (8 - before.length - behind.length) 0 ++ behind
    if h : groups.length = 8 then some (⟨groups, h⟩, cs) else none

/-! ### Writing -/

/-- The place and length of the first of the longest runs of zeros from place `i` on. -/
def longestZeros (i : Nat) : List UInt16 → Nat × Nat
  | [] => (i, 0)
  | g :: gs =>
    let run := ((g :: gs).takeWhile (· = 0)).length
    let (j, n) := longestZeros (i + 1) gs
    if n ≤ run then (i, run) else (j, n)

def groupsText (gs : List UInt16) : String := ":".intercalate (gs.map fun g => Digits.hex g.toNat)

def dottedText (a b c d : UInt8) : String := ".".intercalate ([a, b, c, d].map toString)

def text : IpAddress → String
  | v4 a b c d => dottedText a b c d
  | v6 ⟨gs, _⟩ =>
    match gs with
    | [0, 0, 0, 0, 0, 0xFFFF, hi, lo] =>
      "::ffff:" ++ dottedText (.ofNat (hi.toNat / 256)) (.ofNat (hi.toNat % 256))
        (.ofNat (lo.toNat / 256)) (.ofNat (lo.toNat % 256))
    | gs =>
      let (i, n) := longestZeros 0 gs
      if 1 < n then s!"{groupsText (gs.take i)}::{groupsText (gs.drop (i + n))}" else groupsText gs

end IpAddress

namespace SocketAddress

/-- A zone behind `%`, when there is one. -/
def readZone (cs : List Char) : UInt32 × List Char :=
  match cs with
  | '%' :: r =>
    match (Digits.value? 10 (r.takeWhile Char.isDigit)).filter (· < UInt32.size) with
    | some n => (.ofNat n, r.dropWhile Char.isDigit)
    | none => (0, cs)
  | _ => (0, cs)

/-- A colon and a port, to the end. -/
def readPort (cs : List Char) : Option UInt16 := do
  let n ← Digits.value? 10 (← IpAddress.expect ':' cs)
  if n < 65536 then some (.ofNat n) else none

def ofText? (s : String) : Option SocketAddress :=
  match s.toList with
  | '[' :: cs => do
    let (groups, cs) ← IpAddress.readV6 cs
    let (zone, cs) := readZone cs
    let port ← readPort (← IpAddress.expect ']' cs)
    return ⟨.v6 groups, port, zone⟩
  | cs => do
    let ((a, b, c, d), cs) ← IpAddress.readDotted cs
    return ⟨.v4 a b c d, ← readPort cs, 0⟩

def text (a : SocketAddress) : String :=
  match a.ip with
  | .v4 .. => s!"{a.ip.text}:{a.port}"
  | .v6 _ => if a.zone = 0 then s!"[{a.ip.text}]:{a.port}" else s!"[{a.ip.text}%{a.zone}]:{a.port}"

end SocketAddress

end DeviceGateway
