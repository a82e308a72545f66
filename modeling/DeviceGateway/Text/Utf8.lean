import DeviceGateway.Bytes

/-!
# UTF-8

`Utf8.encode` writes a text, `Utf8.decode?` reads a byte string that is UTF-8 from end to end, and
`Utf8.decodeLossy` reads any byte string: a sequence that encodes no character becomes one U+FFFD
per maximal prefix of a well-formed sequence. `Utf8.decode?_encode` and `Utf8.encode_of_decode?`
make the first two inverse to each other.
-/

namespace DeviceGateway.Utf8

/-- The octets of a text. -/
def encode (s : String) : Bytes := s.toUTF8.data.toList

/-- The text that a byte string spells, if it is UTF-8 throughout. -/
def decode? (b : Bytes) : Option String := String.fromUTF8? ⟨b.toArray⟩

theorem decode?_encode (s : String) : decode? (encode s) = some s := by
  simp [decode?, encode, String.fromUTF8?, s.isValidUTF8, String.fromUTF8]

theorem encode_of_decode? {b : Bytes} {s : String} (h : decode? b = some s) : encode s = b := by
  simp only [decode?, String.fromUTF8?] at h
  split at h
  · cases h; simp [encode, String.fromUTF8]
  · cases h

/-- The character that the first octets of `b` spell. -/
def front? (b : Bytes) : Option Char := ByteArray.utf8DecodeChar? ⟨(b.take 4).toArray⟩ 0

/-- The range of second octets that may follow the first octet `b` of a longer sequence. -/
def secondOctet (b : UInt8) : UInt8 × UInt8 :=
  if b = 0xE0 then (0xA0, 0xBF)
  else if b = 0xED then (0x80, 0x9F)
  else if b = 0xF0 then (0x90, 0xBF)
  else if b = 0xF4 then (0x80, 0x8F)
  else (0x80, 0xBF)

/-- The length of the longest prefix of `b` that a well-formed sequence could begin with, and at
least one: what one U+FFFD stands for when `b` begins with no character. -/
def brokenLength : Bytes → Nat
  | a :: x :: y :: _ =>
    let (lo, hi) := secondOctet a
    if 0xE0 ≤ a ∧ a ≤ 0xF4 ∧ lo ≤ x ∧ x ≤ hi then
      if 0xF0 ≤ a ∧ 0x80 ≤ y ∧ y ≤ 0xBF then 3 else 2
    else 1
  | [a, x] =>
    let (lo, hi) := secondOctet a
    if 0xE0 ≤ a ∧ a ≤ 0xF4 ∧ lo ≤ x ∧ x ≤ hi then 2 else 1
  | _ => 1

theorem brokenLength_pos (b : Bytes) : 0 < brokenLength b := by
  unfold brokenLength
  split <;> try dsimp only
  all_goals repeat' split
  all_goals omega

/-- The characters of `b` before those of `acc`, last first. -/
def scanLossy (acc : List Char) : Bytes → List Char
  | [] => acc
  | a :: r =>
    match front? (a :: r) with
    | some c => scanLossy (c :: acc) ((a :: r).drop c.utf8Size)
    | none => scanLossy ('\uFFFD' :: acc) ((a :: r).drop (brokenLength (a :: r)))
termination_by b => b.length
decreasing_by
  · have := c.utf8Size_pos
    simp only [List.length_drop, List.length_cons]; omega
  · have := brokenLength_pos (a :: r)
    simp only [List.length_drop, List.length_cons]; omega

/-- The text of any byte string, with U+FFFD for what is not UTF-8. -/
def decodeLossy (b : Bytes) : String := String.ofList (scanLossy [] b).reverse

end DeviceGateway.Utf8
