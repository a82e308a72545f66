import DeviceGateway.Packet.Basic
import DeviceGateway.Wire.Field
import DeviceGateway.Wire.VarInt

/-!
# How packets are written

`Packet.layout` gives the pieces of a packet in order; a piece is octets, a length header, a field
or the packet identifier of a PUBLISH, and writing it may fail. `Packet.encode` joins the pieces,
and `Packet.written` keeps those before the first that fails, which is what stands in a buffer when
writing stops there. The length header is computed from the packet (`Packet.remainingLength`) before
any field is written, in 32 bits.
-/

namespace DeviceGateway

/-- A part of a packet's written form. -/
inductive Piece
  | octets (b : Bytes)
  | length (n : UInt32)
  | text (s : String)
  | binary (b : Bytes)
  | packetId (id : Option UInt16)

namespace Piece

def encode : Piece → Except EncodeError Bytes
  | octets b => .ok b
  | length n => VarInt.write n
  | text s => Field.encodeText s
  | binary b => Field.encodeBinary b
  | packetId none => .error .missingPacketId
  | packetId (some id) => .ok (Field.encodeU16 id)

/-- The pieces one after the other, or the error of the first that cannot be written. -/
def encodeAll : List Piece → Except EncodeError Bytes
  | [] => .ok []
  | p :: ps =>
    match p.encode with
    | .error e => .error e
    | .ok b =>
      match encodeAll ps with
      | .error e => .error e
      | .ok r => .ok (b ++ r)

/-- The pieces before the first that cannot be written. -/
def written : List Piece → Bytes
  | [] => []
  | p :: ps =>
    match p.encode with
    | .error _ => []
    | .ok b => b ++ written ps

theorem written_eq_of_encodeAll {ps : List Piece} {b : Bytes} (h : encodeAll ps = .ok b) :
    written ps = b := by
  induction ps generalizing b with
  | nil => simpa [encodeAll, written] using h
  | cons p ps ih =>
    unfold encodeAll at h
    unfold written
    split at h
    · cases h
    · rename_i c hc
      split at h
      · cases h
      · rename_i r hr
        cases h
        simp [ih hr]

end Piece

namespace Packet

/-- The octets of a binary field, with the two of its length. -/
def fieldLength (b : Bytes) : Nat := 2 + b.length

/-- The octets of a text field, with the two of its length. -/
def textLength (s : String) : Nat := 2 + s.utf8ByteSize

@[simp] theorem textLength_eq (s : String) : textLength s = fieldLength (Utf8.encode s) := by
  simp [textLength, fieldLength, Utf8.encode]

/-- The flag octet of CONNECT. -/
def connectFlags (c : Connect) : UInt8 :=
  (if c.cleanSession then 0x02 else 0) +
  (match c.will with
    | some w => 0x04 + 8 * w.qos.octet + (if w.retain then 0x20 else 0)
    | none => 0) +
  (if c.password.isSome then 0x40 else 0) +
  (if c.username.isSome then 0x80 else 0)

/-- The count of octets behind the length header. -/
def remainingLength : Packet → Nat
  | connect c =>
    textLength c.level.protocolName + 4 + textLength c.clientId +
    (match c.will with
      | some w => textLength w.topic + fieldLength w.payload
      | none => 0) +
    (match c.username with
      | some u => textLength u
      | none => 0) +
    (match c.password with
      | some p => fieldLength p
      | none => 0)
  | publish p =>
    textLength p.topic + p.payload.length + (if p.qos = .atMostOnce then 0 else 2)
  | subscribe _ subs => 2 + subs.foldr (fun s n => textLength s.filter + 1 + n) 0
  | subAck _ codes => 2 + codes.length
  | unsubscribe _ filters => 2 + filters.foldr (fun f n => textLength f + n) 0
  | connAck _ _ | pubAck _ | pubRec _ | pubRel _ | pubComp _ | unsubAck _ => 2
  | pingReq | pingResp | disconnect => 0

/-- The lower half of the first octet. -/
def flags : Packet → UInt8
  | publish p => (if p.dup then 8 else 0) + 2 * p.qos.octet + (if p.retain then 1 else 0)
  | pubRel _ | subscribe _ _ | unsubscribe _ _ => 2
  | _ => 0

def firstOctet (p : Packet) : UInt8 := 16 * p.type.octet + p.flags

/-- The pieces behind the length header. -/
def body : Packet → List Piece
  | connect c =>
    [.text c.level.protocolName,
      .octets (c.level.octet :: connectFlags c :: Field.encodeU16 c.keepAlive),
      .text c.clientId] ++
    (match c.will with
      | some w => [.text w.topic, .binary w.payload]
      | none => []) ++
    (match c.username with
      | some u => [.text u]
      | none => []) ++
    (match c.password with
      | some p => [.binary p]
      | none => [])
  | connAck present code => [.octets [if present then 1 else 0, code.octet]]
  | publish p =>
    .text p.topic :: (if p.qos = .atMostOnce then [] else [.packetId p.packetId]) ++
      [.octets p.payload]
  | subscribe id subs =>
    .octets (Field.encodeU16 id) :: subs.flatMap fun s => [.text s.filter, .octets [s.qos.octet]]
  | subAck id codes => [.octets (Field.encodeU16 id ++ codes.map (·.octet))]
  | unsubscribe id filters => .octets (Field.encodeU16 id) :: filters.map .text
  | pubAck id | pubRec id | pubRel id | pubComp id | unsubAck id => [.octets (Field.encodeU16 id)]
  | pingReq | pingResp | disconnect => []

/-- All pieces of a packet. -/
def layout (p : Packet) : List Piece :=
  .octets [p.firstOctet] :: .length (.ofNat p.remainingLength) :: p.body

/-- The written form of a packet. -/
def encode (p : Packet) : Except EncodeError Bytes := Piece.encodeAll p.layout

/-- What is in a buffer after an attempt to write a packet to it. -/
def written (p : Packet) : Bytes := Piece.written p.layout

end Packet

end DeviceGateway
