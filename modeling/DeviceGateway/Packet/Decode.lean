import DeviceGateway.Packet.Basic
import DeviceGateway.Wire.Field
import DeviceGateway.Wire.VarInt

/-!
# Reading packets

`Packet.decode limit` takes the first packet off a buffer. It answers `none` while the buffer may
still grow into a packet, and otherwise the packet with the count of its octets, or why there is
none. Packets whose remaining length is above `limit` are refused on their header alone.

`Packet.decodeBody` reads what is behind the length header. There the octets are complete, so
running short is a malformation and not a reason to wait.
-/

namespace DeviceGateway.Packet

/-- The largest remaining length that a decoder for packets up to `max` octets accepts. -/
def decoderLimit (max : Nat) : Nat := min max VarInt.max

/-- The limit of a decoder that nothing was said about. -/
def defaultMaxSize : Nat := 102400

/-! ### Bodies -/

/-- The checks on the flag octet of CONNECT, before anything behind it is read. -/
def readConnectFlags (f : UInt8) : Except DecodeError QoS := do
  let will := f &&& 0x04 != 0
  if f &&& 0x01 != 0 then throw .invalidFlags
  if f &&& 0x80 == 0 && f &&& 0x40 != 0 then throw .invalidFlags
  let bits := (f >>> 3) &&& 0x03
  let some qos := QoS.ofOctet? bits | throw (.invalidQoS bits)
  if !will && (qos != .atMostOnce || f &&& 0x20 != 0) then throw .invalidFlags
  pure qos

/-- A field that is there when its flag is set. -/
def readWhen {α : Type} (flag : Bool) (read : Bytes → Except DecodeError (α × Bytes)) (b : Bytes) :
    Except DecodeError (Option α × Bytes) :=
  if flag then
    match read b with
    | .ok (a, rest) => .ok (some a, rest)
    | .error e => .error e
  else .ok (none, b)

def readWill (qos : QoS) (retain : Bool) (b : Bytes) : Except DecodeError (Will × Bytes) := do
  let (topic, b) ← Field.readText b
  let (payload, b) ← Field.readBinary b
  pure (⟨topic, payload, qos, retain⟩, b)

def decodeConnect (b : Bytes) : Except DecodeError Packet := do
  let (protocolName, b) ← Field.readText b
  let (version, b) ← Field.readOctet b
  let some level := ProtocolLevel.ofOctet? version | throw (.invalidProtocolVersion version)
  if protocolName ≠ level.protocolName then throw .invalidProtocolName
  let (f, b) ← Field.readOctet b
  let willQoS ← readConnectFlags f
  let (keepAlive, b) ← Field.readU16 b
  let (clientId, b) ← Field.readText b
  let (will, b) ← readWhen (f &&& 0x04 != 0) (readWill willQoS (f &&& 0x20 != 0)) b
  let (username, b) ← readWhen (f &&& 0x80 != 0) Field.readText b
  let (password, b) ← readWhen (f &&& 0x40 != 0) Field.readBinary b
  if b ≠ [] then throw (.malformed .trailingConnect)
  pure (.connect ⟨level, clientId, f &&& 0x02 != 0, keepAlive, username, password, will⟩)

def decodeConnAck : Bytes → Except DecodeError Packet
  | [ack, code] =>
    if ack &&& 0xFE != 0 then .error .invalidFlags
    else
      match ConnectReturnCode.ofOctet? code with
      | some c => .ok (.connAck (ack &&& 0x01 != 0) c)
      | none => .error (.malformed .connackReturnCode)
  | _ => .error (.malformed .connackLength)

/-- A packet identifier, which is not zero. -/
def readPacketId (b : Bytes) : Except DecodeError (UInt16 × Bytes) := do
  let (id, b) ← Field.readU16 b
  if id = 0 then throw (.malformed .zeroPacketId)
  pure (id, b)

def decodePublish (flags : UInt8) (b : Bytes) : Except DecodeError Packet := do
  let dup := flags &&& 0x08 != 0
  let bits := (flags >>> 1) &&& 0x03
  let some qos := QoS.ofOctet? bits | throw (.invalidQoS bits)
  if qos = .atMostOnce ∧ dup then throw (.malformed .dupWithoutQoS)
  let (topic, b) ← Field.readText b
  if topic.contains '+' || topic.contains '#' then throw (.malformed .topicWildcard)
  let (packetId, b) ← readWhen (qos != .atMostOnce) readPacketId b
  pure (.publish ⟨dup, qos, flags &&& 0x01 != 0, topic, packetId, b⟩)

/-- A topic filter, which is not empty. -/
def readFilter (b : Bytes) : Except DecodeError (String × Bytes) :=
  match Field.readText b with
  | .error e => .error e
  | .ok (filter, rest) =>
    if filter = "" then .error (.malformed .emptyFilter) else .ok (filter, rest)

theorem readFilter_length_lt {b rest : Bytes} {f : String} (h : readFilter b = .ok (f, rest)) :
    rest.length < b.length := by
  unfold readFilter at h
  split at h
  · cases h
  · rename_i g r hr
    split at h
    · cases h
    · simp only [Except.ok.injEq, Prod.mk.injEq] at h
      exact h.2 ▸ Field.text_length_lt hr

/-- The quality of service asked for: two bits, the upper six are reserved. -/
def readRequestedQoS : Bytes → Except DecodeError (QoS × Bytes)
  | [] => .error .insufficientData
  | b :: rest =>
    if b &&& 0xFC != 0 then .error (.malformed .requestedQoSBits)
    else
      match QoS.ofOctet? b with
      | some q => .ok (q, rest)
      | none => .error (.invalidQoS b)

theorem readRequestedQoS_length_lt {b rest : Bytes} {q : QoS}
    (h : readRequestedQoS b = .ok (q, rest)) : rest.length < b.length := by
  unfold readRequestedQoS at h
  split at h
  · cases h
  · split at h
    · cases h
    · split at h
      · simp only [Except.ok.injEq, Prod.mk.injEq] at h
        simp [h.2]
      · cases h

/-- Filters with their quality of service, to the end of the body. -/
def readSubscriptions (b : Bytes) : Except DecodeError (List Subscription) :=
  if b = [] then .ok []
  else
    match _hf : readFilter b with
    | .error e => .error e
    | .ok (filter, b₁) =>
      match _hq : readRequestedQoS b₁ with
      | .error e => .error e
      | .ok (qos, b₂) =>
        match readSubscriptions b₂ with
        | .error e => .error e
        | .ok subs => .ok (⟨filter, qos⟩ :: subs)
termination_by b.length
decreasing_by exact Nat.lt_trans (readRequestedQoS_length_lt _hq) (readFilter_length_lt _hf)

/-- Filters, to the end of the body. -/
def readFilters (b : Bytes) : Except DecodeError (List String) :=
  if b = [] then .ok []
  else
    match _hf : readFilter b with
    | .error e => .error e
    | .ok (filter, b₁) =>
      match readFilters b₁ with
      | .error e => .error e
      | .ok filters => .ok (filter :: filters)
termination_by b.length
decreasing_by exact readFilter_length_lt _hf

def decodeSubscribe (b : Bytes) : Except DecodeError Packet := do
  let (id, b) ← readPacketId b
  let subs ← readSubscriptions b
  if subs = [] then throw (.malformed .noSubscription)
  pure (.subscribe id subs)

def decodeSubAck (b : Bytes) : Except DecodeError Packet := do
  let (id, b) ← Field.readU16 b
  match b.mapM SubAckReturnCode.ofOctet? with
  | some codes => pure (.subAck id codes)
  | none => throw (.malformed .subackReturnCode)

def decodeUnsubscribe (b : Bytes) : Except DecodeError Packet := do
  let (id, b) ← readPacketId b
  let filters ← readFilters b
  if filters = [] then throw (.malformed .noFilter)
  pure (.unsubscribe id filters)

/-- A body that is a packet identifier and nothing else. -/
def decodePacketId (packet : UInt16 → Packet) : Bytes → Except DecodeError Packet
  | [hi, lo] => .ok (packet (.ofNat (hi.toNat * 256 + lo.toNat)))
  | _ => .error (.malformed .packetIdLength)

/-- No body. -/
def decodeEmpty (packet : Packet) : Bytes → Except DecodeError Packet
  | [] => .ok packet
  | _ => .error (.malformed .unexpectedPayload)

/-- Reads a body only if the flags of the first octet are those of the packet. -/
def withFlags (expected flags : UInt8) (body : Except DecodeError Packet) :
    Except DecodeError Packet :=
  if flags = expected then body else .error .invalidFlags

/-- The body of a packet of the given kind. -/
def decodeType (type : PacketType) (flags : UInt8) (b : Bytes) : Except DecodeError Packet :=
  match type with
  | .connect => withFlags 0 flags (decodeConnect b)
  | .connAck => withFlags 0 flags (decodeConnAck b)
  | .publish => decodePublish flags b
  | .pubAck => withFlags 0 flags (decodePacketId .pubAck b)
  | .pubRec => withFlags 0 flags (decodePacketId .pubRec b)
  | .pubRel => withFlags 2 flags (decodePacketId .pubRel b)
  | .pubComp => withFlags 0 flags (decodePacketId .pubComp b)
  | .subscribe => withFlags 2 flags (decodeSubscribe b)
  | .subAck => withFlags 0 flags (decodeSubAck b)
  | .unsubscribe => withFlags 2 flags (decodeUnsubscribe b)
  | .unsubAck => withFlags 0 flags (decodePacketId .unsubAck b)
  | .pingReq => withFlags 0 flags (decodeEmpty .pingReq b)
  | .pingResp => withFlags 0 flags (decodeEmpty .pingResp b)
  | .disconnect => withFlags 0 flags (decodeEmpty .disconnect b)

/-- The packet with the given first octet and body. -/
def decodeBody (first : UInt8) (b : Bytes) : Except DecodeError Packet :=
  match PacketType.ofOctet? (first >>> 4) with
  | none => .error (.invalidPacketType (first >>> 4))
  | some type =>
    match decodeType type (first &&& 0x0F) b with
    | .error .insufficientData => .error (.malformed .truncated)
    | r => r

/-! ### Frames -/

/-- The packet at the front of a buffer and the count of its octets. -/
def decode (limit : Nat) (buffer : Bytes) : Except DecodeError (Option (Packet × Nat)) :=
  match buffer with
  | first :: b@(_ :: _) =>
    match VarInt.read b with
    | .error .insufficientData => .ok none
    | .error e => .error e
    | .ok (remaining, count) =>
      if limit < remaining then .error .packetTooLarge
      else
        match Bytes.cut? remaining (b.drop count) with
        | none => .ok none
        | some (body, _) =>
          match decodeBody first body with
          | .error e => .error e
          | .ok p => .ok (some (p, 1 + count + remaining))
  | _ => .ok none

end DeviceGateway.Packet
