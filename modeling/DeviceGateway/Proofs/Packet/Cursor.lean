import DeviceGateway.Packet.Decode
import DeviceGateway.Proofs.Packet.Reads
import DeviceGateway.Proofs.Wire.Cursor

/-!
# Packets read at positions

The decoder once more, with a running position in place of the octets that are left. What it takes by
index, by slice or from a position on may fail to be there, and the rounds over the filters of
SUBSCRIBE and UNSUBSCRIBE may fail to move on (`Cursor.readAll`); either would halt it.

Neither happens. A field leaves the position within the body (`Cursor.Behind`), so the next slice is
there, and an entry takes at least one octet. Kind by kind the reader at positions comes to what the
reader off the front comes to, and so does the whole decoder on every buffer (`decode_never_halts`).
-/

namespace DeviceGateway.Cursor

/-! ### Fields of a body -/

def textAt : Bytes → Nat → Except Halt (String × Nat) := readAt readText

def binaryAt : Bytes → Nat → Except Halt (Bytes × Nat) := readAt readBinary

/-- A field that is there when its flag is set. -/
def readWhen {α : Type} (flag : Bool) (read : Bytes → Nat → Except Halt (α × Nat)) (b : Bytes)
    (pos : Nat) : Except Halt (Option α × Nat) :=
  if flag then do
    let (a, pos) ← read b pos
    pure (some a, pos)
  else pure (none, pos)

def willAt (qos : QoS) (retain : Bool) (b : Bytes) (pos : Nat) : Except Halt (Will × Nat) := do
  let (topic, pos) ← textAt b pos
  let (payload, pos) ← binaryAt b pos
  pure (⟨topic, payload, qos, retain⟩, pos)

/-- A packet identifier, which is not zero. -/
def packetIdAt (b : Bytes) (pos : Nat) : Except Halt (UInt16 × Nat) := do
  let (id, pos) ← u16At b pos
  if id = 0 then throw (.refused (.malformed .zeroPacketId))
  pure (id, pos)

/-- A topic filter, which is not empty. -/
def filterAt (b : Bytes) (pos : Nat) : Except Halt (String × Nat) := do
  let (filter, pos) ← textAt b pos
  if filter = "" then throw (.refused (.malformed .emptyFilter))
  pure (filter, pos)

/-- The quality of service asked for: two bits, the upper six are reserved. -/
def requestedQoSAt (b : Bytes) (pos : Nat) : Except Halt (QoS × Nat) := do
  let (o, pos) ← octetAt b pos
  if o &&& 0xFC != 0 then throw (.refused (.malformed .requestedQoSBits))
  let some qos := QoS.ofOctet? o | throw (.refused (.invalidQoS o))
  pure (qos, pos)

def subscriptionAt (b : Bytes) (pos : Nat) : Except Halt (Subscription × Nat) := do
  let (filter, pos) ← filterAt b pos
  let (qos, pos) ← requestedQoSAt b pos
  pure (⟨filter, qos⟩, pos)

/-- Entries from `pos` to the end of the body. A round that leaves the position where it was would
go on forever. -/
def readAll {α : Type} (entry : Bytes → Nat → Except Halt (α × Nat)) (b : Bytes) (pos : Nat) :
    Except Halt (List α) :=
  if b.length ≤ pos then .ok []
  else
    match entry b pos with
    | .error e => .error e
    | .ok (a, next) =>
      if next ≤ pos then .error .standstill
      else
        match readAll entry b next with
        | .error e => .error e
        | .ok l => .ok (a :: l)
termination_by b.length - pos

/-! ### Bodies -/

def decodeConnect (b : Bytes) : Except Halt Packet := do
  let (protocolName, pos) ← readText b
  let (version, pos) ← octetAt b pos
  let some level := ProtocolLevel.ofOctet? version
    | throw (.refused (.invalidProtocolVersion version))
  if protocolName ≠ level.protocolName then throw (.refused .invalidProtocolName)
  let (f, pos) ← octetAt b pos
  let willQoS ← (Packet.readConnectFlags f).mapError .refused
  let (keepAlive, pos) ← u16At b pos
  let (clientId, pos) ← textAt b pos
  let (will, pos) ← readWhen (f &&& 0x04 != 0) (willAt willQoS (f &&& 0x20 != 0)) b pos
  let (username, pos) ← readWhen (f &&& 0x80 != 0) textAt b pos
  let (password, pos) ← readWhen (f &&& 0x40 != 0) binaryAt b pos
  if pos ≠ b.length then throw (.refused (.malformed .trailingConnect))
  pure (.connect ⟨level, clientId, f &&& 0x02 != 0, keepAlive, username, password, will⟩)

def decodeConnAck (b : Bytes) : Except Halt Packet := do
  if b.length ≠ 2 then throw (.refused (.malformed .connackLength))
  let ack ← index b 0
  if ack &&& 0xFE != 0 then throw (.refused .invalidFlags)
  let code ← index b 1
  let some c := ConnectReturnCode.ofOctet? code
    | throw (.refused (.malformed .connackReturnCode))
  pure (.connAck (ack &&& 0x01 != 0) c)

def decodePublish (flags : UInt8) (b : Bytes) : Except Halt Packet := do
  let dup := flags &&& 0x08 != 0
  let bits := (flags >>> 1) &&& 0x03
  let some qos := QoS.ofOctet? bits | throw (.refused (.invalidQoS bits))
  if qos = .atMostOnce ∧ dup then throw (.refused (.malformed .dupWithoutQoS))
  let (topic, pos) ← readText b
  if topic.contains '+' || topic.contains '#' then throw (.refused (.malformed .topicWildcard))
  let (packetId, pos) ← readWhen (qos != .atMostOnce) packetIdAt b pos
  let payload ← tail b pos
  pure (.publish ⟨dup, qos, flags &&& 0x01 != 0, topic, packetId, payload⟩)

/-- A packet identifier, and entries to the end of the body, at least one. -/
def decodeEntries {α : Type} [DecidableEq α] (packet : UInt16 → List α → Packet) (empty : Malformation)
    (entry : Bytes → Nat → Except Halt (α × Nat)) (b : Bytes) : Except Halt Packet := do
  let id ← readU16 b
  if id = 0 then throw (.refused (.malformed .zeroPacketId))
  let entries ← readAll entry b 2
  if entries = [] then throw (.refused (.malformed empty))
  pure (packet id entries)

def decodeSubscribe : Bytes → Except Halt Packet :=
  decodeEntries .subscribe .noSubscription subscriptionAt

def decodeUnsubscribe : Bytes → Except Halt Packet :=
  decodeEntries .unsubscribe .noFilter filterAt

def decodeSubAck (b : Bytes) : Except Halt Packet := do
  let id ← readU16 b
  match (← tail b 2).mapM SubAckReturnCode.ofOctet? with
  | some codes => pure (.subAck id codes)
  | none => throw (.refused (.malformed .subackReturnCode))

def decodePacketId (packet : UInt16 → Packet) (b : Bytes) : Except Halt Packet := do
  if b.length ≠ 2 then throw (.refused (.malformed .packetIdLength))
  let id ← readU16 b
  pure (packet id)

def decodeEmpty (packet : Packet) (b : Bytes) : Except Halt Packet :=
  if b = [] then .ok packet else .error (.refused (.malformed .unexpectedPayload))

def withFlags (expected flags : UInt8) (body : Except Halt Packet) : Except Halt Packet :=
  if flags = expected then body else .error (.refused .invalidFlags)

def decodeType (type : PacketType) (flags : UInt8) (b : Bytes) : Except Halt Packet :=
  match type with
  | .connect => withFlags 0 flags (decodeConnect b)
  | .connAck => withFlags 0 flags (decodeConnAck b)
  | .publish => decodePublish flags b
  | .pubAck => withFlags 0 flags (decodePacketId .pubAck b)
  | .pubRec => withFlags 0 flags (decodePacketId .pubRec b)
  | .pubRel => withFlags 2 flags (decodePacketId .pubRel b)
  | .pubComp => withFlags 0 flags (decodePacketId .pubComp b)
  | .subscribe => withFlags 2 flags (decodeSubscribe b)
  | .subAck => withFlags 0 flags (decodeSubAck b)
  | .unsubscribe => withFlags 2 flags (decodeUnsubscribe b)
  | .unsubAck => withFlags 0 flags (decodePacketId .unsubAck b)
  | .pingReq => withFlags 0 flags (decodeEmpty .pingReq b)
  | .pingResp => withFlags 0 flags (decodeEmpty .pingResp b)
  | .disconnect => withFlags 0 flags (decodeEmpty .disconnect b)

def decodeBody (first : UInt8) (b : Bytes) : Except Halt Packet :=
  match PacketType.ofOctet? (first >>> 4) with
  | none => .error (.refused (.invalidPacketType (first >>> 4)))
  | some type =>
    match decodeType type (first &&& 0x0F) b with
    | .error (.refused .insufficientData) => .error (.refused (.malformed .truncated))
    | r => r

/-! ### Frames -/

def decode (limit : Nat) (buffer : Bytes) : Except Halt (Option (Packet × Nat)) :=
  if buffer.length < 2 then .ok none
  else do
    let first ← index buffer 0
    let header ← tail buffer 1
    match readVarInt header with
    | .error (.refused .insufficientData) => .ok none
    | .error e => .error e
    | .ok (remaining, count) =>
      if limit < remaining.toNat then throw (.refused .packetTooLarge)
      let total := 1 + count + remaining.toNat
      if buffer.length < total then return none
      let body ← slice buffer (1 + count) total
      let packet ← decodeBody first body
      pure (some (packet, total))

/-! ### Fields of a body agree -/

variable {b : Bytes} {pos : Nat}

theorem agrees_textAt (hpos : pos ≤ b.length) :
    Agrees (Behind b) (textAt b pos) (Field.readText (b.drop pos)) :=
  agrees_readAt agrees_readText hpos

theorem agrees_binaryAt (hpos : pos ≤ b.length) :
    Agrees (Behind b) (binaryAt b pos) (Field.readBinary (b.drop pos)) :=
  agrees_readAt agrees_readBinary hpos

theorem agrees_readWhen {α : Type} {read : Bytes → Nat → Except Halt (α × Nat)}
    {front : Bytes → Except DecodeError (α × Bytes)} (flag : Bool)
    (h : Agrees (Behind b) (read b pos) (front (b.drop pos))) (hpos : pos ≤ b.length) :
    Agrees (Behind b) (readWhen flag read b pos) (Packet.readWhen flag front (b.drop pos)) := by
  cases flag with
  | false => exact .ok ⟨rfl, hpos, rfl⟩
  | true =>
    unfold readWhen Packet.readWhen
    exact h.elim (fun _ _ h => .ok ⟨congrArg some h.1, h.2⟩) .refused

theorem agrees_willAt (qos : QoS) (retain : Bool) (hpos : pos ≤ b.length) :
    Agrees (Behind b) (willAt qos retain b pos) (Packet.readWill qos retain (b.drop pos)) := by
  refine (agrees_textAt hpos).bind ?_
  rintro ⟨topic, pos⟩ ⟨_, _⟩ ⟨rfl, hpos, rfl⟩
  refine (agrees_binaryAt hpos).bind ?_
  rintro ⟨payload, pos⟩ ⟨_, _⟩ ⟨rfl, hpos, rfl⟩
  exact .ok ⟨rfl, hpos, rfl⟩

theorem agrees_packetIdAt (hpos : pos ≤ b.length) :
    Agrees (Behind b) (packetIdAt b pos) (Packet.readPacketId (b.drop pos)) := by
  refine (agrees_u16At hpos).bind ?_
  rintro ⟨id, pos⟩ ⟨_, _⟩ ⟨rfl, hpos, rfl⟩
  exact .guard .rfl fun _ => .ok ⟨rfl, hpos, rfl⟩

theorem agrees_filterAt (hpos : pos ≤ b.length) :
    Agrees (Behind b) (filterAt b pos) (Packet.readFilter (b.drop pos)) := by
  unfold filterAt Packet.readFilter
  refine (agrees_textAt hpos).elim ?_ .refused
  rintro ⟨filter, pos⟩ ⟨_, _⟩ ⟨rfl, hpos, rfl⟩
  show Agrees _ (if filter = "" then _ else _) (if filter = "" then _ else _)
  split
  · exact .refused _
  · exact .ok ⟨rfl, hpos, rfl⟩

theorem agrees_requestedQoSAt (b : Bytes) (pos : Nat) :
    Agrees (Behind b) (requestedQoSAt b pos) (Packet.readRequestedQoS (b.drop pos)) := by
  unfold requestedQoSAt octetAt
  by_cases hpos : pos < b.length
  · rw [List.getElem?_eq_getElem hpos, List.drop_eq_getElem_cons hpos]
    show Agrees _ (if (b[pos] &&& 0xFC != 0) = true then _ else _)
      (if (b[pos] &&& 0xFC != 0) = true then _ else _)
    split
    · exact .refused _
    · cases QoS.ofOctet? b[pos] with
      | none => exact .refused _
      | some qos => exact .ok ⟨rfl, hpos, rfl⟩
  · rw [List.getElem?_eq_none (Nat.not_lt.1 hpos), List.drop_eq_nil_of_le (Nat.not_lt.1 hpos)]
    exact .refused _

/-! ### Entries to the end of a body agree -/

/-- A round takes an entry, which moves the position on and leaves it within the body. -/
theorem agrees_readAll {α : Type} {entry : Bytes → Nat → Except Halt (α × Nat)}
    {front : Bytes → Except DecodeError (α × Bytes)} {all : Bytes → Except DecodeError (List α)}
    (hall : ∀ b, all b = if b = [] then .ok [] else do
      let (a, rest) ← front b
      let l ← all rest
      pure (a :: l))
    (hlt : ∀ {b a rest}, front b = .ok (a, rest) → rest.length < b.length)
    (hentry : ∀ {pos}, pos ≤ b.length → Agrees (Behind b) (entry b pos) (front (b.drop pos)))
    (hpos : pos ≤ b.length) : Agrees Eq (readAll entry b pos) (all (b.drop pos)) := by
  induction hk : b.length - pos using Nat.strongRecOn generalizing pos with
  | ind k ih =>
    rw [readAll, hall]
    by_cases hend : b.length ≤ pos
    · rw [if_pos hend, if_pos (List.drop_eq_nil_of_le hend)]
      exact .ok rfl
    · rw [if_neg hend, if_neg (mt List.drop_eq_nil_iff.1 hend)]
      have hless := @hlt (b.drop pos)
      revert hless
      refine (hentry hpos).elim ?_ fun e _ => .refused e
      rintro ⟨a, next⟩ ⟨_, _⟩ ⟨rfl, hnext, rfl⟩ hless
      -- the entry took octets off the front, so there are fewer behind the position
      have hmoves : b.length - next < b.length - pos := by simpa using hless rfl
      show Agrees _ (if next ≤ pos then _ else _) (all (b.drop next) >>= _)
      rw [if_neg (by omega)]
      exact (ih _ (hk ▸ hmoves) hnext rfl).elim (fun _ _ h => .ok (congrArg (a :: ·) h)) .refused

theorem readSubscriptions_eq (b : Bytes) : Packet.readSubscriptions b =
    if b = [] then .ok [] else (do
      let (s, rest) ← (do
        let (filter, b) ← Packet.readFilter b
        let (qos, b) ← Packet.readRequestedQoS b
        pure ((⟨filter, qos⟩ : Subscription), b))
      let subs ← Packet.readSubscriptions rest
      pure (s :: subs)) := by
  rw [Packet.readSubscriptions]
  split
  · rfl
  · cases Packet.readFilter b with
    | error e => rfl
    | ok r =>
      obtain ⟨filter, b₁⟩ := r
      show _ = (Packet.readRequestedQoS b₁ >>= _) >>= _
      dsimp only
      cases Packet.readRequestedQoS b₁ with
      | error e => rfl
      | ok r =>
        obtain ⟨qos, b₂⟩ := r
        show _ = Packet.readSubscriptions b₂ >>= _
        dsimp only
        cases Packet.readSubscriptions b₂ <;> rfl

theorem readFilters_eq (b : Bytes) : Packet.readFilters b =
    if b = [] then .ok [] else (do
      let (filter, rest) ← Packet.readFilter b
      let filters ← Packet.readFilters rest
      pure (filter :: filters)) := by
  rw [Packet.readFilters]
  split
  · rfl
  · cases Packet.readFilter b with
    | error e => rfl
    | ok r =>
      obtain ⟨filter, b₁⟩ := r
      show _ = Packet.readFilters b₁ >>= _
      dsimp only
      cases Packet.readFilters b₁ <;> rfl

theorem agrees_readAll_subscriptions (hpos : pos ≤ b.length) :
    Agrees Eq (readAll subscriptionAt b pos) (Packet.readSubscriptions (b.drop pos)) := by
  refine agrees_readAll readSubscriptions_eq (fun {b s rest} h => ?_) (fun hpos => ?_) hpos
  · obtain ⟨⟨filter, b₁⟩, hf, h⟩ := bind_eq_ok.1 h
    obtain ⟨⟨qos, b₂⟩, hq, h⟩ := bind_eq_ok.1 h
    cases h
    exact Nat.lt_trans (Packet.readRequestedQoS_length_lt hq) (Packet.readFilter_length_lt hf)
  · refine (agrees_filterAt hpos).bind ?_
    rintro ⟨filter, pos⟩ ⟨_, _⟩ ⟨rfl, hpos, rfl⟩
    refine (agrees_requestedQoSAt b pos).bind ?_
    rintro ⟨qos, pos⟩ ⟨_, _⟩ ⟨rfl, hpos, rfl⟩
    exact .ok ⟨rfl, hpos, rfl⟩

theorem agrees_readAll_filters (hpos : pos ≤ b.length) :
    Agrees Eq (readAll filterAt b pos) (Packet.readFilters (b.drop pos)) :=
  agrees_readAll readFilters_eq Packet.readFilter_length_lt agrees_filterAt hpos

/-! ### Bodies agree -/

theorem agrees_decodeConnect (b : Bytes) :
    Agrees Eq (decodeConnect b) (Packet.decodeConnect b) := by
  refine (agrees_readText b).bind ?_
  rintro ⟨protocolName, pos⟩ ⟨_, _⟩ ⟨rfl, hpos, rfl⟩
  refine (agrees_octetAt b pos).bind ?_
  rintro ⟨version, pos⟩ ⟨_, _⟩ ⟨rfl, hpos, rfl⟩
  dsimp only
  cases ProtocolLevel.ofOctet? version with
  | none => exact .refused _
  | some level =>
    refine .guard .rfl fun _ => (agrees_octetAt b pos).bind ?_
    rintro ⟨f, pos⟩ ⟨_, _⟩ ⟨rfl, hpos, rfl⟩
    refine (Agrees.mapError (Packet.readConnectFlags f)).bind ?_
    rintro willQoS _ rfl
    refine (agrees_u16At hpos).bind ?_
    rintro ⟨keepAlive, pos⟩ ⟨_, _⟩ ⟨rfl, hpos, rfl⟩
    refine (agrees_textAt hpos).bind ?_
    rintro ⟨clientId, pos⟩ ⟨_, _⟩ ⟨rfl, hpos, rfl⟩
    refine (agrees_readWhen _ (agrees_willAt willQoS _ hpos) hpos).bind ?_
    rintro ⟨will, pos⟩ ⟨_, _⟩ ⟨rfl, hpos, rfl⟩
    refine (agrees_readWhen _ (agrees_textAt hpos) hpos).bind ?_
    rintro ⟨username, pos⟩ ⟨_, _⟩ ⟨rfl, hpos, rfl⟩
    refine (agrees_readWhen _ (agrees_binaryAt hpos) hpos).bind ?_
    rintro ⟨password, pos⟩ ⟨_, _⟩ ⟨rfl, hpos, rfl⟩
    -- nothing is left behind the position exactly if it is the end
    refine .guard ?_ fun _ => .ok rfl
    rw [Ne, Ne, List.drop_eq_nil_iff]
    dsimp only at hpos ⊢
    omega

theorem agrees_decodeConnAck (b : Bytes) :
    Agrees Eq (decodeConnAck b) (Packet.decodeConnAck b) := by
  rcases b with _ | ⟨ack, _ | ⟨code, _ | ⟨o, rest⟩⟩⟩
  · exact .refused _
  · exact .refused _
  · show Agrees _ (if (ack &&& 0xFE != 0) = true then _ else _)
      (if (ack &&& 0xFE != 0) = true then _ else _)
    split
    · exact .refused _
    · rw [show index [ack, code] 1 = pure code from rfl, pure_bind]
      cases ConnectReturnCode.ofOctet? code with
      | none => exact .refused _
      | some c => exact .ok rfl
  · exact .refused _

theorem agrees_decodePublish (flags : UInt8) (b : Bytes) :
    Agrees Eq (decodePublish flags b) (Packet.decodePublish flags b) := by
  unfold decodePublish Packet.decodePublish
  dsimp only
  cases QoS.ofOctet? ((flags >>> 1) &&& 0x03) with
  | none => exact .refused _
  | some qos =>
    refine .guard .rfl fun _ => (agrees_readText b).bind ?_
    rintro ⟨topic, pos⟩ ⟨_, _⟩ ⟨rfl, hpos, rfl⟩
    refine .guard .rfl fun _ => (agrees_readWhen _ (agrees_packetIdAt hpos) hpos).bind ?_
    rintro ⟨packetId, pos⟩ ⟨_, _⟩ ⟨rfl, hpos, rfl⟩
    dsimp only at hpos ⊢
    rw [tail_of_le hpos]
    exact .ok rfl

theorem agrees_decodeEntries {α : Type} [DecidableEq α] {packet : UInt16 → List α → Packet}
    {empty : Malformation} {entry : Bytes → Nat → Except Halt (α × Nat)}
    {all : Bytes → Except DecodeError (List α)}
    (hall : ∀ {pos}, pos ≤ b.length → Agrees Eq (readAll entry b pos) (all (b.drop pos))) :
    Agrees Eq (decodeEntries packet empty entry b) (do
      let (id, b) ← Packet.readPacketId b
      let entries ← all b
      if entries = [] then throw (.malformed empty)
      pure (packet id entries)) := by
  unfold decodeEntries Packet.readPacketId
  rw [bind_assoc]
  refine (agrees_readU16 b).bind ?_
  rintro id ⟨_, _⟩ ⟨rfl, hlen, rfl⟩
  dsimp only
  split
  · exact .refused _
  · refine (hall hlen).bind ?_
    rintro entries _ rfl
    exact .guard .rfl fun _ => .ok rfl

theorem agrees_decodeSubscribe (b : Bytes) :
    Agrees Eq (decodeSubscribe b) (Packet.decodeSubscribe b) :=
  agrees_decodeEntries agrees_readAll_subscriptions

theorem agrees_decodeUnsubscribe (b : Bytes) :
    Agrees Eq (decodeUnsubscribe b) (Packet.decodeUnsubscribe b) :=
  agrees_decodeEntries agrees_readAll_filters

theorem agrees_decodeSubAck (b : Bytes) :
    Agrees Eq (decodeSubAck b) (Packet.decodeSubAck b) := by
  refine (agrees_readU16 b).bind ?_
  rintro id ⟨_, _⟩ ⟨rfl, hlen, rfl⟩
  rw [tail_of_le hlen]
  show Agrees _ (match (b.drop 2).mapM SubAckReturnCode.ofOctet? with | some _ => _ | none => _) _
  dsimp only
  cases (b.drop 2).mapM SubAckReturnCode.ofOctet? with
  | none => exact .refused _
  | some codes => exact .ok rfl

theorem agrees_decodePacketId (packet : UInt16 → Packet) (b : Bytes) :
    Agrees Eq (decodePacketId packet b) (Packet.decodePacketId packet b) := by
  rcases b with _ | ⟨hi, _ | ⟨lo, _ | ⟨o, rest⟩⟩⟩
  · exact .refused _
  · exact .refused _
  · exact .ok rfl
  · exact .refused _

theorem agrees_decodeEmpty (packet : Packet) (b : Bytes) :
    Agrees Eq (decodeEmpty packet b) (Packet.decodeEmpty packet b) := by
  cases b with
  | nil => exact .ok rfl
  | cons o rest => exact .refused _

theorem agrees_withFlags {x : Except Halt Packet} {y : Except DecodeError Packet}
    (expected flags : UInt8) (h : Agrees Eq x y) :
    Agrees Eq (withFlags expected flags x) (Packet.withFlags expected flags y) := by
  unfold withFlags Packet.withFlags
  split
  · exact h
  · exact .refused _

theorem agrees_decodeType (type : PacketType) (flags : UInt8) (b : Bytes) :
    Agrees Eq (decodeType type flags b) (Packet.decodeType type flags b) := by
  cases type with
  | connect => exact agrees_withFlags _ _ (agrees_decodeConnect b)
  | connAck => exact agrees_withFlags _ _ (agrees_decodeConnAck b)
  | publish => exact agrees_decodePublish flags b
  | pubAck | pubRec | pubRel | pubComp | unsubAck =>
    exact agrees_withFlags _ _ (agrees_decodePacketId _ b)
  | subscribe => exact agrees_withFlags _ _ (agrees_decodeSubscribe b)
  | subAck => exact agrees_withFlags _ _ (agrees_decodeSubAck b)
  | unsubscribe => exact agrees_withFlags _ _ (agrees_decodeUnsubscribe b)
  | pingReq | pingResp | disconnect => exact agrees_withFlags _ _ (agrees_decodeEmpty _ b)

theorem agrees_decodeBody (first : UInt8) (b : Bytes) :
    Agrees Eq (decodeBody first b) (Packet.decodeBody first b) := by
  unfold decodeBody Packet.decodeBody
  cases PacketType.ofOctet? (first >>> 4) with
  | none => exact .refused _
  | some type =>
    dsimp only
    refine (agrees_decodeType type (first &&& 0x0F) b).elim (fun _ _ h => .ok h) fun e => ?_
    cases e <;> exact .refused _

/-! ### Frames agree -/

theorem agrees_decode (limit : Nat) (buffer : Bytes) :
    Agrees Eq (decode limit buffer) (Packet.decode limit buffer) := by
  rcases buffer with _ | ⟨first, _ | ⟨o, rest⟩⟩
  · exact .ok rfl
  · exact .ok rfl
  · have hindex : index (first :: o :: rest) 0 = pure first := rfl
    have htail : tail (first :: o :: rest) 1 = pure (o :: rest) := tail_of_le (by simp)
    have hheader : ∀ {n count}, VarInt.read (o :: rest) = .ok (n, count) →
        1 + count ≤ (first :: o :: rest).length := fun hr => by
      obtain ⟨g, rest', heq, rfl, -⟩ := VarInt.read_eq_ok.1 hr
      simp only [heq, List.length_cons, List.length_append]
      omega
    rw [decode, if_neg (by simp), hindex, htail, pure_bind, pure_bind, Packet.decode]
    revert hheader
    refine (agrees_readVarInt (o :: rest)).elim ?_ fun e _ => ?_
    · rintro ⟨remaining, count⟩ ⟨_, _⟩ ⟨rfl, rfl⟩ hheader
      have hcut := cut?_drop remaining.toNat (hheader rfl)
      rw [Nat.add_comm 1 count, List.drop_succ_cons, Nat.add_comm count 1] at hcut
      dsimp only
      rw [hcut]
      split
      · exact .refused _
      split
      · exact .ok rfl
      · rename_i hlen
        rw [slice_of_le (Nat.le_add_right _ _) (Nat.not_lt.1 hlen)]
        show Agrees _ (decodeBody first _ >>= _) _
        dsimp only
        exact (agrees_decodeBody first _).elim (fun _ _ h => h ▸ .ok rfl) .refused
    -- a header that is cut short may still grow, what else is wrong with it is final
    · cases e <;> first | exact .ok rfl | exact .refused _

/-- Whatever octets are received and whatever the limit is, the decoder at positions comes to what
`Packet.decode` comes to: a packet, a wait for more, or a refusal. So what it takes by index and by slice
is there, every round over filters moves on, and the numbers of `varIntLoop` stay within their
bounds. The same holds of the body of every kind of packet, whatever its flags are, and of each field
alone, which leaves the position within the octets. -/
theorem decode_never_halts (limit : Nat) (buffer : Bytes) :
    decode limit buffer = (Packet.decode limit buffer).mapError .refused ∧
    (∀ type flags body,
      decodeType type flags body = (Packet.decodeType type flags body).mapError .refused) ∧
    (∀ b, Agrees (fun s t => s.1.toNat = t.1 ∧ s.2 = t.2) (readVarInt b) (VarInt.read b)) ∧
    (∀ b, Agrees (fun n t => n = t.1 ∧ 2 ≤ b.length ∧ t.2 = b.drop 2) (readU16 b)
      (Field.readU16 b)) ∧
    (∀ b, Agrees (Behind b) (readBinary b) (Field.readBinary b)) ∧
    (∀ b, Agrees (Behind b) (readText b) (Field.readText b)) :=
  ⟨Agrees.eq_iff.1 (agrees_decode limit buffer),
    fun type flags body => Agrees.eq_iff.1 (agrees_decodeType type flags body), agrees_readVarInt,
    agrees_readU16, agrees_readBinary, agrees_readText⟩

end DeviceGateway.Cursor
