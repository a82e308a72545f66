import DeviceGateway.Proofs.Packet.Flags
import DeviceGateway.Proofs.Packet.Reads

/-!
# Bodies of packets

`Packet.WireValid` says which packets have a written form that is read back: the texts and data fit
their length fields, no text contains U+0000, and the rules hold that the format has for single
packets. `decodeBody_eq_ok`: a first octet and a body are read as a packet exactly when the packet is
valid and they are its first octet and its written body. It has one case for each kind of packet,
and both ways of the round trip come from it.
-/

namespace DeviceGateway

structure Connect.WireValid (c : Connect) : Prop where
  clientId : TextValid c.clientId
  will : ∀ w ∈ c.will, TextValid w.topic ∧ BinaryValid w.payload
  username : ∀ u ∈ c.username, TextValid u
  password : ∀ p ∈ c.password, BinaryValid p
  username_of_password : c.password.isSome = true → c.username.isSome = true

structure Publish.WireValid (p : Publish) : Prop where
  topic : TextValid p.topic
  no_plus : '+' ∉ p.topic.toList
  no_hash : '#' ∉ p.topic.toList
  /-- without an acknowledgement there is nothing to repeat and nothing to name -/
  of_atMostOnce : p.qos = .atMostOnce → p.dup = false ∧ p.packetId = none
  of_acknowledged : p.qos ≠ .atMostOnce → ∃ id, p.packetId = some id ∧ id ≠ 0

namespace Packet

/-- A packet that the format can carry. -/
def WireValid : Packet → Prop
  | connect c => c.WireValid
  | publish p => p.WireValid
  | subscribe id subs => id ≠ 0 ∧ subs ≠ [] ∧ ∀ s ∈ subs, FilterValid s.filter
  | unsubscribe id filters => id ≠ 0 ∧ filters ≠ [] ∧ ∀ f ∈ filters, FilterValid f
  | _ => True

variable {b : Bytes} {p : Packet} {t : PacketType} {f : UInt8}

/-- `read` reads a body as `p` exactly when `p` is a valid packet of kind `t` and that is its body. -/
def ReadsBody (read : Except DecodeError Packet) (t : PacketType) (p : Packet) (b : Bytes) : Prop :=
  read = .ok p ↔ p.type = t ∧ p.WireValid ∧ Piece.encodeAll p.body = .ok b

/-! ### CONNECT -/

theorem textValid_protocolName (l : ProtocolLevel) : TextValid l.protocolName := by
  cases l <;> exact ⟨by decide, by decide⟩

theorem body_connect (c : Connect) : (connect c).body = [.text c.level.protocolName] ++
    ([.octets (c.level.octet :: connectFlags c :: Field.encodeU16 c.keepAlive)] ++
    ([.text c.clientId] ++
    ((c.will.map fun w => [.text w.topic, .binary w.payload]).getD [] ++
    ((c.username.map fun u => [.text u]).getD [] ++
    (c.password.map fun d => [.binary d]).getD [])))) := by
  simp only [body]
  cases c.will <;> cases c.username <;> cases c.password <;> rfl

theorem encodeAll_body_connect {c : Connect} : Piece.encodeAll (connect c).body = .ok b ↔
    ∃ e₁ e₂ e₃ e₄ e₅, Piece.encodeAll [.text c.level.protocolName] = .ok e₁ ∧
      Piece.encodeAll [.text c.clientId] = .ok e₂ ∧
      Piece.encodeAll ((c.will.map fun w => [.text w.topic, .binary w.payload]).getD []) = .ok e₃ ∧
      Piece.encodeAll ((c.username.map fun u => [.text u]).getD []) = .ok e₄ ∧
      Piece.encodeAll ((c.password.map fun d => [.binary d]).getD []) = .ok e₅ ∧
      b = e₁ ++ (c.level.octet :: connectFlags c ::
        (Field.encodeU16 c.keepAlive ++ (e₂ ++ (e₃ ++ (e₄ ++ e₅))))) := by
  rw [body_connect]
  simp only [Piece.encodeAll_append]
  constructor
  · rintro ⟨e₁, _, h₁, ⟨o, _, ho, ⟨e₂, _, h₂, ⟨e₃, _, h₃, ⟨e₄, e₅, h₄, h₅, rfl⟩, rfl⟩, rfl⟩, rfl⟩, rfl⟩
    obtain rfl := Piece.encode_octets.1 (Piece.encodeAll_singleton.1 ho)
    exact ⟨e₁, e₂, e₃, e₄, e₅, h₁, h₂, h₃, h₄, h₅, rfl⟩
  · rintro ⟨e₁, e₂, e₃, e₄, e₅, h₁, h₂, h₃, h₄, h₅, rfl⟩
    have ho := Piece.encodeAll_singleton.2 (Piece.encode_octets (c :=
      c.level.octet :: connectFlags c :: Field.encodeU16 c.keepAlive).2 rfl)
    exact ⟨e₁, _, h₁, ⟨_, _, ho, ⟨e₂, _, h₂, ⟨e₃, _, h₃, ⟨e₄, e₅, h₄, h₅, rfl⟩, rfl⟩, rfl⟩, rfl⟩, rfl⟩

theorem connect_of_decodeConnect (h : decodeConnect b = .ok p) :
    ∃ c, p = connect c ∧ c.WireValid ∧ Piece.encodeAll (connect c).body = .ok b := by
  unfold decodeConnect at h
  obtain ⟨⟨name, b₁⟩, h₁, h⟩ := bind_eq_ok.1 h
  obtain ⟨⟨version, b₂⟩, h₂, h⟩ := bind_eq_ok.1 h
  dsimp only at h
  split at h
  case h_2 => cases h
  rename_i level hlevel
  obtain ⟨hname, h⟩ := guard_eq_ok.1 h
  obtain ⟨⟨f, b₃⟩, h₃, h⟩ := bind_eq_ok.1 h
  obtain ⟨q, hq, h⟩ := bind_eq_ok.1 h
  obtain ⟨⟨keepAlive, b₄⟩, h₄, h⟩ := bind_eq_ok.1 h
  obtain ⟨⟨clientId, b₅⟩, h₅, h⟩ := bind_eq_ok.1 h
  obtain ⟨⟨will, b₆⟩, h₆, h⟩ := bind_eq_ok.1 h
  obtain ⟨⟨username, b₇⟩, h₇, h⟩ := bind_eq_ok.1 h
  obtain ⟨⟨password, b₈⟩, h₈, h⟩ := bind_eq_ok.1 h
  obtain ⟨hend, h⟩ := guard_eq_ok.1 h
  obtain rfl := Except.ok.inj h
  obtain rfl := Decidable.not_not.1 hname
  obtain rfl := Decidable.not_not.1 hend
  -- what each reader took, from the front of the body to its end
  obtain ⟨-, e₁, he₁, rfl⟩ := (Field.reads_text _ _ _).1 h₁
  obtain ⟨-, e₂, he₂, rfl⟩ := (Field.reads_octet _ _ _).1 h₂
  obtain ⟨-, e₃, he₃, rfl⟩ := (Field.reads_octet _ _ _).1 h₃
  obtain ⟨-, e₄, he₄, rfl⟩ := (Field.reads_u16 _ _ _).1 h₄
  obtain ⟨hclientId, e₅, he₅, rfl⟩ := (Field.reads_text _ _ _).1 h₅
  obtain ⟨⟨hw, hwill⟩, e₆, he₆, rfl⟩ := (reads_when (reads_will q _) _ _ _ _).1 h₆
  obtain ⟨⟨hu, husername⟩, e₇, he₇, rfl⟩ := (reads_when Field.reads_text _ _ _ _).1 h₇
  obtain ⟨⟨hp, hpassword⟩, e₈, he₈, rfl⟩ := (reads_when Field.reads_binary _ _ _ _).1 h₈
  simp only [Piece.encodeAll_singleton, Piece.encode_octets] at he₂ he₃ he₄
  subst he₂ he₃ he₄
  let c : Connect := ⟨level, clientId, f &&& 0x02 != 0, keepAlive, username, password, will⟩
  have hflags := (connectFlags_eq_iff (c := c)).2 ⟨q, hq, rfl,
    unpackWill_eq_iff.2 ⟨hw, fun w hm => (hwill w hm).2.2⟩, hp.symm, hu.symm⟩
  refine ⟨c, rfl, ⟨hclientId, fun w hm => ⟨(hwill w hm).1, (hwill w hm).2.1⟩, husername, hpassword,
    hflags.2⟩, encodeAll_body_connect.2 ⟨e₁, e₅, e₆, e₇, e₈, he₁, he₅, he₆, he₇, he₈, ?_⟩⟩
  rw [hflags.1, ProtocolLevel.ofOctet?_eq_some.1 hlevel]
  simp [c]

theorem decodeConnect_body {c : Connect} (hc : c.WireValid)
    (hb : Piece.encodeAll (connect c).body = .ok b) : decodeConnect b = .ok (connect c) := by
  obtain ⟨e₁, e₅, e₆, e₇, e₈, he₁, he₅, he₆, he₇, he₈, rfl⟩ := encodeAll_body_connect.1 hb
  obtain ⟨q, hq, hclean, hunpack, hp, hu⟩ := connectFlags_eq_iff.1 ⟨rfl, hc.username_of_password⟩
  obtain ⟨hw, hwill⟩ := unpackWill_eq_iff.1 hunpack
  have h₁ := Field.reads_text.read_append (textValid_protocolName c.level) he₁
  have h₅ := Field.reads_text.read_append hc.clientId he₅
  have h₆ := (reads_when (reads_will q _) _).read_append
    ⟨hw, fun w hm => ⟨(hc.will w hm).1, (hc.will w hm).2, hwill w hm⟩⟩ he₆
  have h₇ := (reads_when Field.reads_text _).read_append ⟨hu.symm, hc.username⟩ he₇
  have h₈ := (reads_when Field.reads_binary _).read_append ⟨hp.symm, hc.password⟩ he₈ []
  rw [List.append_nil] at h₈
  refine bind_eq_ok.2 ⟨_, h₁ _, bind_eq_ok.2 ⟨_, rfl, ?_⟩⟩
  dsimp only
  rw [ProtocolLevel.ofOctet?_octet]
  refine guard_eq_ok.2 ⟨not_not_intro rfl, bind_eq_ok.2 ⟨_, rfl, bind_eq_ok.2 ⟨_, hq,
    bind_eq_ok.2 ⟨_, Field.readU16_encodeU16 _ _, bind_eq_ok.2 ⟨_, h₅ _, bind_eq_ok.2 ⟨_, h₆ _,
      bind_eq_ok.2 ⟨_, h₇ _, bind_eq_ok.2 ⟨_, h₈, guard_eq_ok.2 ⟨not_not_intro rfl, ?_⟩⟩⟩⟩⟩⟩⟩⟩⟩
  dsimp only
  rw [hclean]
  rfl

theorem readsBody_connect : ReadsBody (decodeConnect b) .connect p b := by
  constructor
  · intro h
    obtain ⟨c, rfl, hc, hb⟩ := connect_of_decodeConnect h
    exact ⟨rfl, hc, hb⟩
  · rintro ⟨ht, hv, hb⟩
    cases p with
    | connect c => exact decodeConnect_body hv hb
    | _ => cases ht

/-! ### PUBLISH -/

theorem contains_eq_false {s : String} {c : Char} : s.contains c = false ↔ c ∉ s.toList := by
  rw [String.contains_char_eq, decide_eq_false_iff_not]

/-- A packet identifier is there exactly above the lowest quality of service, and is not zero. -/
theorem packetId_valid_iff {q : QoS} {id? : Option UInt16} :
    (id?.isSome = (q != .atMostOnce) ∧ ∀ id ∈ id?, id ≠ 0) ↔
      (q = .atMostOnce → id? = none) ∧ (q ≠ .atMostOnce → ∃ id, id? = some id ∧ id ≠ 0) := by
  cases q <;> cases id? <;> simp

theorem encodeAll_body_publish {q : Publish} (h : q.packetId.isSome = (q.qos != .atMostOnce)) :
    Piece.encodeAll (publish q).body = Piece.encodeAll ([.text q.topic] ++
      ((q.packetId.map fun id => [.octets (Field.encodeU16 id)]).getD [] ++ [.octets q.payload])) := by
  rcases q with ⟨_, _ | _ | _, _, topic, _ | id, payload⟩ <;> simp at h <;> rfl

theorem publish_of_decodePublish (hf : f < 16) (h : decodePublish f b = .ok p) :
    ∃ q, p = publish q ∧ p.flags = f ∧ q.WireValid ∧ Piece.encodeAll (publish q).body = .ok b := by
  unfold decodePublish at h
  dsimp only at h
  split at h
  case h_2 => cases h
  rename_i qos hqos
  obtain ⟨hdup, h⟩ := guard_eq_ok.1 h
  obtain ⟨⟨topic, b₁⟩, h₁, h⟩ := bind_eq_ok.1 h
  obtain ⟨htopic, h⟩ := guard_eq_ok.1 h
  obtain ⟨⟨packetId, payload⟩, h₂, h⟩ := bind_eq_ok.1 h
  obtain rfl := Except.ok.inj h
  obtain ⟨hv, e₁, he₁, rfl⟩ := (Field.reads_text _ _ _).1 h₁
  obtain ⟨hid, e₂, he₂, rfl⟩ := (reads_when reads_packetId _ _ _ _).1 h₂
  obtain ⟨hnone, hsome⟩ := packetId_valid_iff.1 hid
  simp only [Bool.or_eq_true, not_or, Bool.not_eq_true, contains_eq_false] at htopic
  refine ⟨_, rfl, (publishFlags_eq_iff hf).2 ⟨rfl, hqos, rfl⟩, ⟨hv, htopic.1, htopic.2, fun hq =>
    ⟨Bool.eq_false_iff.2 fun hd => hdup ⟨hq, hd⟩, hnone hq⟩, hsome⟩, ?_⟩
  rw [encodeAll_body_publish hid.1]
  exact Piece.encodeAll_append.2 ⟨e₁, _, he₁, Piece.encodeAll_append.2 ⟨e₂, payload, he₂,
    Piece.encodeAll_singleton.2 rfl, rfl⟩, rfl⟩

theorem decodePublish_body {q : Publish} (hf : f < 16) (hflags : (publish q).flags = f)
    (hq : q.WireValid) (hb : Piece.encodeAll (publish q).body = .ok b) :
    decodePublish f b = .ok (publish q) := by
  have hid := packetId_valid_iff.2 ⟨fun h => (hq.of_atMostOnce h).2, hq.of_acknowledged⟩
  rw [encodeAll_body_publish hid.1] at hb
  simp only [Piece.encodeAll_append] at hb
  obtain ⟨e₁, _, he₁, ⟨e₂, _, he₂, hpayload, rfl⟩, rfl⟩ := hb
  obtain rfl := Piece.encode_octets.1 (Piece.encodeAll_singleton.1 hpayload)
  obtain ⟨hdup, hqos, hretain⟩ := (publishFlags_eq_iff hf).1 hflags
  unfold decodePublish
  dsimp only
  rw [hqos, hdup, hretain]
  refine guard_eq_ok.2 ⟨fun h => ?_, bind_eq_ok.2 ⟨_, Field.reads_text.read_append hq.topic he₁ _,
    guard_eq_ok.2 ⟨?_, bind_eq_ok.2 ⟨_, (reads_when reads_packetId _).read_append hid he₂ _, rfl⟩⟩⟩⟩
  · exact absurd h.2 (Bool.eq_false_iff.1 (hq.of_atMostOnce h.1).1)
  · simp only [Bool.or_eq_true, not_or, Bool.not_eq_true, contains_eq_false]
    exact ⟨hq.no_plus, hq.no_hash⟩

theorem decodePublish_eq_ok (hf : f < 16) : decodePublish f b = .ok p ↔
    p.type = .publish ∧ p.flags = f ∧ p.WireValid ∧ Piece.encodeAll p.body = .ok b := by
  constructor
  · intro h
    obtain ⟨q, rfl, hflags, hq, hb⟩ := publish_of_decodePublish hf h
    exact ⟨rfl, hflags, hq, hb⟩
  · rintro ⟨ht, hflags, hv, hb⟩
    cases p with
    | publish q => exact decodePublish_body hf hflags hv hb
    | _ => cases ht

/-! ### SUBSCRIBE, SUBACK and UNSUBSCRIBE -/

/-- A packet identifier and behind it a list that is not empty, to the end of the body. -/
theorem packetId_list_eq_ok {α : Type} [DecidableEq α] {packet : UInt16 → List α → Packet}
    {readAll : Bytes → Except DecodeError (List α)} {pieces : List α → List Piece} {valid : α → Prop}
    (hread : ∀ {b l}, readAll b = .ok l ↔ (∀ x ∈ l, valid x) ∧ Piece.encodeAll (pieces l) = .ok b)
    (e : DecodeError) :
    (do
      let (id, b) ← readPacketId b
      let l ← readAll b
      if l = [] then throw e
      pure (packet id l)) = .ok p ↔
    ∃ id l, p = packet id l ∧ (id ≠ 0 ∧ l ≠ [] ∧ ∀ x ∈ l, valid x) ∧
      Piece.encodeAll (.octets (Field.encodeU16 id) :: pieces l) = .ok b := by
  constructor
  · intro h
    obtain ⟨⟨id, b₁⟩, h₁, h⟩ := bind_eq_ok.1 h
    obtain ⟨l, h₂, h⟩ := bind_eq_ok.1 h
    obtain ⟨hne, h⟩ := guard_eq_ok.1 h
    obtain rfl := Except.ok.inj h
    obtain ⟨hid, e₁, he, rfl⟩ := (reads_packetId _ _ _).1 h₁
    obtain ⟨hl, hb⟩ := hread.1 h₂
    exact ⟨id, l, rfl, ⟨hid, hne, hl⟩, Piece.encodeAll_append.2 ⟨e₁, b₁, he, hb, rfl⟩⟩
  · rintro ⟨id, l, rfl, ⟨hid, hne, hl⟩, hb⟩
    obtain ⟨e₁, b₁, he, hb₁, rfl⟩ := Piece.encodeAll_append (l := [_]).1 hb
    exact bind_eq_ok.2 ⟨_, reads_packetId.read_append hid he b₁,
      bind_eq_ok.2 ⟨l, hread.2 ⟨hl, hb₁⟩, guard_eq_ok.2 ⟨hne, rfl⟩⟩⟩

theorem readsBody_subscribe : ReadsBody (decodeSubscribe b) .subscribe p b := by
  refine (packetId_list_eq_ok readSubscriptions_eq_ok _).trans ⟨?_, ?_⟩
  · rintro ⟨id, subs, rfl, hv⟩
    exact ⟨rfl, hv⟩
  · rintro ⟨ht, hv⟩
    cases p with
    | subscribe id subs => exact ⟨id, subs, rfl, hv⟩
    | _ => cases ht

theorem readsBody_unsubscribe : ReadsBody (decodeUnsubscribe b) .unsubscribe p b := by
  refine (packetId_list_eq_ok readFilters_eq_ok _).trans ⟨?_, ?_⟩
  · rintro ⟨id, filters, rfl, hv⟩
    exact ⟨rfl, hv⟩
  · rintro ⟨ht, hv⟩
    cases p with
    | unsubscribe id filters => exact ⟨id, filters, rfl, hv⟩
    | _ => cases ht

theorem readsBody_subAck : ReadsBody (decodeSubAck b) .subAck p b := by
  constructor
  · intro h
    obtain ⟨⟨id, b₁⟩, h₁, h⟩ := bind_eq_ok.1 h
    dsimp only at h
    split at h
    · rename_i codes hcodes
      obtain rfl := Except.ok.inj h
      obtain rfl := mapM_ofOctet?_eq_some.1 hcodes
      exact ⟨rfl, trivial, Piece.encodeAll_singleton.2 (Piece.encode_octets.2 (Field.u16_eq h₁))⟩
    · cases h
  · rintro ⟨ht, -, hb⟩
    cases p with
    | subAck id codes =>
      obtain rfl := Piece.encode_octets.1 (Piece.encodeAll_singleton.1 hb)
      refine bind_eq_ok.2 ⟨_, Field.readU16_encodeU16 id _, ?_⟩
      dsimp only
      rw [mapM_ofOctet?_eq_some.2 rfl]
      rfl
    | _ => cases ht

/-! ### Packets of two octets or none -/

theorem connAck_table : ∀ i : Fin 256, ∀ present : Bool,
    let a := UInt8.ofNat i
    ((a &&& 0xFE != 0) = false ∧ (a &&& 0x01 != 0) = present ↔ a = if present then 1 else 0) := by
  decide +kernel

theorem decodeConnAck_eq_ok : decodeConnAck b = .ok p ↔
    ∃ present code, p = connAck present code ∧ b = [if present then 1 else 0, code.octet] := by
  constructor
  · intro h
    unfold decodeConnAck at h
    split at h
    · rename_i ack code
      split at h
      · cases h
      · rename_i hack
        split at h
        · rename_i c hc
          obtain rfl := Except.ok.inj h
          have hbit := connAck_table ⟨ack.toNat, ack.toNat_lt⟩ (ack &&& 0x01 != 0)
          simp only [UInt8.ofNat_toNat, and_true] at hbit
          rw [← ConnectReturnCode.ofOctet?_eq_some.1 hc]
          exact ⟨_, c, rfl, congrArg (fun a => [a, c.octet]) (hbit.1 (Bool.eq_false_iff.2 hack))⟩
        · cases h
    · cases h
  · rintro ⟨present, code, rfl, rfl⟩
    cases present <;> cases code <;> rfl

theorem readsBody_connAck : ReadsBody (decodeConnAck b) .connAck p b := by
  rw [ReadsBody, decodeConnAck_eq_ok]
  constructor
  · rintro ⟨present, code, rfl, rfl⟩
    exact ⟨rfl, trivial, rfl⟩
  · rintro ⟨ht, -, hb⟩
    cases p with
    | connAck present code =>
      exact ⟨present, code, rfl, Piece.encode_octets.1 (Piece.encodeAll_singleton.1 hb)⟩
    | _ => cases ht

theorem decodePacketId_eq_ok {packet : UInt16 → Packet} :
    decodePacketId packet b = .ok p ↔ ∃ id, p = packet id ∧ b = Field.encodeU16 id := by
  constructor
  · intro h
    unfold decodePacketId at h
    split at h
    · rename_i hi lo
      obtain rfl := Except.ok.inj h
      have hread : Field.readU16 [hi, lo] = .ok (.ofNat (hi.toNat * 256 + lo.toNat), []) := rfl
      exact ⟨_, rfl, (Field.u16_eq hread).trans (List.append_nil _)⟩
    · cases h
  · rintro ⟨id, rfl, rfl⟩
    have hread := Field.readU16_encodeU16 id []
    rw [Field.encodeU16, List.cons_append, List.cons_append, Field.readU16] at hread
    rw [Field.encodeU16, decodePacketId, (Prod.mk.inj (Except.ok.inj hread)).1]

theorem readsBody_packetId (packet : UInt16 → Packet) (ht : p.type = t ↔ ∃ id, p = packet id)
    (hv : ∀ id, (packet id).WireValid)
    (hb : ∀ id, (packet id).body = [.octets (Field.encodeU16 id)]) :
    ReadsBody (decodePacketId packet b) t p b := by
  rw [ReadsBody, decodePacketId_eq_ok, ht]
  constructor
  · rintro ⟨id, rfl, rfl⟩
    exact ⟨⟨id, rfl⟩, hv id, hb id ▸ rfl⟩
  · rintro ⟨⟨id, rfl⟩, -, he⟩
    rw [hb, Piece.encodeAll_singleton, Piece.encode_octets] at he
    exact ⟨id, rfl, he⟩

theorem readsBody_empty (q : Packet) (ht : p.type = t ↔ p = q) (hv : q.WireValid) (hb : q.body = []) :
    ReadsBody (decodeEmpty q b) t p b := by
  rw [ReadsBody, ht]
  constructor
  · intro h
    unfold decodeEmpty at h
    split at h
    · obtain rfl := Except.ok.inj h
      exact ⟨rfl, hv, hb ▸ rfl⟩
    · cases h
  · rintro ⟨rfl, -, he⟩
    rw [hb, Piece.encodeAll_nil] at he
    rw [he, decodeEmpty]

/-! ### All kinds -/

theorem withFlags_eq_ok {e : UInt8} {read : Except DecodeError Packet} :
    withFlags e f read = .ok p ↔ f = e ∧ read = .ok p := by
  unfold withFlags
  split
  · exact ⟨fun h => ⟨‹_›, h⟩, And.right⟩
  · exact ⟨nofun, fun h => absurd h.1 ‹_›⟩

/-- A kind whose flags say nothing is read behind a check of them. -/
theorem ReadsBody.withFlags {e : UInt8} {read : Except DecodeError Packet} (h : ReadsBody read t p b)
    (he : p.type = t → p.flags = e) : withFlags e f read = .ok p ↔
      p.type = t ∧ p.flags = f ∧ p.WireValid ∧ Piece.encodeAll p.body = .ok b := by
  unfold ReadsBody at h
  rw [withFlags_eq_ok, h]
  constructor
  · rintro ⟨rfl, ht, hv⟩
    exact ⟨ht, he ht, hv⟩
  · rintro ⟨ht, rfl, hv⟩
    exact ⟨he ht, ht, hv⟩

/-- The flags of a kind other than PUBLISH. -/
def fixedFlags : PacketType → UInt8
  | .pubRel | .subscribe | .unsubscribe => 2
  | _ => 0

theorem flags_of_type (ht : t ≠ .publish) (h : p.type = t) : p.flags = fixedFlags t := by
  subst h
  cases p with
  | publish => exact absurd rfl ht
  | _ => rfl

/-- A kind, the flags and a body are read as the packet whose kind, flags and body they are. -/
theorem decodeType_eq_ok (hf : f < 16) : decodeType t f b = .ok p ↔
    p.type = t ∧ p.flags = f ∧ p.WireValid ∧ Piece.encodeAll p.body = .ok b := by
  cases t with
  | publish => exact decodePublish_eq_ok hf
  | connect => exact readsBody_connect.withFlags (flags_of_type nofun)
  | connAck => exact readsBody_connAck.withFlags (flags_of_type nofun)
  | subscribe => exact readsBody_subscribe.withFlags (flags_of_type nofun)
  | subAck => exact readsBody_subAck.withFlags (flags_of_type nofun)
  | unsubscribe => exact readsBody_unsubscribe.withFlags (flags_of_type nofun)
  | pubAck | pubRec | pubRel | pubComp | unsubAck =>
    refine ReadsBody.withFlags (readsBody_packetId _ ?_ (fun _ => trivial) fun _ => rfl)
      (flags_of_type nofun)
    cases p <;> simp [type]
  | pingReq | pingResp | disconnect =>
    refine ReadsBody.withFlags (readsBody_empty _ ?_ trivial rfl) (flags_of_type nofun)
    cases p <;> simp [type]

/-- The first octet and a body are read as the valid packet that they are written for. -/
theorem decodeBody_eq_ok {o : UInt8} : decodeBody o b = .ok p ↔
    p.firstOctet = o ∧ p.WireValid ∧ Piece.encodeAll p.body = .ok b := by
  rw [firstOctet_eq_iff, and_assoc, ← PacketType.ofOctet?_eq_some]
  unfold decodeBody
  split
  · rename_i ht
    exact iff_of_false nofun fun h => nomatch ht.symm.trans h.1
  · rename_i t ht
    rw [ht, Option.some.injEq, eq_comm (a := t), ← decodeType_eq_ok (halves_eq o).2]
    split
    · rename_i e he
      rw [he]
      exact iff_of_false nofun nofun
    · rfl

end Packet

end DeviceGateway
