import DeviceGateway.Proofs.Outbound.Frames
import DeviceGateway.Proofs.Packet.Body
import DeviceGateway.Proofs.Packet.Sizes
import DeviceGateway.Proofs.Wire.VarInt

/-!
# The length header of a written packet

The length header is written before the fields, from a sum over the packet that is cut to 32 bits
(`Packet.announcedLength`). `Packet.encode_eq_ok_iff`: a packet is written exactly when the announced
length is at most `VarInt.max` and each of its fields can be written (`Packet.FieldsFit`), and then as
its first octet, the shortest form of the announced length, and its body.

The body of every kind of packet is as long as the sum, so the header is right as long as the sum fits
in 32 bits. Above that it is not, and neither is a packet that is too long always refused as such
(`Packet.header_wraps`). `Packet.header_announces` has all of this together.
-/

namespace DeviceGateway

namespace Piece

variable {p : Piece} {l : List Piece}

/-- Only a length header can be too large. -/
theorem encode_eq_packetTooLarge_iff :
    p.encode = .error .packetTooLarge ↔ ∃ n, p = .length n ∧ VarInt.max < n.toNat := by
  cases p with
  | octets b => simp [encode]
  | length n =>
    simp only [encode, VarInt.write, length.injEq, exists_eq_left']
    split
    · exact iff_of_true rfl ‹_›
    · simp [*]
  | text s =>
    simp only [encode, Field.encodeText, Field.encodeBinary]
    split <;> simp
  | binary b =>
    simp only [encode, Field.encodeBinary]
    split <;> simp
  | packetId id => cases id <;> simp [encode]

theorem encodeAll_ne_packetTooLarge (h : ∀ n, length n ∉ l) :
    encodeAll l ≠ .error .packetTooLarge := by
  induction l with
  | nil => simp [encodeAll]
  | cons p l ih =>
    rw [encodeAll]
    split
    · rename_i e he
      intro heq
      obtain rfl : e = _ := Except.error.inj heq
      obtain ⟨n, rfl, -⟩ := encode_eq_packetTooLarge_iff.1 he
      exact h n List.mem_cons_self
    · split
      · rename_i e he
        intro heq
        obtain rfl : e = _ := Except.error.inj heq
        exact ih (fun n hn => h n (List.mem_cons_of_mem _ hn)) he
      · simp

end Piece

/-! ### Fields that can be written -/

/-- The texts and the data of a CONNECT fit behind lengths of two octets. -/
structure Connect.FieldsFit (c : Connect) : Prop where
  clientId : BinaryValid (Utf8.encode c.clientId)
  will : ∀ w ∈ c.will, BinaryValid (Utf8.encode w.topic) ∧ BinaryValid w.payload
  username : ∀ u ∈ c.username, BinaryValid (Utf8.encode u)
  password : ∀ d ∈ c.password, BinaryValid d

namespace Packet

variable {p : Packet} {e : Bytes}

/-- The texts and the data that stand behind lengths of two octets fit there, and a PUBLISH has a
packet identifier where one is written. -/
def FieldsFit : Packet → Prop
  | connect c => c.FieldsFit
  | publish q => BinaryValid (Utf8.encode q.topic) ∧ (q.qos ≠ .atMostOnce → q.packetId.isSome = true)
  | subscribe _ subs => ∀ s ∈ subs, BinaryValid (Utf8.encode s.filter)
  | unsubscribe _ filters => ∀ f ∈ filters, BinaryValid (Utf8.encode f)
  | _ => True

theorem forall_mem_getD_map {α : Type} {P : Piece → Prop} {o : Option α} {f : α → List Piece} :
    (∀ x ∈ (o.map f).getD [], P x) ↔ ∀ a ∈ o, ∀ x ∈ f a, P x := by
  cases o <;> simp

theorem writable_body_iff : (∀ x ∈ p.body, x.Writable) ↔ p.FieldsFit := by
  cases p with
  | connect c =>
    rw [body_connect]
    simp only [List.forall_mem_append, List.forall_mem_singleton, List.forall_mem_cons,
      forall_mem_getD_map]
    constructor
    · rintro ⟨-, -, hclientId, hwill, husername, hpassword⟩
      exact ⟨hclientId, hwill, husername, hpassword⟩
    · rintro ⟨hclientId, hwill, husername, hpassword⟩
      exact ⟨(textValid_protocolName _).length_le, trivial, hclientId, hwill, husername, hpassword⟩
  | publish q =>
    by_cases hq : q.qos = .atMostOnce
    · simp [body, FieldsFit, BinaryValid, Piece.Writable, hq]
    · simp [body, FieldsFit, BinaryValid, Piece.Writable, hq]
  | subscribe id subs =>
    rw [body, List.forall_mem_cons]
    simp only [List.forall_mem_flatMap, List.forall_mem_singleton, List.forall_mem_cons]
    exact ⟨fun h s hs => (h.2 s hs).1, fun h => ⟨trivial, fun s hs => ⟨h s hs, trivial⟩⟩⟩
  | unsubscribe id filters => simp [body, FieldsFit, BinaryValid, Piece.Writable]
  | _ => simp [body, FieldsFit, Piece.Writable]

theorem exists_encodeAll_body_iff : (∃ b, Piece.encodeAll p.body = .ok b) ↔ p.FieldsFit :=
  Piece.exists_encodeAll_iff.trans writable_body_iff

/-- The length header stands in front of the body, not in it. -/
theorem length_notMem_body (p : Packet) (n : UInt32) : .length n ∉ p.body := by
  cases p with
  | connect c =>
    rw [body_connect]
    cases c.will <;> cases c.username <;> cases c.password <;> simp
  | publish q => by_cases hq : q.qos = .atMostOnce <;> simp [body, hq]
  | subscribe id subs => simp [body]
  | unsubscribe id filters => simp [body]
  | _ => simp [body]

/-! ### The announced length -/

/-- The remaining length as the header has it, in 32 bits. -/
def announcedLength (p : Packet) : Nat := (UInt32.ofNat p.remainingLength).toNat

theorem announcedLength_of_lt (h : p.remainingLength < UInt32.size) :
    p.announcedLength = p.remainingLength := UInt32.toNat_ofNat_of_lt' h

theorem announcedLength_of_le (h : p.remainingLength ≤ VarInt.max) :
    p.announcedLength = p.remainingLength :=
  announcedLength_of_lt (Nat.lt_of_le_of_lt h (by decide))

theorem announcedLength_le (p : Packet) : p.announcedLength ≤ p.remainingLength := by
  rw [announcedLength, UInt32.toNat_ofNat']
  exact Nat.mod_le ..

/-- The header is looked at first, then the fields. -/
theorem encode_eq (p : Packet) : p.encode =
    if VarInt.max < p.announcedLength then .error .packetTooLarge
    else (Piece.encodeAll p.body).map fun b =>
      p.firstOctet :: (VarInt.groups 4 p.announcedLength ++ b) := by
  have hwrite : (Piece.length (.ofNat p.remainingLength)).encode =
      if VarInt.max < p.announcedLength then .error .packetTooLarge
      else .ok (VarInt.groups 4 p.announcedLength) := rfl
  rw [encode, layout, Piece.encodeAll, Piece.encode, Piece.encodeAll, hwrite]
  by_cases hlarge : VarInt.max < p.announcedLength
  · simp only [if_pos hlarge]
  · simp only [if_neg hlarge]
    cases Piece.encodeAll p.body <;> rfl

/-- A packet is written as its first octet, the shortest form of the announced length and its body. -/
theorem encode_eq_ok_iff : p.encode = .ok e ↔ p.announcedLength ≤ VarInt.max ∧
    ∃ b, Piece.encodeAll p.body = .ok b ∧
      e = p.firstOctet :: (VarInt.groups 4 p.announcedLength ++ b) := by
  rw [encode_eq]
  split
  · exact iff_of_false nofun fun h => absurd h.1 (Nat.not_le.2 ‹_›)
  · rw [and_iff_right (Nat.not_lt.1 ‹_›)]
    cases Piece.encodeAll p.body with
    | error _ => exact iff_of_false nofun fun ⟨_, h, _⟩ => nomatch h
    | ok b => simp [Except.map, eq_comm]

theorem exists_encode_iff :
    (∃ e, p.encode = .ok e) ↔ p.announcedLength ≤ VarInt.max ∧ p.FieldsFit := by
  rw [← exists_encodeAll_body_iff]
  constructor
  · rintro ⟨e, he⟩
    obtain ⟨hlen, b, hb, -⟩ := encode_eq_ok_iff.1 he
    exact ⟨hlen, b, hb⟩
  · rintro ⟨hlen, b, hb⟩
    exact ⟨_, encode_eq_ok_iff.2 ⟨hlen, b, hb, rfl⟩⟩

/-- What is refused as too large is what announces too much. -/
theorem encode_eq_packetTooLarge_iff :
    p.encode = .error .packetTooLarge ↔ VarInt.max < p.announcedLength := by
  rw [encode_eq]
  split
  · exact iff_of_true rfl ‹_›
  · refine iff_of_false (fun h => ?_) ‹_›
    cases hb : Piece.encodeAll p.body with
    | ok b => rw [hb] at h; cases h
    | error e =>
      rw [hb] at h
      obtain rfl : e = _ := Except.error.inj h
      exact Piece.encodeAll_ne_packetTooLarge (length_notMem_body p) hb

/-! ### What the header says -/

/-- The header of `p` says `n`: this decides whether `p` is too large, and it is written in front of
the body in its shortest form. -/
structure Announces (p : Packet) (n : Nat) : Prop where
  written_iff : (∃ e, p.encode = .ok e) ↔ n ≤ VarInt.max ∧ p.FieldsFit
  refused_iff : p.encode = .error .packetTooLarge ↔ VarInt.max < n
  frame : ∀ e, p.encode = .ok e → ∃ length body, e = p.firstOctet :: (length ++ body) ∧
    VarInt.Shortest n length ∧ body.length = p.remainingLength

theorem announces_announcedLength (p : Packet) : p.Announces p.announcedLength where
  written_iff := exists_encode_iff
  refused_iff := encode_eq_packetTooLarge_iff
  frame e he := by
    obtain ⟨hlen, b, hb, rfl⟩ := encode_eq_ok_iff.1 he
    exact ⟨_, b, rfl, (VarInt.shortest_iff hlen).2 rfl, length_of_encodeAll_body hb⟩

/-- The header says the remaining length if that is short enough for it, or if what is left of it in
32 bits is too much as well. -/
theorem announces_remainingLength_iff : p.Announces p.remainingLength ↔
    p.remainingLength ≤ VarInt.max ∨ VarInt.max < p.announcedLength := by
  have ha := p.announces_announcedLength
  constructor
  · intro h
    by_cases hlen : p.remainingLength ≤ VarInt.max
    · exact .inl hlen
    · exact .inr (ha.refused_iff.1 (h.refused_iff.2 (Nat.not_le.1 hlen)))
  · rintro (hlen | hlarge)
    · rwa [announcedLength_of_le hlen] at ha
    · have hle := p.announcedLength_le
      have hnone : ¬ ∃ e, p.encode = .ok e := fun h =>
        absurd (ha.written_iff.1 h).1 (Nat.not_le.2 hlarge)
      exact ⟨iff_of_false hnone fun h => by omega,
        iff_of_true (ha.refused_iff.2 hlarge) (by omega), fun e he => absurd ⟨e, he⟩ hnone⟩

/-- Written behind what is in a buffer, a packet leaves that as it is. Its header says the announced
length, which is the length of the body if that fits in 32 bits. -/
theorem header_announces (p : Packet) (buffer : Bytes) :
    p.Announces p.announcedLength ∧
    (p.remainingLength < UInt32.size → p.Announces p.remainingLength) ∧
    (p.Announces p.remainingLength ↔
      p.remainingLength ≤ VarInt.max ∨ VarInt.max < p.announcedLength) ∧
    (∀ e, p.encode = .ok e → Piece.emit p.layout buffer = (.ok (), buffer ++ e)) ∧
    ∀ e, p.encode = .error e → Piece.emit p.layout buffer = (.error e, buffer ++ p.written) := by
  refine ⟨p.announces_announcedLength, fun h => ?_, announces_remainingLength_iff, fun e he => ?_,
    fun e he => ?_⟩
  · have ha := p.announces_announcedLength
    rwa [announcedLength_of_lt h] at ha
  · rw [encode] at he
    rw [Piece.emit_eq, he, Piece.written_eq_of_encodeAll he]
    rfl
  · rw [encode] at he
    rw [Piece.emit_eq, he]
    rfl

/-- A text of `n` octets. -/
def letters (n : Nat) : String := String.ofList (List.replicate n 'a')

theorem length_encode_letters (n : Nat) : (Utf8.encode (letters n)).length = n := by
  have hsize : (String.utf8EncodeChar 'a').length = 1 := by decide
  rw [letters, Utf8.encode_ofList, List.length_flatMap, List.map_replicate, hsize,
    List.sum_replicate_nat, Nat.mul_one]

/-- A filter is refused behind a header that says what is left of the length in 32 bits. -/
theorem encode_of_long_filter {id : UInt16} {f : String} {filters : List String} {n : Nat}
    (hf : 65535 < (Utf8.encode f).length)
    (hn : (unsubscribe id (f :: filters)).announcedLength = n) (hle : n ≤ VarInt.max) :
    (unsubscribe id (f :: filters)).encode = .error .stringTooLong ∧
      (unsubscribe id (f :: filters)).written =
        0xA2 :: (VarInt.groups 4 n ++ Field.encodeU16 id) := by
  have htext : (Piece.text f).encode = .error .stringTooLong := if_pos hf
  have hheader : (Piece.length (.ofNat (unsubscribe id (f :: filters)).remainingLength)).encode =
      .ok (VarInt.groups 4 n) := by
    rw [Piece.encode, VarInt.write, ← announcedLength, hn, if_neg (Nat.not_lt.2 hle)]
  have hid : (Piece.octets (Field.encodeU16 id)).encode = .ok (Field.encodeU16 id) := rfl
  have hlayout : (unsubscribe id (f :: filters)).layout = .octets [0xA2] ::
      .length (.ofNat (unsubscribe id (f :: filters)).remainingLength) ::
      .octets (Field.encodeU16 id) :: .text f :: filters.map .text := rfl
  rw [encode, written, hlayout]
  simp only [Piece.encodeAll, Piece.written, htext, hheader, hid, List.append_nil]
  exact ⟨rfl, rfl⟩

/-- A payload that fills up 32 bits is written behind a header that says nothing of it. -/
theorem encode_of_long_payload (payload : Bytes) (h : 2 + payload.length = UInt32.size) :
    ∃ body, (publish { payload := payload }).encode = .ok (0x30 :: 0x00 :: body) ∧
      body.length = UInt32.size := by
  have hlen : (publish { payload := payload }).remainingLength = UInt32.size := h
  have hannounced : (publish { payload := payload }).announcedLength = 0 := by
    rw [announcedLength, hlen]
    rfl
  have hfit : (publish { payload := payload }).FieldsFit :=
    ⟨Nat.zero_le _, fun hq => absurd rfl hq⟩
  obtain ⟨body, hb⟩ := exists_encodeAll_body_iff.2 hfit
  refine ⟨body, ?_, by rw [length_of_encodeAll_body hb, hlen]⟩
  rw [encode_eq_ok_iff, hannounced]
  exact ⟨Nat.zero_le _, body, hb, rfl⟩

theorem remainingLength_unsubscribe_replicate (id : UInt16) (f g : String) (k : Nat) :
    (unsubscribe id (f :: List.replicate k g)).remainingLength =
      2 + (2 + (Utf8.encode f).length + k * (2 + (Utf8.encode g).length)) := by
  have hfold : (List.replicate k g).foldr (fun h n => textLength h + n) 0 =
      k * (2 + (Utf8.encode g).length) := by
    induction k with
    | zero => rw [List.replicate_zero, List.foldr_nil, Nat.zero_mul]
    | succ k ih =>
      rw [List.replicate_succ, List.foldr_cons, ih, textLength_eq, fieldLength, Nat.succ_mul,
        Nat.add_comm]
  rw [remainingLength, List.foldr_cons, hfold, textLength_eq, fieldLength]

/-- A packet that is too large is refused for one of its fields, behind a header that says much less
than its length. Another is written whole, behind a header that says it has no body. -/
theorem header_wraps :
    (∃ p, p = unsubscribe 1 (letters 65536 :: List.replicate 16 (letters 268435456)) ∧
      p.remainingLength = 4295032868 ∧ p.encode = .error .stringTooLong ∧
      p.written = [0xA2, 0xA4, 0x80, 0x04, 0x00, 0x01]) ∧
    ∃ p body, p = publish { payload := List.replicate 4294967294 0 } ∧
      p.encode = .ok (0x30 :: 0x00 :: body) ∧ body.length = 4294967296 := by
  constructor
  · have hlen : (unsubscribe 1
        (letters 65536 :: List.replicate 16 (letters 268435456))).remainingLength = 4295032868 := by
      rw [remainingLength_unsubscribe_replicate, length_encode_letters, length_encode_letters]
    have hannounced : (unsubscribe 1
        (letters 65536 :: List.replicate 16 (letters 268435456))).announcedLength = 65572 := by
      rw [announcedLength, hlen]
      rfl
    obtain ⟨he, hw⟩ := encode_of_long_filter (by rw [length_encode_letters]; decide) hannounced
      (by decide)
    exact ⟨_, rfl, hlen, he, hw⟩
  · obtain ⟨body, he, hlen⟩ := encode_of_long_payload (List.replicate 4294967294 0)
      (by rw [List.length_replicate])
    exact ⟨_, body, rfl, he, hlen⟩

end Packet

end DeviceGateway
