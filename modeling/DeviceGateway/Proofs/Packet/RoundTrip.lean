import DeviceGateway.Proofs.Packet.Framing
import DeviceGateway.Proofs.Packet.Header

/-!
# Reading and writing undo each other

Frames and bodies together: `Packet.decode_encode` says which packets come back from what is written
for them, and `Packet.encode_of_decode` that an accepted frame is the written form of its packet, up
to padding of the length. The forms of the length are all that a packet does not tell of its frame.
-/

namespace DeviceGateway.Packet

variable {max n : Nat} {p : Packet} {b e buf : Bytes}

theorem fieldsFit_of_wireValid (h : p.WireValid) : p.FieldsFit := by
  cases p with
  | connect c =>
    exact ⟨h.clientId.length_le, fun w hw => ⟨(h.will w hw).1.length_le, (h.will w hw).2⟩,
      fun u hu => (h.username u hu).length_le, h.password⟩
  | publish q =>
    refine ⟨h.topic.length_le, fun hq => ?_⟩
    obtain ⟨id, hid, -⟩ := h.of_acknowledged hq
    exact hid ▸ rfl
  | subscribe id subs => exact fun s hs => (h.2.2 s hs).length_le
  | unsubscribe id filters => exact fun f hf => (h.2.2 f hf).length_le
  | _ => trivial

theorem writable_of_wireValid (h : p.WireValid) : ∀ x ∈ p.body, x.Writable :=
  writable_body_iff.2 (fieldsFit_of_wireValid h)

/-- A packet that is not too long is written as its first octet, the shortest form of its remaining
length and its body. -/
theorem encode_eq_ok (hlen : p.remainingLength ≤ VarInt.max) : p.encode = .ok e ↔
    ∃ b, Piece.encodeAll p.body = .ok b ∧
      e = p.firstOctet :: (VarInt.groups 4 p.remainingLength ++ b) := by
  rw [encode_eq_ok_iff, announcedLength_of_le hlen, and_iff_right hlen]

/-- A frame that is read as a packet differs from what is written for it in the length at most. -/
theorem encode_of_decodeBody {f : Frame} (h : decodeBody f.first f.body = .ok p) :
    p.encode = .ok (f.first :: (VarInt.groups 4 f.body.length ++ f.body)) := by
  obtain ⟨hfirst, -, hb⟩ := decodeBody_eq_ok.1 h
  have hlen := length_of_encodeAll_body hb
  exact (encode_eq_ok (hlen ▸ f.length_body_le)).2 ⟨f.body, hb, by rw [hfirst, hlen]⟩

theorem remainingLength_le_of_decode {limit : Nat} (h : decode limit b = .ok (some (p, n))) :
    p.remainingLength ≤ VarInt.max := by
  obtain ⟨f, rest, rfl, -, rfl, hp⟩ := frame_of_decode h
  obtain ⟨-, -, hb⟩ := decodeBody_eq_ok.1 hp
  exact length_of_encodeAll_body hb ▸ f.length_body_le

/-- What a decoder says of a written packet is what it says of the body. -/
theorem decode_written (limit : Nat) (hlen : p.remainingLength ≤ decoderLimit limit)
    (he : p.encode = .ok e) : ∃ b, Piece.encodeAll p.body = .ok b ∧ ∀ rest,
      decode (decoderLimit limit) (e ++ rest) =
        (decodeBody p.firstOctet b).map fun q => some (q, e.length) := by
  have hmax : p.remainingLength ≤ VarInt.max := Nat.le_trans hlen (Nat.min_le_right ..)
  obtain ⟨b, hb, rfl⟩ := (encode_eq_ok hmax).1 he
  have hform := ((VarInt.shortest_iff hmax).2 rfl).1
  have hlength := length_of_encodeAll_body hb
  refine ⟨b, hb, fun rest => ?_⟩
  rw [List.cons_append, List.append_assoc, decode_of_declared hform (VarInt.length_groups ..),
    if_neg (Nat.not_lt.2 hlen), if_neg (by simp [hlength]), List.take_left' hlength]
  have hcount : 1 + (VarInt.groups 4 p.remainingLength).length + p.remainingLength =
      (p.firstOctet :: (VarInt.groups 4 p.remainingLength ++ b)).length := by
    rw [List.length_cons, List.length_append, hlength]
    omega
  rw [hcount]

/-- What is written for a packet that the format can carry, and everything that differs from it in
the form of the length only, is read as that packet. No other packet is read back. -/
theorem decode_encode (hlen : p.remainingLength ≤ decoderLimit max) :
    (p.WireValid → ∃ b, p.encode = .ok (p.firstOctet :: (VarInt.groups 4 p.remainingLength ++ b)) ∧
      b.length = p.remainingLength ∧
      ∀ length, VarInt.Form p.remainingLength length → length.length ≤ 4 → ∀ rest,
        let frame := p.firstOctet :: (length ++ b)
        decode (decoderLimit max) (frame ++ rest) = .ok (some (p, frame.length))) ∧
    (¬ p.WireValid → ∀ e, p.encode = .ok e → ∀ rest n,
      decode (decoderLimit max) (e ++ rest) ≠ .ok (some (p, n))) := by
  constructor
  · intro hv
    obtain ⟨b, hb⟩ := Piece.exists_encodeAll_iff.2 (writable_of_wireValid hv)
    have hlength := length_of_encodeAll_body hb
    refine ⟨b, (encode_eq_ok (Nat.le_trans hlen (Nat.min_le_right ..))).2 ⟨b, hb, rfl⟩, hlength, ?_⟩
    intro length hform hle rest
    let f : Frame := ⟨p.firstOctet, length, b, hlength ▸ hform, hle⟩
    exact decode_frame (f := f) (hlength ▸ hlen) (decodeBody_eq_ok.2 ⟨rfl, hv, hb⟩) rest
  · intro hv e _ rest n h
    obtain ⟨f, _, -, -, -, hp⟩ := frame_of_decode h
    exact hv (decodeBody_eq_ok.1 hp).2.1

/-- A PUBLISH, and its frame with a padded length in front of other octets. -/
theorem decode_encode_publish :
    let p := publish { qos := .atLeastOnce, topic := "a/b", packetId := some 10, payload := [0x21] }
    p.remainingLength ≤ decoderLimit 64 ∧ ∃ b, p.encode = .ok (0x32 :: 0x08 :: b) ∧
      decode (decoderLimit 64) (0x32 :: 0x88 :: 0x00 :: b ++ [0xD0]) = .ok (some (p, 11)) := by
  intro p
  have hlen : p.remainingLength ≤ decoderLimit 64 := by decide
  have hv : p.WireValid :=
    ⟨⟨by decide, by decide⟩, by decide, by decide, nofun, fun _ => ⟨10, rfl, by decide⟩⟩
  obtain ⟨b, he, hb, hd⟩ := (decode_encode hlen).1 hv
  have hform : VarInt.Form p.remainingLength [0x88, 0x00] :=
    .more 0x88 (by decide) (.last 0x00 (by decide))
  have h := hd _ hform (by decide) [0xD0]
  refine ⟨hlen, b, he, ?_⟩
  have hlength : b.length = 8 := hb
  have hfirst : p.firstOctet = 0x32 := rfl
  simpa [hlength, hfirst] using h

/-- An accepted frame is what is written for its packet, if the length is in its shortest form, and
otherwise all but the length is. So the packet tells the first octet and the body. -/
theorem encode_of_decode {limit : Nat} (h : decode limit buf = .ok (some (p, n))) :
    p.WireValid ∧ ∃ first r k e, buf.head? = some first ∧ VarInt.read (buf.drop 1) = .ok (r, k) ∧
      n = 1 + k + r ∧ n ≤ buf.length ∧ p.encode = .ok e ∧
      e = first :: (VarInt.groups 4 r ++ (buf.take n).drop (1 + k)) ∧
      (e = buf.take n ↔ VarInt.Shortest r ((buf.drop 1).take k)) ∧
      ∀ limit' buf' n', decode limit' buf' = .ok (some (p, n')) →
        buf'.head? = some first ∧ ∃ k', VarInt.read (buf'.drop 1) = .ok (r, k') ∧
          (buf'.take n').drop (1 + k') = (buf.take n).drop (1 + k) := by
  obtain ⟨f, rest, rfl, -, rfl, hp⟩ := frame_of_decode h
  obtain ⟨hfirst, hv, hb⟩ := decodeBody_eq_ok.1 hp
  refine ⟨hv, f.first, f.body.length, f.length.length, _, rfl, f.read_drop rest, f.length_octets,
    List.length_append ▸ Nat.le_add_right .., encode_of_decodeBody hp, by rw [f.drop_take], ?_, ?_⟩
  · rw [f.take_drop_one, VarInt.shortest_iff f.length_body_le, List.take_left, Frame.octets,
      List.cons.injEq, List.append_left_inj]
    exact ⟨fun h => h.2.symm, fun h => ⟨rfl, h.symm⟩⟩
  · intro limit' buf' n' h'
    obtain ⟨g, s, rfl, -, rfl, hp'⟩ := frame_of_decode h'
    obtain ⟨hfirst', -, hb'⟩ := decodeBody_eq_ok.1 hp'
    have hbody : g.body = f.body := Except.ok.inj (hb'.symm.trans hb)
    refine ⟨?_, g.length.length, hbody ▸ g.read_drop s, ?_⟩
    · rw [g.octets_append, ← hfirst', hfirst]
      rfl
    · rw [g.drop_take, f.drop_take, hbody]

/-- A PUBACK whose length is padded is not written as it was read. -/
theorem encode_of_decode_pubAck :
    let buf : Bytes := [0x40, 0x82, 0x80, 0x00, 0x00, 0x0A, 0xD0]
    decode 64 buf = .ok (some (pubAck 10, 6)) ∧
      ∃ e, (pubAck 10).encode = .ok e ∧ e ≠ buf.take 6 ∧ buf.head? = e.head? := by
  intro buf
  have hform : VarInt.Form 2 [0x82, 0x80, 0x00] :=
    .more 0x82 (by decide) (.more 0x80 (by decide) (.last 0x00 (by decide)))
  let f : Frame := ⟨0x40, [0x82, 0x80, 0x00], [0x00, 0x0A], hform, by decide⟩
  have hlimit : f.body.length ≤ 64 := show 2 ≤ 64 by decide
  have hbody : decodeBody f.first f.body = .ok (pubAck 10) := decodeBody_eq_ok.2 ⟨rfl, trivial, rfl⟩
  have h : decode 64 buf = .ok (some (pubAck 10, 6)) := decode_frame hlimit hbody [0xD0]
  obtain ⟨-, first, r, k, e, hfirst, hr, -, -, he, heq, hshort, -⟩ := encode_of_decode h
  refine ⟨h, e, he, fun hbuf => ?_, by rw [hfirst, heq]; rfl⟩
  obtain ⟨rfl, rfl⟩ := Prod.mk.inj (Except.ok.inj ((f.read_drop [0xD0]).symm.trans hr))
  have hmin : 3 ≤ 1 := (hshort.1 hbuf).2 [0x02] (.last 0x02 (by decide))
  exact absurd hmin (by decide)

end DeviceGateway.Packet
