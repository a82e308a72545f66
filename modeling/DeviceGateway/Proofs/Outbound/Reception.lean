import DeviceGateway.Proofs.Charset
import DeviceGateway.Proofs.Outbound.Table
import DeviceGateway.Proofs.Packet.RoundTrip
import DeviceGateway.Proofs.Packet.Stream

/-!
# What a device makes of its messages

A message is taken in if neither its topic nor its content is empty, its connection has an open writer
and its packet can be written. A decoder asks for more: a topic must not contain U+0000 or a wildcard
(`topicFault?`), and a packet must be as long as its header says, which the header of a very long one
does not. So not all that is taken in is a packet to the device. `Surroundings.received_publishAll`
tells which messages of a run are, and what the decoder says of the first that is not.
-/

namespace DeviceGateway

/-- What a decoder finds wrong with the topic of a PUBLISH. -/
def topicFault? (topic : String) : Option Malformation :=
  if '\x00' ∈ topic.toList then some .nullCharacter
  else if '+' ∈ topic.toList ∨ '#' ∈ topic.toList then some .topicWildcard
  else none

theorem topicFault?_eq_none {topic : String} : topicFault? topic = none ↔
    '\x00' ∉ topic.toList ∧ '+' ∉ topic.toList ∧ '#' ∉ topic.toList := by
  unfold topicFault?
  by_cases hz : '\x00' ∈ topic.toList
  · simp [hz]
  · by_cases hw : '+' ∈ topic.toList ∨ '#' ∈ topic.toList
    · rw [if_neg hz, if_pos hw]
      exact iff_of_false nofun fun h => hw.elim h.2.1 h.2.2
    · rw [if_neg hz, if_neg hw]
      exact iff_of_true rfl ⟨hz, fun h => hw (.inl h), fun h => hw (.inr h)⟩

/-! ### The octets of a message -/

/-- A text that was written is read back unless it contains U+0000. -/
theorem Field.readText_encodeText {s : String} {e : Bytes} (he : encodeText s = .ok e) (rest : Bytes) :
    readText (e ++ rest) =
      if '\x00' ∈ s.toList then .error (.malformed .nullCharacter) else .ok (s, rest) := by
  obtain ⟨hlen, rfl⟩ := encodeBinary_eq_ok.1 he
  simp only [readText, readBinary_encode _ rest hlen, Utf8.decode?_encode, List.contains_iff_mem,
    Utf8.zero_mem_encode]

namespace Packet

variable {topic : String} {payload b : Bytes} {r : Malformation}

theorem encodeAll_body_message
    (hb : Piece.encodeAll (publish { topic := topic, payload := payload }).body = .ok b) :
    ∃ e, Field.encodeText topic = .ok e ∧ b = e ++ payload := by
  obtain ⟨e, _, he, hp, rfl⟩ := Piece.encodeAll_cons.1 hb
  obtain rfl := Piece.encode_octets.1 (Piece.encodeAll_singleton.1 hp)
  exact ⟨e, he, rfl⟩

/-- The body of a message is refused for the fault in its topic. -/
theorem decodeBody_of_topicFault
    (hb : Piece.encodeAll (publish { topic := topic, payload := payload }).body = .ok b)
    (hr : topicFault? topic = some r) : decodeBody 0x30 b = .error (.malformed r) := by
  obtain ⟨e, he, rfl⟩ := encodeAll_body_message hb
  have hread := Field.readText_encodeText he payload
  have htype : decodeType .publish 0 (e ++ payload) = .error (.malformed r) := by
    unfold topicFault? at hr
    simp only [decodeType, decodePublish, hread]
    by_cases hz : '\x00' ∈ topic.toList
    · rw [if_pos hz] at hr ⊢
      obtain rfl := Option.some.inj hr
      rfl
    · rw [if_neg hz] at hr ⊢
      by_cases hw : '+' ∈ topic.toList ∨ '#' ∈ topic.toList
      · rw [if_pos hw] at hr
        obtain rfl := Option.some.inj hr
        have hguard : (topic.contains '+' || topic.contains '#') = true := by
          simpa only [String.contains_char_eq, Bool.or_eq_true, decide_eq_true_eq] using hw
        show (if (topic.contains '+' || topic.contains '#') = true then _ else _) = _
        rw [if_pos hguard]
        rfl
      · rw [if_neg hw] at hr
        cases hr
  have hfirst : PacketType.ofOctet? ((0x30 : UInt8) >>> 4) = some .publish := rfl
  rw [decodeBody, hfirst]
  dsimp only
  rw [show (0x30 &&& 0x0F : UInt8) = 0 from rfl, htype]

end Packet

namespace Outbound

variable {o : Outbound} {m : OutboundMessage} {e : Bytes} {r : Malformation}

/-- The packet of a message is one for the decoder. -/
structure Receivable (o : Outbound) (m : OutboundMessage) : Prop where
  topic : topicFault? m.topic = none
  size : (o.packetOf m).remainingLength ≤ VarInt.max

theorem Receivable.wireValid (h : o.Receivable m) (he : (o.packetOf m).encode = .ok e) :
    (o.packetOf m).WireValid := by
  obtain ⟨b, hb, -⟩ := (Packet.encode_eq_ok h.size).1 he
  obtain ⟨t, ht, -⟩ := Packet.encodeAll_body_message hb
  obtain ⟨hnull, hplus, hhash⟩ := topicFault?_eq_none.1 h.topic
  have hlen : BinaryValid (Utf8.encode m.topic) := (Field.encodeBinary_eq_ok.1 ht).1
  exact ⟨⟨hlen, hnull⟩, hplus, hhash, fun _ => ⟨rfl, rfl⟩, fun hq => absurd rfl hq⟩

theorem Receivable.decode (h : o.Receivable m) (he : (o.packetOf m).encode = .ok e) (rest : Bytes) :
    Packet.decode VarInt.max (e ++ rest) = .ok (some (o.packetOf m, e.length)) := by
  obtain ⟨b, hb, hd⟩ := Packet.decode_written VarInt.max h.size he
  have hbody := Packet.decodeBody_eq_ok.2 ⟨rfl, h.wireValid he, hb⟩
  have := hd rest
  rw [hbody] at this
  exact this

/-- Only a receivable message is read back, whatever the length in the header came to. -/
theorem receivable_of_decode {n : Nat} {buf : Bytes}
    (h : Packet.decode VarInt.max buf = .ok (some (o.packetOf m, n))) : o.Receivable m := by
  obtain ⟨f, _, -, -, -, hp⟩ := Packet.frame_of_decode h
  have hv : (o.packetOf m).WireValid := (Packet.decodeBody_eq_ok.1 hp).2.1
  exact ⟨topicFault?_eq_none.2 ⟨hv.topic.null_free, hv.no_plus, hv.no_hash⟩,
    Packet.remainingLength_le_of_decode h⟩

theorem decode_of_topicFault (hsize : (o.packetOf m).remainingLength ≤ VarInt.max)
    (he : (o.packetOf m).encode = .ok e) (hr : topicFault? m.topic = some r) (rest : Bytes) :
    Packet.decode VarInt.max (e ++ rest) = .error (.malformed r) := by
  obtain ⟨b, hb, hd⟩ := Packet.decode_written VarInt.max hsize he
  have hbody : Packet.decodeBody (o.packetOf m).firstOctet b = .error (.malformed r) :=
    Packet.decodeBody_of_topicFault hb hr
  have := hd rest
  rw [hbody] at this
  exact this

/-! ### The octets of many messages -/

variable {ms before after : List OutboundMessage} {frames : List Bytes}

theorem ofBuffer_append_frames (h : ∀ m ∈ ms, o.Receivable m)
    (hf : ms.map (fun m => (o.packetOf m).encode) = frames.map .ok) (x : Bytes) :
    Drained.ofBuffer VarInt.max (frames.flatten ++ x) =
      { Drained.ofBuffer VarInt.max x with
        packets := ms.map o.packetOf ++ (Drained.ofBuffer VarInt.max x).packets } := by
  -- a decoder takes one frame at a time off the front, whatever octets are behind it
  induction ms generalizing frames with
  | nil =>
    obtain rfl : frames = [] := by simpa using hf
    rfl
  | cons m ms ih =>
    obtain ⟨hm, hms⟩ := List.forall_mem_cons.1 h
    obtain ⟨e, es, rfl, he, hes⟩ := List.map_eq_cons_iff.1 hf.symm
    have hd := hm.decode he.symm (es.flatten ++ x)
    rw [List.flatten_cons, List.append_assoc, Drained.ofBuffer_of_packet hd, List.drop_left,
      ih hms hes.symm]
    rfl

theorem ofBuffer_frames (h : ∀ m ∈ ms, o.Receivable m)
    (hf : ms.map (fun m => (o.packetOf m).encode) = frames.map .ok) :
    Drained.ofBuffer VarInt.max frames.flatten = ⟨ms.map o.packetOf, [], none⟩ := by
  have hnil : Drained.ofBuffer VarInt.max [] = ⟨[], [], none⟩ := Drained.ofBuffer_of_none rfl
  have := ofBuffer_append_frames h hf []
  rwa [hnil, List.append_nil, List.append_nil] at this

theorem ofBuffer_frames_of_topicFault (h : ∀ k ∈ before, o.Receivable k)
    (hf : (before ++ m :: after).map (fun m => (o.packetOf m).encode) = frames.map .ok)
    (hsize : (o.packetOf m).remainingLength ≤ VarInt.max) (hr : topicFault? m.topic = some r) :
    ∃ rest, Drained.ofBuffer VarInt.max frames.flatten =
      ⟨before.map o.packetOf, rest, some (.malformed r)⟩ := by
  rw [List.map_append] at hf
  obtain ⟨es, fs, rfl, hes, hfs⟩ := List.map_eq_append_iff.1 hf.symm
  obtain ⟨e, fs, rfl, he, -⟩ := List.map_eq_cons_iff.1 hfs
  have hd := decode_of_topicFault hsize he.symm hr fs.flatten
  refine ⟨e ++ fs.flatten, ?_⟩
  rw [List.flatten_append, List.flatten_cons, ofBuffer_append_frames h hes.symm,
    Drained.ofBuffer_of_error hd, List.append_nil]

/-! ### What a message adds to the writers -/

variable {o' : Outbound} {n : Nat} {v : Writer}

/-- The messages among `ms` whose connection has writer `n`. -/
def addressed (o : Outbound) (n : Nat) (ms : List OutboundMessage) : List OutboundMessage :=
  ms.filter fun m => o.route? m.connection = some n

/-- A message needs texts that are not empty, an open writer and a packet that can be written. -/
theorem exists_publish_eq_ok : (∃ o', o.publish m = .ok o') ↔ m.topic ≠ "" ∧ m.content ≠ "" ∧
    ∃ n v e, o.route? m.connection = some n ∧ o.writer? n = some v ∧ v.isOpen ∧
      (o.packetOf m).encode = .ok e := by
  constructor
  · rintro ⟨o', hp⟩
    obtain ⟨n, hn, hs⟩ := publish_eq_ok hp
    obtain ⟨v, e, hv, hopen, he, -⟩ := send_eq_ok.1 hs
    unfold publish at hp
    by_cases ht : m.topic = ""
    · rw [if_pos ht] at hp
      cases hp
    · by_cases hc : m.content = ""
      · rw [if_neg ht, if_pos hc] at hp
        cases hp
      · exact ⟨ht, hc, n, v, e, hn, hv, hopen, he⟩
  · rintro ⟨ht, hc, n, v, e, hn, hv, hopen, he⟩
    obtain ⟨o', hs⟩ : ∃ o', o.send n (o.packetOf m) = .ok o' :=
      ⟨_, send_eq_ok.2 ⟨v, e, hv, hopen, he, rfl⟩⟩
    refine ⟨o', ?_⟩
    rw [publish, if_neg ht, if_neg hc, hn]
    dsimp only
    rw [hs]

theorem appended_publish (hp : o.publish m = .ok o') (hv : o.writer? n = some v) :
    ∃ frames : List Bytes,
      (o.addressed n [m]).map (fun m => (o.packetOf m).encode) = frames.map .ok ∧
      o'.writer? n = some { v with packets := frames.reverse ++ v.packets } ∧
      o'.routes = o.routes ∧ o'.charset = o.charset := by
  obtain ⟨k, hk, hs⟩ := publish_eq_ok hp
  obtain ⟨u, e, hu, -, he, rfl⟩ := send_eq_ok.1 hs
  by_cases hkn : k = n
  · subst hkn
    obtain rfl : u = v := Option.some.inj (hu.symm.trans hv)
    have hlt : k < o.writers.length := (List.getElem?_eq_some_iff.1 hv).1
    refine ⟨[e], ?_, ?_, rfl, rfl⟩
    · simp [addressed, hk, he]
    · simp [writer?, hlt]
  · refine ⟨[], ?_, ?_, rfl, rfl⟩
    · simp [addressed, hk, hkn]
    · show (o.writers.set k _)[n]? = _
      rw [List.getElem?_set_ne hkn]
      exact hv

end Outbound

/-! ### Runs of messages -/

namespace Surroundings

variable {w : Surroundings Outbound} {ms : List (ConnectionId × OutboundMessage)}
  {m : OutboundMessage} {n : Nat} {v : Writer}

/-- Messages one after the other, each through the publisher of a connection. Returns those that were
taken in. -/
def publishAll : List (ConnectionId × OutboundMessage) → Surroundings Outbound →
    List OutboundMessage × Surroundings Outbound
  | [], w => ([], w)
  | (via, m) :: ms, w =>
    let (sent, w) := Transport.table via m w
    let (taken, w) := publishAll ms w
    match sent with
    | .ok () => (m :: taken, w)
    | .error _ => (taken, w)

theorem publishAll_of_ok {o : Outbound} (via : ConnectionId) (h : w.outbound.publish m = .ok o) :
    publishAll ((via, m) :: ms) w =
      (m :: (publishAll ms (w.publish m).2).1, (publishAll ms (w.publish m).2).2) := by
  simp only [publishAll, Transport.table, (publish_of_ok h).1]

theorem publishAll_of_error {e : PublishError} (via : ConnectionId)
    (h : w.outbound.publish m = .error e) :
    publishAll ((via, m) :: ms) w = publishAll ms (w.publish m).2 := by
  simp only [publishAll, Transport.table, (publish_of_error h).1]

theorem appended_publishAll (ms : List (ConnectionId × OutboundMessage))
    (hv : w.outbound.writer? n = some v) :
    ∃ frames : List Bytes,
      (w.outbound.addressed n (publishAll ms w).1).map (fun m => (w.outbound.packetOf m).encode) =
        frames.map .ok ∧
      (publishAll ms w).2.outbound.writer? n =
        some { v with packets := frames.reverse ++ v.packets } := by
  induction ms generalizing w v with
  | nil => exact ⟨[], rfl, hv⟩
  | cons x ms ih =>
    obtain ⟨via, m⟩ := x
    cases hp : w.outbound.publish m with
    | error e =>
      have hout := (publish_of_error hp).2
      rw [publishAll_of_error via hp]
      have := ih (hout.symm ▸ hv)
      rwa [hout] at this
    | ok o =>
      have hout := (publish_of_ok hp).2
      obtain ⟨es, hes, hv', hroutes, hcharset⟩ := Outbound.appended_publish hp hv
      obtain ⟨fs, hfs, hlast⟩ := ih (hout.symm ▸ hv')
      rw [publishAll_of_ok via hp]
      refine ⟨es ++ fs, ?_, ?_⟩
      · -- the table and the charset are those of the start
        simp only [hout, Outbound.addressed, Outbound.route?, Outbound.packetOf, hroutes,
          hcharset] at hfs
        rw [← List.singleton_append, Outbound.addressed, List.filter_append, List.map_append,
          List.map_append]
        exact congrArg₂ (· ++ ·) hes hfs
      · rw [hlast, List.reverse_append, List.append_assoc]

theorem ne_empty_of_mem_publishAll (h : m ∈ (publishAll ms w).1) :
    m.topic ≠ "" ∧ m.content ≠ "" := by
  induction ms generalizing w with
  | nil => cases h
  | cons x ms ih =>
    obtain ⟨via, m'⟩ := x
    cases hp : w.outbound.publish m' with
    | error e =>
      rw [publishAll_of_error via hp] at h
      exact ih h
    | ok o =>
      rw [publishAll_of_ok via hp] at h
      rcases List.mem_cons.1 h with rfl | h
      · obtain ⟨ht, hc, -⟩ := Outbound.exists_publish_eq_ok.1 ⟨o, hp⟩
        exact ⟨ht, hc⟩
      · exact ih h

/-- Messages one after the other through any publishers, and what a writer is given on the way: the
frames of the messages that were taken in and whose connection it belongs to, whole and in order, each
with a payload. A decoder takes exactly these messages off the frames if and only if all of them are
receivable. It stops at the first whose topic is at fault, and names the fault. -/
theorem received_publishAll (ms : List (ConnectionId × OutboundMessage))
    (hv : w.outbound.writer? n = some v) :
    let o := w.outbound
    let taken := o.addressed n (publishAll ms w).1
    ∃ frames : List Bytes,
      taken.map (fun m => (o.packetOf m).encode) = frames.map .ok ∧
      (publishAll ms w).2.outbound.writer? n =
        some { v with packets := frames.reverse ++ v.packets } ∧
      (∀ m ∈ taken, m.topic ≠ "" ∧ o.charset.encode m.content ≠ []) ∧
      (Drained.ofBuffer VarInt.max frames.flatten = ⟨taken.map o.packetOf, [], none⟩ ↔
        ∀ m ∈ taken, o.Receivable m) ∧
      ∀ before m after r, taken = before ++ m :: after → (∀ k ∈ before, o.Receivable k) →
        (o.packetOf m).remainingLength ≤ VarInt.max → topicFault? m.topic = some r →
        ∃ rest, Drained.ofBuffer VarInt.max frames.flatten =
          ⟨before.map o.packetOf, rest, some (.malformed r)⟩ := by
  intro o taken
  obtain ⟨frames, hframes, hlast⟩ := appended_publishAll ms hv
  refine ⟨frames, hframes, hlast, fun m hm => ?_, ⟨fun h m hm => ?_, fun h => ?_⟩, ?_⟩
  · obtain ⟨ht, hc⟩ := ne_empty_of_mem_publishAll (List.mem_filter.1 hm).1
    exact ⟨ht, Charset.encode_ne_nil hc⟩
  · -- a packet that was read has been decoded at some place of the buffer
    have hmem : o.packetOf m ∈ (Drained.ofBuffer VarInt.max frames.flatten).packets := by
      rw [h]
      exact List.mem_map_of_mem hm
    obtain ⟨buf, k, hd⟩ := Drained.exists_decode_of_mem hmem
    exact Outbound.receivable_of_decode hd
  · exact Outbound.ofBuffer_frames h hframes
  · intro before m after r hsplit hbefore hsize hr
    have hmap : (before ++ m :: after).map (fun m => (o.packetOf m).encode) = frames.map .ok :=
      hsplit ▸ hframes
    exact Outbound.ofBuffer_frames_of_topicFault hbefore hmap hsize hr

/-- A table with one connection and its open writer. -/
def lone (c : ConnectionId) : Surroundings Outbound :=
  { outbound := (Outbound.addWriter { charset := .utf8 }).2.insert c 0 }

/-- Of two messages, the second with a wildcard in its topic, the device gets the first. -/
theorem received_publishAll_wildcard :
    let w := lone ⟨1⟩
    let ms : List (ConnectionId × OutboundMessage) :=
      [(⟨1⟩, ⟨⟨1⟩, "a/b", "x"⟩), (⟨2⟩, ⟨⟨1⟩, "a/+", "y"⟩)]
    w.outbound.writer? 0 = some {} ∧ ∃ (frames : List Bytes) (rest : Bytes),
      (publishAll ms w).2.outbound.writer? 0 = some { packets := frames.reverse } ∧
      Drained.ofBuffer VarInt.max frames.flatten =
        ⟨[.publish { topic := "a/b", payload := [0x78] }], rest,
          some (.malformed .topicWildcard)⟩ := by
  intro w ms
  have hw : w.outbound.writer? 0 = some {} := rfl
  obtain ⟨frames, -, hlast, -, -, hfault⟩ := received_publishAll ms hw
  have htaken : w.outbound.addressed 0 (publishAll ms w).1 =
      [⟨⟨1⟩, "a/b", "x"⟩] ++ ⟨⟨1⟩, "a/+", "y"⟩ :: [] := by decide +kernel
  have hfirst : ∀ k ∈ [(⟨⟨1⟩, "a/b", "x"⟩ : OutboundMessage)], w.outbound.Receivable k := by
    intro k hk
    obtain rfl := List.mem_singleton.1 hk
    exact ⟨by decide, by decide⟩
  obtain ⟨rest, hrest⟩ := hfault _ _ _ .topicWildcard htaken hfirst (by decide) (by decide)
  rw [List.append_nil] at hlast
  exact ⟨hw, frames, rest, hlast, hrest⟩

/-- A message with a wildcard in its topic is taken in, and what is written for it is no packet. -/
theorem wildcard_taken_in :
    let w := lone ⟨1⟩
    let m : OutboundMessage := ⟨⟨1⟩, "a/+", "x"⟩
    let r := Transport.table ⟨1⟩ m w
    w.outbound.route? m.connection = some 0 ∧ r.1 = .ok () ∧
      (r.2.outbound.writer? 0).map Writer.buffer =
        some [0x30, 0x06, 0x00, 0x03, 0x61, 0x2F, 0x2B, 0x78] ∧
      Packet.decode VarInt.max [0x30, 0x06, 0x00, 0x03, 0x61, 0x2F, 0x2B, 0x78] =
        .error (.malformed .topicWildcard) := by
  intro w m r
  have hsize : (w.outbound.packetOf m).remainingLength ≤ VarInt.max := by decide
  have he : (w.outbound.packetOf m).encode =
      .ok [0x30, 0x06, 0x00, 0x03, 0x61, 0x2F, 0x2B, 0x78] := by decide +kernel
  have hfault : topicFault? m.topic = some .topicWildcard := by decide
  exact ⟨by decide, by decide +kernel, by decide +kernel,
    Outbound.decode_of_topicFault hsize he hfault []⟩

end Surroundings

end DeviceGateway
