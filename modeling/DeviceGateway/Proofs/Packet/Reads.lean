import DeviceGateway.Packet.Decode
import DeviceGateway.Packet.Layout
import DeviceGateway.Proofs.Text.Utf8

/-!
# Readers and writers of fields

A reader and a piece are two sides of one format. `Reads read pieces valid`: what `read` takes off
the front of a byte string is the written form of a value, exactly the `valid` values are read, and
the rest is what was behind. Numbers, texts and binary data have such readers here, `reads_when`
lifts one to a field that a flag announces, and the readers of lists come from those of their
entries. The written form of several pieces is that of each, one after the other
(`Piece.encodeAll_append`).
-/

namespace DeviceGateway

theorem bind_eq_ok {ε α β : Type} {x : Except ε α} {f : α → Except ε β} {r : β} :
    (x >>= f) = .ok r ↔ ∃ a, x = .ok a ∧ f a = .ok r := by
  cases x with
  | error e => exact ⟨nofun, fun ⟨_, h, _⟩ => nomatch h⟩
  | ok a => exact ⟨fun h => ⟨a, rfl, h⟩, fun ⟨_, h, hf⟩ => Except.ok.inj h ▸ hf⟩

theorem guard_eq_ok {ε α β : Type} {P : Prop} [Decidable P] {e : ε} {f : α → Except ε β}
    {x : Except ε β} {r : β} : (if P then throw e >>= f else x) = .ok r ↔ ¬ P ∧ x = .ok r := by
  split
  · exact ⟨nofun, fun h => absurd ‹P› h.1⟩
  · exact ⟨fun h => ⟨‹¬ P›, h⟩, And.right⟩

/-! ### Octets that stand for one of a few values -/

variable {x : UInt8}

theorem QoS.ofOctet?_eq_some {q : QoS} : ofOctet? x = some q ↔ q.octet = x :=
  ⟨octet_of_ofOctet?, fun h => h ▸ ofOctet?_octet q⟩

theorem ProtocolLevel.ofOctet?_eq_some {l : ProtocolLevel} : ofOctet? x = some l ↔ l.octet = x := by
  refine ⟨fun h => ?_, fun h => h ▸ ofOctet?_octet l⟩
  unfold ofOctet? at h
  repeat' split at h
  all_goals simp_all
  all_goals subst h; rfl

theorem ConnectReturnCode.ofOctet?_eq_some {c : ConnectReturnCode} :
    ofOctet? x = some c ↔ c.octet = x := by
  refine ⟨fun h => ?_, fun h => h ▸ ofOctet?_octet c⟩
  unfold ofOctet? at h
  repeat' split at h
  all_goals simp_all
  all_goals subst h; rfl

theorem SubAckReturnCode.ofOctet?_eq_some {c : SubAckReturnCode} :
    ofOctet? x = some c ↔ c.octet = x := by
  refine ⟨fun h => ?_, fun h => h ▸ ofOctet?_octet c⟩
  unfold ofOctet? at h
  split at h
  · cases h
    exact Eq.symm ‹_›
  · obtain ⟨q, hq, rfl⟩ := Option.map_eq_some_iff.1 h
    exact QoS.octet_of_ofOctet? hq

theorem PacketType.ofOctet?_eq_some {t : PacketType} : ofOctet? x = some t ↔ t.octet = x := by
  refine ⟨fun h => ?_, fun h => h ▸ ofOctet?_octet t⟩
  simpa using List.find?_some h

namespace Piece

variable {p : Piece} {l m : List Piece} {b : Bytes}

theorem encodeAll_nil : encodeAll [] = .ok b ↔ b = [] := by
  rw [encodeAll, Except.ok.injEq, eq_comm]

theorem encodeAll_cons :
    encodeAll (p :: l) = .ok b ↔ ∃ c d, p.encode = .ok c ∧ encodeAll l = .ok d ∧ b = c ++ d := by
  rw [encodeAll]
  constructor
  · intro h
    split at h
    · cases h
    · rename_i c hc
      split at h
      · cases h
      · rename_i d hd
        exact ⟨c, d, hc, hd, (Except.ok.inj h).symm⟩
  · rintro ⟨c, d, hc, hd, rfl⟩
    rw [hc, hd]

theorem encodeAll_append : encodeAll (l ++ m) = .ok b ↔
    ∃ c d, encodeAll l = .ok c ∧ encodeAll m = .ok d ∧ b = c ++ d := by
  induction l generalizing b with
  | nil => simp [encodeAll_nil]
  | cons p l ih =>
    simp only [List.cons_append, encodeAll_cons, ih]
    constructor
    · rintro ⟨c, _, hc, ⟨d, e, hd, he, rfl⟩, rfl⟩
      exact ⟨c ++ d, e, ⟨c, d, hc, hd, rfl⟩, he, (List.append_assoc ..).symm⟩
    · rintro ⟨_, e, ⟨c, d, hc, hd, rfl⟩, he, rfl⟩
      exact ⟨c, d ++ e, hc, ⟨d, e, hd, he, rfl⟩, List.append_assoc ..⟩

theorem encodeAll_singleton : encodeAll [p] = .ok b ↔ p.encode = .ok b := by
  simp [encodeAll_cons, encodeAll_nil]

theorem encode_octets {c : Bytes} : (octets c).encode = .ok b ↔ b = c := by
  rw [encode, Except.ok.injEq, eq_comm]

end Piece

/-- The reader `read` takes the written form of a `valid` value, and nothing else, off the front. -/
def Reads {α : Type} (read : Bytes → Except DecodeError (α × Bytes)) (pieces : α → List Piece)
    (valid : α → Prop) : Prop :=
  ∀ b a rest, read b = .ok (a, rest) ↔
    valid a ∧ ∃ e, Piece.encodeAll (pieces a) = .ok e ∧ b = e ++ rest

theorem Reads.read_append {α : Type} {read : Bytes → Except DecodeError (α × Bytes)}
    {pieces : α → List Piece} {valid : α → Prop} {a : α} {e : Bytes} (h : Reads read pieces valid)
    (ha : valid a) (he : Piece.encodeAll (pieces a) = .ok e) (rest : Bytes) :
    read (e ++ rest) = .ok (a, rest) :=
  (h _ a rest).2 ⟨ha, e, he, rfl⟩

/-- Two readers, one behind the other. -/
theorem Reads.seq {α β : Type} {read : Bytes → Except DecodeError (α × Bytes)}
    {read' : Bytes → Except DecodeError (β × Bytes)} {pieces : α → List Piece}
    {pieces' : β → List Piece} {valid : α → Prop} {valid' : β → Prop}
    (h : Reads read pieces valid) (h' : Reads read' pieces' valid') (b : Bytes) (a : α) (c : β)
    (rest : Bytes) : (∃ b₁, read b = .ok (a, b₁) ∧ read' b₁ = .ok (c, rest)) ↔
      valid a ∧ valid' c ∧ ∃ e, Piece.encodeAll (pieces a ++ pieces' c) = .ok e ∧ b = e ++ rest := by
  simp only [h _ _ _, h' _ _ _, Piece.encodeAll_append]
  constructor
  · rintro ⟨_, ⟨ha, e, he, rfl⟩, hc, e', he', rfl⟩
    exact ⟨ha, hc, _, ⟨e, e', he, he', rfl⟩, (List.append_assoc ..).symm⟩
  · rintro ⟨ha, hc, _, ⟨e, e', he, he', rfl⟩, rfl⟩
    exact ⟨_, ⟨ha, e, he, List.append_assoc ..⟩, hc, e', he', rfl⟩

/-! ### Numbers, texts and binary data -/

/-- Data that fits behind a length of two octets. -/
def BinaryValid (b : Bytes) : Prop := b.length ≤ 65535

/-- A text that fits behind a length of two octets and does not contain U+0000. -/
structure TextValid (s : String) : Prop where
  length_le : (Utf8.encode s).length ≤ 65535
  null_free : '\x00' ∉ s.toList

namespace Field

variable {b e : Bytes} {s : String}

theorem encodeBinary_eq_ok : encodeBinary b = .ok e ↔
    BinaryValid b ∧ e = encodeU16 (.ofNat b.length) ++ b := by
  unfold encodeBinary BinaryValid
  split
  · exact ⟨nofun, fun h => absurd h.1 (by omega)⟩
  · rw [Except.ok.injEq, eq_comm]
    exact ⟨fun h => ⟨by omega, h⟩, And.right⟩

theorem reads_octet : Reads readOctet (fun a => [.octets [a]]) fun _ => True := by
  intro b a rest
  simp only [Piece.encodeAll_singleton, Piece.encode_octets, true_and, exists_eq_left]
  cases b <;> simp [readOctet]

theorem reads_u16 : Reads readU16 (fun n => [.octets (encodeU16 n)]) fun _ => True := by
  intro b n rest
  simp only [Piece.encodeAll_singleton, Piece.encode_octets, true_and, exists_eq_left]
  exact ⟨u16_eq, fun h => h ▸ readU16_encodeU16 n rest⟩

theorem reads_binary : Reads readBinary (fun d => [.binary d]) BinaryValid := by
  intro b d rest
  simp only [Piece.encodeAll_singleton, Piece.encode, encodeBinary_eq_ok]
  constructor
  · intro h
    obtain ⟨hb, hd⟩ := binary_eq h
    exact ⟨hd, _, ⟨hd, rfl⟩, hb⟩
  · rintro ⟨hd, e, ⟨-, rfl⟩, rfl⟩
    exact readBinary_encode d rest hd

theorem null_free_of_readText {rest : Bytes} (h : readText b = .ok (s, rest)) : '\x00' ∉ s.toList := by
  unfold readText at h
  split at h
  · cases h
  · split at h
    · cases h
    · rename_i data _ _ _ hs
      split at h
      · cases h
      · rename_i hz
        obtain ⟨rfl, -⟩ := Prod.mk.inj (Except.ok.inj h)
        rwa [← Utf8.encode_of_decode? hs, List.contains_iff_mem, Utf8.zero_mem_encode] at hz

theorem reads_text : Reads readText (fun s => [.text s]) TextValid := by
  intro b s rest
  simp only [Piece.encodeAll_singleton, Piece.encode, encodeText, encodeBinary_eq_ok]
  constructor
  · intro h
    obtain ⟨hb, hl⟩ := text_eq h
    exact ⟨⟨hl, null_free_of_readText h⟩, _, ⟨hl, rfl⟩, hb⟩
  · rintro ⟨⟨hl, hz⟩, e, ⟨-, rfl⟩, rfl⟩
    rw [← Utf8.zero_mem_encode, ← List.contains_iff_mem] at hz
    simp only [readText, readBinary_encode _ rest hl, Utf8.decode?_encode, if_neg hz]

end Field

/-! ### Fields of packets -/

namespace Packet

/-- A field that its flag announces is there when the flag is set. -/
theorem reads_when {α : Type} {read : Bytes → Except DecodeError (α × Bytes)}
    {pieces : α → List Piece} {valid : α → Prop} (h : Reads read pieces valid) (flag : Bool) :
    Reads (readWhen flag read) (fun o => (o.map pieces).getD [])
      fun o => o.isSome = flag ∧ ∀ a ∈ o, valid a := by
  intro b o rest
  unfold readWhen
  cases flag with
  | false =>
    cases o with
    | none => simp [Piece.encodeAll_nil]
    | some a => simp
  | true =>
    cases o with
    | none =>
      simp only [if_true]
      split <;> simp
    | some a =>
      have := h b a rest
      simp only [if_true, Option.map_some, Option.getD_some, Option.isSome_some, true_and,
        Option.mem_def, Option.some.injEq, forall_eq', ← this]
      cases read b <;> simp [Prod.ext_iff]

theorem reads_will (qos : QoS) (retain : Bool) :
    Reads (readWill qos retain) (fun w => [.text w.topic, .binary w.payload])
      fun w => TextValid w.topic ∧ BinaryValid w.payload ∧ w.qos = qos ∧ w.retain = retain := by
  intro b w rest
  have hseq := Field.reads_text.seq Field.reads_binary b w.topic w.payload rest
  constructor
  · intro h
    obtain ⟨⟨topic, b₁⟩, h₁, h⟩ := bind_eq_ok.1 h
    obtain ⟨⟨payload, b₂⟩, h₂, h⟩ := bind_eq_ok.1 h
    obtain ⟨rfl, rfl⟩ := Prod.mk.inj (Except.ok.inj h)
    obtain ⟨ht, hp, he⟩ := hseq.1 ⟨b₁, h₁, h₂⟩
    exact ⟨⟨ht, hp, rfl, rfl⟩, he⟩
  · rintro ⟨⟨ht, hp, rfl, rfl⟩, he⟩
    obtain ⟨b₁, h₁, h₂⟩ := hseq.2 ⟨ht, hp, he⟩
    exact bind_eq_ok.2 ⟨_, h₁, bind_eq_ok.2 ⟨_, h₂, rfl⟩⟩

theorem reads_packetId : Reads readPacketId (fun id => [.octets (Field.encodeU16 id)]) (· ≠ 0) := by
  intro b id rest
  have hread := Field.reads_u16 b id rest
  rw [true_and] at hread
  rw [← hread]
  constructor
  · intro h
    obtain ⟨⟨n, b₁⟩, h₁, h⟩ := bind_eq_ok.1 h
    obtain ⟨hn, h⟩ := guard_eq_ok.1 h
    obtain ⟨rfl, rfl⟩ := Prod.mk.inj (Except.ok.inj h)
    exact ⟨hn, h₁⟩
  · rintro ⟨hn, h₁⟩
    exact bind_eq_ok.2 ⟨_, h₁, guard_eq_ok.2 ⟨hn, rfl⟩⟩

/-- A topic filter that a reader accepts. -/
structure FilterValid (f : String) : Prop extends TextValid f where
  ne_empty : f ≠ ""

theorem reads_filter : Reads readFilter (fun f => [.text f]) FilterValid := by
  intro b f rest
  have hread := Field.reads_text b f rest
  unfold readFilter
  constructor
  · intro h
    split at h
    · cases h
    · rename_i g r hg
      split at h
      · cases h
      · obtain ⟨rfl, rfl⟩ := Prod.mk.inj (Except.ok.inj h)
        obtain ⟨hv, he⟩ := hread.1 hg
        exact ⟨⟨hv, ‹_›⟩, he⟩
  · rintro ⟨hv, he⟩
    rw [hread.2 ⟨hv.toTextValid, he⟩]
    exact if_neg hv.ne_empty

theorem reads_requestedQoS :
    Reads readRequestedQoS (fun q => [.octets [q.octet]]) fun _ => True := by
  intro b q rest
  simp only [Piece.encodeAll_singleton, Piece.encode_octets, true_and, exists_eq_left]
  cases b with
  | nil => simp [readRequestedQoS]
  | cons x b =>
    simp only [readRequestedQoS, List.singleton_append, List.cons.injEq]
    constructor
    · intro h
      split at h
      · cases h
      · split at h
        · rename_i q' hq
          obtain ⟨rfl, rfl⟩ := Prod.mk.inj (Except.ok.inj h)
          exact ⟨(QoS.ofOctet?_eq_some.1 hq).symm, rfl⟩
        · cases h
    · rintro ⟨rfl, rfl⟩
      have hbits : (q.octet &&& 0xFC != 0) = false := by cases q <;> rfl
      rw [hbits, QoS.ofOctet?_octet]
      rfl

/-! ### Lists to the end of a body -/

theorem ne_nil_of_readFilter {b rest : Bytes} {f : String} (h : readFilter b = .ok (f, rest)) :
    b ≠ [] := by
  rintro rfl
  exact absurd (readFilter_length_lt h) (Nat.not_lt_zero _)

theorem readSubscriptions_eq_nil {b : Bytes} : readSubscriptions b = .ok [] ↔ b = [] := by
  rw [readSubscriptions]
  split
  · exact iff_of_true rfl ‹_›
  · refine iff_of_false (fun h => ?_) ‹_›
    split at h
    · cases h
    · split at h
      · cases h
      · split at h <;> cases h

theorem readSubscriptions_eq_cons {b : Bytes} {s : Subscription} {subs : List Subscription} :
    readSubscriptions b = .ok (s :: subs) ↔ ∃ b₂, (∃ b₁, readFilter b = .ok (s.filter, b₁) ∧
      readRequestedQoS b₁ = .ok (s.qos, b₂)) ∧ readSubscriptions b₂ = .ok subs := by
  rw [readSubscriptions]
  constructor
  · intro h
    split at h
    · cases h
    · split at h
      · cases h
      · rename_i f b₁ hf
        split at h
        · cases h
        · rename_i q b₂ hq
          split at h
          · cases h
          · obtain ⟨rfl, rfl⟩ := List.cons.inj (Except.ok.inj h)
            exact ⟨b₂, ⟨b₁, hf, hq⟩, ‹_›⟩
  · rintro ⟨b₂, ⟨b₁, hf, hq⟩, hs⟩
    rw [if_neg (ne_nil_of_readFilter hf)]
    split
    · rename_i e he
      cases hf.symm.trans he
    · rename_i f' b₁' hf'
      obtain ⟨rfl, rfl⟩ := Prod.mk.inj (Except.ok.inj (hf.symm.trans hf'))
      split
      · rename_i e he
        cases hq.symm.trans he
      · rename_i q' b₂' hq'
        obtain ⟨rfl, rfl⟩ := Prod.mk.inj (Except.ok.inj (hq.symm.trans hq'))
        rw [hs]

/-- Subscriptions read as their filters, each with the quality of service asked for it. -/
theorem readSubscriptions_eq_ok {b : Bytes} {subs : List Subscription} :
    readSubscriptions b = .ok subs ↔ (∀ s ∈ subs, FilterValid s.filter) ∧
      Piece.encodeAll (subs.flatMap fun s => [.text s.filter, .octets [s.qos.octet]]) = .ok b := by
  induction subs generalizing b with
  | nil => simp [readSubscriptions_eq_nil, Piece.encodeAll_nil]
  | cons s subs ih =>
    rw [readSubscriptions_eq_cons, List.forall_mem_cons, List.flatMap_cons, Piece.encodeAll_append]
    simp only [reads_filter.seq reads_requestedQoS b s.filter s.qos, ih]
    constructor
    · rintro ⟨b₂, ⟨hf, -, e, he, rfl⟩, hs, hb⟩
      exact ⟨⟨hf, hs⟩, e, b₂, he, hb, rfl⟩
    · rintro ⟨⟨hf, hs⟩, e, b₂, he, hb, rfl⟩
      exact ⟨b₂, ⟨hf, trivial, e, he, rfl⟩, hs, hb⟩

theorem readFilters_eq_nil {b : Bytes} : readFilters b = .ok [] ↔ b = [] := by
  rw [readFilters]
  split
  · exact iff_of_true rfl ‹_›
  · refine iff_of_false (fun h => ?_) ‹_›
    split at h
    · cases h
    · split at h <;> cases h

theorem readFilters_eq_cons {b : Bytes} {f : String} {filters : List String} :
    readFilters b = .ok (f :: filters) ↔
      ∃ b₁, readFilter b = .ok (f, b₁) ∧ readFilters b₁ = .ok filters := by
  rw [readFilters]
  constructor
  · intro h
    split at h
    · cases h
    · split at h
      · cases h
      · rename_i g b₁ hg
        split at h
        · cases h
        · obtain ⟨rfl, rfl⟩ := List.cons.inj (Except.ok.inj h)
          exact ⟨b₁, hg, ‹_›⟩
  · rintro ⟨b₁, hf, hs⟩
    rw [if_neg (ne_nil_of_readFilter hf)]
    split
    · rename_i e he
      cases hf.symm.trans he
    · rename_i g b₁' hg
      obtain ⟨rfl, rfl⟩ := Prod.mk.inj (Except.ok.inj (hf.symm.trans hg))
      rw [hs]

theorem readFilters_eq_ok {b : Bytes} {filters : List String} :
    readFilters b = .ok filters ↔
      (∀ f ∈ filters, FilterValid f) ∧ Piece.encodeAll (filters.map .text) = .ok b := by
  induction filters generalizing b with
  | nil => simp [readFilters_eq_nil, Piece.encodeAll_nil]
  | cons f filters ih =>
    rw [readFilters_eq_cons, List.forall_mem_cons, List.map_cons, ← List.singleton_append,
      Piece.encodeAll_append]
    simp only [reads_filter _ f, ih]
    constructor
    · rintro ⟨b₁, ⟨hf, e, he, rfl⟩, hs, hb⟩
      exact ⟨⟨hf, hs⟩, e, b₁, he, hb, rfl⟩
    · rintro ⟨⟨hf, hs⟩, e, b₁, he, hb, rfl⟩
      exact ⟨b₁, ⟨hf, e, he, rfl⟩, hs, hb⟩

/-- Return codes read as their octets. -/
theorem mapM_ofOctet?_eq_some {b : Bytes} {codes : List SubAckReturnCode} :
    b.mapM SubAckReturnCode.ofOctet? = some codes ↔ b = codes.map (·.octet) := by
  induction b generalizing codes with
  | nil => cases codes <;> simp
  | cons x b ih =>
    simp only [List.mapM_cons, Option.pure_def, Option.bind_eq_bind, Option.bind_eq_some_iff,
      Option.some.injEq, SubAckReturnCode.ofOctet?_eq_some, ih]
    constructor
    · rintro ⟨c, rfl, cs, rfl, rfl⟩
      rfl
    · intro h
      cases codes with
      | nil => cases h
      | cons c cs =>
        obtain ⟨rfl, rfl⟩ := List.cons.inj h
        exact ⟨c, rfl, cs, rfl, rfl⟩

end Packet

end DeviceGateway
