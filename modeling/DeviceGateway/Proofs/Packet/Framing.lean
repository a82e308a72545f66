import DeviceGateway.Proofs.Packet.Frame

/-!
# Framing

What a decoder answers is decided by the header of the buffer and by how many octets are behind it.
The header is not all there (`Packet.Pending`), or its length has too many octets (`Packet.Overlong`),
or it declares a length (`Packet.Declares`), and there is one answer for each (`decode_of_pending`,
`decode_of_overlong`, `decode_of_declared`). Octets that come later change a pending header only, so
every answer but waiting is final: `framing_final` has all of this together.

Only the header speaks of sizes. A reader of a body may find it wrong in many ways, but never too
large (`SizeBlind`).
-/

namespace DeviceGateway

/-- A reader's answer that is no judgement on the size of the packet. -/
def SizeBlind {α : Type} (x : Except DecodeError α) : Prop := x ≠ .error .packetTooLarge

namespace SizeBlind

variable {α β : Type} {x : Except DecodeError α} {e : DecodeError}

theorem ok (a : α) : SizeBlind (.ok a) := nofun

theorem error (he : e ≠ .packetTooLarge) : SizeBlind (.error e : Except DecodeError α) :=
  fun h => he (Except.error.inj h)

theorem bind {f : α → Except DecodeError β} (hx : SizeBlind x) (hf : ∀ a, SizeBlind (f a)) :
    SizeBlind (x >>= f) := by
  cases x with
  | error e => exact error fun h => hx (h ▸ rfl)
  | ok a => exact hf a

theorem guard {P : Prop} [Decidable P] {f : β → Except DecodeError α} (he : e ≠ .packetTooLarge)
    (hx : SizeBlind x) : SizeBlind (if P then throw e >>= f else x) := by
  split
  · exact error he
  · exact hx

end SizeBlind

/-! ### Fields -/

namespace Field

theorem sizeBlind_readU16 (b : Bytes) : SizeBlind (readU16 b) := by
  unfold readU16
  split
  · exact .ok _
  · exact .error nofun

theorem sizeBlind_readOctet (b : Bytes) : SizeBlind (readOctet b) := by
  unfold readOctet
  split
  · exact .ok _
  · exact .error nofun

theorem sizeBlind_readBinary (b : Bytes) : SizeBlind (readBinary b) := by
  unfold readBinary
  split
  · rename_i e he
    exact .error fun h => sizeBlind_readU16 b (h ▸ he)
  · split
    · exact .ok _
    · exact .error nofun

theorem sizeBlind_readText (b : Bytes) : SizeBlind (readText b) := by
  unfold readText
  split
  · rename_i e he
    exact .error fun h => sizeBlind_readBinary b (h ▸ he)
  · split
    · exact .error nofun
    · split
      · exact .error nofun
      · exact .ok _

end Field

/-! ### Bodies -/

namespace Packet

theorem sizeBlind_readConnectFlags (f : UInt8) : SizeBlind (readConnectFlags f) := by
  unfold readConnectFlags
  refine .guard nofun (.guard nofun ?_)
  dsimp only
  split
  · exact .guard nofun (.ok _)
  · exact .error nofun

theorem sizeBlind_readWhen {α : Type} {read : Bytes → Except DecodeError (α × Bytes)} (flag : Bool)
    (hread : ∀ b, SizeBlind (read b)) (b : Bytes) : SizeBlind (readWhen flag read b) := by
  unfold readWhen
  split
  · split
    · exact .ok _
    · rename_i e he
      exact .error fun h => hread b (h ▸ he)
  · exact .ok _

theorem sizeBlind_readWill (qos : QoS) (retain : Bool) (b : Bytes) :
    SizeBlind (readWill qos retain b) :=
  .bind (Field.sizeBlind_readText b) fun _ => .bind (Field.sizeBlind_readBinary _) fun _ => .ok _

theorem sizeBlind_decodeConnect (b : Bytes) : SizeBlind (decodeConnect b) := by
  refine .bind (Field.sizeBlind_readText b) fun _ => .bind (Field.sizeBlind_readOctet _) fun _ => ?_
  dsimp only
  split
  · refine .guard nofun (.bind (Field.sizeBlind_readOctet _) fun _ =>
      .bind (sizeBlind_readConnectFlags _) fun _ => .bind (Field.sizeBlind_readU16 _) fun _ =>
      .bind (Field.sizeBlind_readText _) fun _ =>
      .bind (sizeBlind_readWhen _ (sizeBlind_readWill _ _) _) fun _ =>
      .bind (sizeBlind_readWhen _ Field.sizeBlind_readText _) fun _ =>
      .bind (sizeBlind_readWhen _ Field.sizeBlind_readBinary _) fun _ => .guard nofun (.ok _))
  · exact .error nofun

theorem sizeBlind_decodeConnAck (b : Bytes) : SizeBlind (decodeConnAck b) := by
  unfold decodeConnAck
  split
  · split
    · exact .error nofun
    · split
      · exact .ok _
      · exact .error nofun
  · exact .error nofun

theorem sizeBlind_readPacketId (b : Bytes) : SizeBlind (readPacketId b) :=
  .bind (Field.sizeBlind_readU16 b) fun _ => .guard nofun (.ok _)

theorem sizeBlind_decodePublish (flags : UInt8) (b : Bytes) : SizeBlind (decodePublish flags b) := by
  unfold decodePublish
  dsimp only
  split
  · exact .guard nofun (.bind (Field.sizeBlind_readText b) fun _ => .guard nofun
      (.bind (sizeBlind_readWhen _ sizeBlind_readPacketId _) fun _ => .ok _))
  · exact .error nofun

theorem sizeBlind_readFilter (b : Bytes) : SizeBlind (readFilter b) := by
  unfold readFilter
  split
  · rename_i e he
    exact .error fun h => Field.sizeBlind_readText b (h ▸ he)
  · split
    · exact .error nofun
    · exact .ok _

theorem sizeBlind_readRequestedQoS (b : Bytes) : SizeBlind (readRequestedQoS b) := by
  unfold readRequestedQoS
  split
  · exact .error (by simp)
  · split
    · exact .error (by simp)
    · split
      · exact .ok _
      · exact .error (by simp)

theorem sizeBlind_readSubscriptions (b : Bytes) : SizeBlind (readSubscriptions b) := by
  fun_induction readSubscriptions b with
  | case1 => exact .ok _
  | case2 b _ e he => exact .error fun h => sizeBlind_readFilter b (h ▸ he)
  | case3 b _ f b₁ _ e he => exact .error fun h => sizeBlind_readRequestedQoS b₁ (h ▸ he)
  | case4 b _ f b₁ _ q b₂ _ e he ih => exact .error fun h => ih (h ▸ he)
  | case5 => exact .ok _

theorem sizeBlind_readFilters (b : Bytes) : SizeBlind (readFilters b) := by
  fun_induction readFilters b with
  | case1 => exact .ok _
  | case2 b _ e he => exact .error fun h => sizeBlind_readFilter b (h ▸ he)
  | case3 b _ f b₁ _ e he ih => exact .error fun h => ih (h ▸ he)
  | case4 => exact .ok _

theorem sizeBlind_decodeSubscribe (b : Bytes) : SizeBlind (decodeSubscribe b) :=
  .bind (sizeBlind_readPacketId b) fun _ => .bind (sizeBlind_readSubscriptions _) fun _ =>
    .guard nofun (.ok _)

theorem sizeBlind_decodeUnsubscribe (b : Bytes) : SizeBlind (decodeUnsubscribe b) :=
  .bind (sizeBlind_readPacketId b) fun _ => .bind (sizeBlind_readFilters _) fun _ =>
    .guard nofun (.ok _)

theorem sizeBlind_decodeSubAck (b : Bytes) : SizeBlind (decodeSubAck b) := by
  refine .bind (Field.sizeBlind_readU16 b) fun _ => ?_
  dsimp only
  split
  · exact .ok _
  · exact .error nofun

theorem sizeBlind_decodePacketId (packet : UInt16 → Packet) (b : Bytes) :
    SizeBlind (decodePacketId packet b) := by
  unfold decodePacketId
  split
  · exact .ok _
  · exact .error nofun

theorem sizeBlind_decodeEmpty (packet : Packet) (b : Bytes) : SizeBlind (decodeEmpty packet b) := by
  unfold decodeEmpty
  split
  · exact .ok _
  · exact .error nofun

theorem sizeBlind_withFlags {expected flags : UInt8} {body : Except DecodeError Packet}
    (hbody : SizeBlind body) : SizeBlind (withFlags expected flags body) := by
  unfold withFlags
  split
  · exact hbody
  · exact .error nofun

theorem sizeBlind_decodeType (type : PacketType) (flags : UInt8) (b : Bytes) :
    SizeBlind (decodeType type flags b) := by
  cases type with
  | publish => exact sizeBlind_decodePublish flags b
  | connect => exact sizeBlind_withFlags (sizeBlind_decodeConnect b)
  | connAck => exact sizeBlind_withFlags (sizeBlind_decodeConnAck b)
  | subscribe => exact sizeBlind_withFlags (sizeBlind_decodeSubscribe b)
  | subAck => exact sizeBlind_withFlags (sizeBlind_decodeSubAck b)
  | unsubscribe => exact sizeBlind_withFlags (sizeBlind_decodeUnsubscribe b)
  | pubAck | pubRec | pubRel | pubComp | unsubAck =>
    exact sizeBlind_withFlags (sizeBlind_decodePacketId _ b)
  | pingReq | pingResp | disconnect => exact sizeBlind_withFlags (sizeBlind_decodeEmpty _ b)

theorem sizeBlind_decodeBody (first : UInt8) (b : Bytes) : SizeBlind (decodeBody first b) := by
  unfold decodeBody
  split
  · exact .error nofun
  · split
    · exact .error nofun
    · exact sizeBlind_decodeType _ _ b

/-- A complete body that runs short is malformed. -/
theorem decodeBody_ne_insufficientData (first : UInt8) (b : Bytes) :
    decodeBody first b ≠ .error .insufficientData := by
  unfold decodeBody
  split
  · exact nofun
  · split
    · exact nofun
    · assumption

/-! ### Headers -/

variable {limit r k n : Nat} {buf : Bytes} {first : UInt8} {length rest : Bytes}

/-- Every octet behind the first announces another, and there may be more of them. -/
def Pending (buf : Bytes) : Prop := buf.length < 5 ∧ ∀ o ∈ buf.drop 1, 128 ≤ o

/-- Four octets behind the first announce another, which is one too many. -/
def Overlong (buf : Bytes) : Prop := 5 ≤ buf.length ∧ ∀ o ∈ (buf.drop 1).take 4, 128 ≤ o

/-- The `k` octets behind the first, at most four, spell the remaining length `r`. -/
def Declares (buf : Bytes) (r k : Nat) : Prop :=
  ∃ first length rest, buf = first :: (length ++ rest) ∧ VarInt.Form r length ∧
    length.length = k ∧ k ≤ 4

theorem header_cases (buf : Bytes) : Pending buf ∨ Overlong buf ∨ ∃ r k, Declares buf r k := by
  cases buf with
  | nil => exact .inl ⟨by decide, nofun⟩
  | cons first b =>
    cases h : VarInt.read b with
    | ok v =>
      obtain ⟨length, rest, rfl, hk, hle, hform⟩ := VarInt.read_eq_ok.1 h
      exact .inr (.inr ⟨v.1, v.2, first, length, rest, rfl, hform, hk, hle⟩)
    | error e =>
      rcases VarInt.eq_of_readGroups_eq_error h with rfl | rfl
      · obtain ⟨hlt, hb⟩ := VarInt.readGroups_eq_insufficientData.1 h
        exact .inl ⟨Nat.succ_lt_succ hlt, hb⟩
      · obtain ⟨hle, hb⟩ := VarInt.readGroups_eq_invalidRemainingLength.1 h
        exact .inr (.inl ⟨Nat.succ_le_succ hle, hb⟩)

theorem Overlong.append (h : Overlong buf) (x : Bytes) : Overlong (buf ++ x) := by
  cases buf with
  | nil => exact absurd h.1 (by decide)
  | cons first b =>
    have hle : 4 ≤ b.length := Nat.le_of_succ_le_succ h.1
    refine ⟨?_, ?_⟩
    · have := h.1
      rw [List.length_append]
      omega
    · rw [List.cons_append, List.drop_succ_cons, List.drop_zero, List.take_append_of_le_length hle]
      exact h.2

/-! ### The answer to each header -/

theorem decode_of_pending (h : Pending buf) : decode limit buf = .ok none := by
  rcases buf with _ | ⟨first, _ | ⟨o, b⟩⟩
  · rfl
  · rfl
  · have hread : VarInt.read (o :: b) = .error .insufficientData :=
      VarInt.readGroups_eq_insufficientData.2 ⟨Nat.lt_of_succ_lt_succ h.1, h.2⟩
    simp only [decode, hread]

theorem decode_of_overlong (h : Overlong buf) :
    decode limit buf = .error .invalidRemainingLength := by
  rcases buf with _ | ⟨first, _ | ⟨o, b⟩⟩
  · exact absurd h.1 (by decide)
  · exact absurd h.1 (by simp)
  · have hread : VarInt.read (o :: b) = .error .invalidRemainingLength :=
      VarInt.readGroups_eq_invalidRemainingLength.2 ⟨Nat.le_of_succ_le_succ h.1, h.2⟩
    simp only [decode, hread]

theorem decode_of_declared (hform : VarInt.Form r length) (hk : length.length ≤ 4) :
    decode limit (first :: (length ++ rest)) =
      if limit < r then .error .packetTooLarge
      else if rest.length < r then .ok none
      else (decodeBody first (rest.take r)).map fun p => some (p, 1 + length.length + r) := by
  have hread : VarInt.read (length ++ rest) = .ok (r, length.length) :=
    VarInt.read_eq_ok.2 ⟨length, rest, rfl, rfl, hk, hform⟩
  obtain ⟨o, b, hb⟩ := List.exists_cons_of_length_pos hform.length_pos
  have hcons : length ++ rest = o :: (b ++ rest) := by rw [hb, List.cons_append]
  rw [hcons] at hread ⊢
  simp only [decode, hread]
  split
  · rfl
  · rw [← hcons, List.drop_left]
    split
    · rename_i hcut
      rw [if_pos (Bytes.cut?_eq_none.1 hcut)]
    · rename_i body behind hcut
      obtain ⟨rfl, rfl⟩ := Bytes.cut?_eq_some.1 hcut
      rw [if_neg (by simp), List.take_left]
      cases decodeBody first body <;> rfl

/-! ### Later octets and other limits -/

/-- Later octets take back no answer but that more are needed. -/
theorem decode_append (h : decode limit buf ≠ .ok none) (x : Bytes) :
    decode limit (buf ++ x) = decode limit buf := by
  rcases header_cases buf with hp | ho | ⟨r, k, first, length, rest, rfl, hform, rfl, hk⟩
  · exact absurd (decode_of_pending hp) h
  · rw [decode_of_overlong ho, decode_of_overlong (ho.append x)]
  · rw [decode_of_declared hform hk] at h
    rw [List.cons_append, List.append_assoc, decode_of_declared hform hk, decode_of_declared hform hk]
    split
    · rfl
    · -- the body is complete, so what is behind it plays no part
      rename_i hr
      have hle : ¬ rest.length < r := fun hlt => h (by rw [if_neg hr, if_pos hlt])
      rw [if_neg hle, if_neg (by rw [List.length_append]; omega),
        List.take_append_of_le_length (Nat.not_lt.1 hle)]

/-- A decoder with a larger limit gives the same answer, unless that was that the packet is too large. -/
theorem decode_mono {limit' : Nat} (hle : limit ≤ limit')
    (h : decode limit buf ≠ .error .packetTooLarge) : decode limit' buf = decode limit buf := by
  rcases header_cases buf with hp | ho | ⟨r, k, first, length, rest, rfl, hform, rfl, hk⟩
  · rw [decode_of_pending hp, decode_of_pending hp]
  · rw [decode_of_overlong ho, decode_of_overlong ho]
  · rw [decode_of_declared hform hk] at h
    have hr : ¬ limit < r := fun hlt => h (if_pos hlt)
    rw [decode_of_declared hform hk, decode_of_declared hform hk, if_neg hr, if_neg (by omega)]

theorem decode_eq_none_iff : decode limit buf = .ok none ↔
    Pending buf ∨ ∃ r k, Declares buf r k ∧ r ≤ limit ∧ buf.length < 1 + k + r := by
  constructor
  · intro h
    rcases header_cases buf with hp | ho | ⟨r, k, first, length, rest, rfl, hform, rfl, hk⟩
    · exact .inl hp
    · rw [decode_of_overlong ho] at h
      cases h
    · refine .inr ⟨r, _, ⟨first, length, rest, rfl, hform, rfl, hk⟩, ?_⟩
      rw [decode_of_declared hform hk] at h
      split at h
      · cases h
      · split at h
        · simp only [List.length_cons, List.length_append]
          omega
        · cases hb : decodeBody first (rest.take r) <;> rw [hb] at h <;> cases h
  · rintro (hp | ⟨r, k, ⟨first, length, rest, rfl, hform, rfl, hk⟩, hr, hlt⟩)
    · exact decode_of_pending hp
    · simp only [List.length_cons, List.length_append] at hlt
      rw [decode_of_declared hform hk, if_neg (Nat.not_lt.2 hr), if_pos (by omega)]

theorem length_lt_of_decode_eq_none (h : decode limit buf = .ok none) : buf.length < 5 + limit := by
  rcases decode_eq_none_iff.1 h with ⟨hlt, -⟩ | ⟨r, k, ⟨-, -, -, -, -, -, hk⟩, hr, hlt⟩
  · omega
  · omega

theorem decode_eq_packetTooLarge_iff : decode limit buf = .error .packetTooLarge ↔
    ∃ r k, Declares buf r k ∧ limit < r := by
  constructor
  · intro h
    rcases header_cases buf with hp | ho | ⟨r, k, first, length, rest, rfl, hform, rfl, hk⟩
    · rw [decode_of_pending hp] at h
      cases h
    · rw [decode_of_overlong ho] at h
      cases h
    · refine ⟨r, _, ⟨first, length, rest, rfl, hform, rfl, hk⟩, ?_⟩
      rw [decode_of_declared hform hk] at h
      split at h
      · assumption
      · split at h
        · cases h
        · cases hb : decodeBody first (rest.take r) with
          | ok p =>
            rw [hb] at h
            cases h
          | error e =>
            rw [hb] at h
            obtain rfl : e = _ := Except.error.inj h
            exact absurd hb (sizeBlind_decodeBody _ _)
  · rintro ⟨r, k, ⟨first, length, rest, rfl, hform, rfl, hk⟩, hr⟩
    rw [decode_of_declared hform hk, if_pos hr]

theorem decode_ne_insufficientData : decode limit buf ≠ .error .insufficientData := by
  rcases header_cases buf with hp | ho | ⟨r, k, first, length, rest, rfl, hform, rfl, hk⟩
  · rw [decode_of_pending hp]
    exact nofun
  · rw [decode_of_overlong ho]
    exact nofun
  · rw [decode_of_declared hform hk]
    split
    · exact nofun
    · split
      · exact nofun
      · cases hb : decodeBody first (rest.take r) with
        | ok p => exact nofun
        | error e =>
          intro h
          obtain rfl : e = _ := Except.error.inj h
          exact decodeBody_ne_insufficientData _ _ hb

/-- The count is that of the whole frame, as its header has it. -/
theorem count_of_decode {p : Packet} (h : decode limit buf = .ok (some (p, n))) :
    ∃ r k, Declares buf r k ∧ n = 1 + k + r ∧ 2 ≤ n ∧ n ≤ buf.length := by
  obtain ⟨f, rest, rfl, -, rfl, -⟩ := frame_of_decode h
  have hk := f.form.length_pos
  refine ⟨f.body.length, f.length.length, ⟨f.first, f.length, f.body ++ rest, f.octets_append rest,
    f.form, rfl, f.length_le⟩, f.length_octets, ?_, ?_⟩
  · rw [f.length_octets]
    omega
  · rw [List.length_append]
    exact Nat.le_add_right ..

/-- A decoder waits exactly while the header or the body behind it is not all there, and then for a
bounded count of octets. Every other answer is final and counts whole frames. What is too large is
told by the header alone, and where that is not the answer a larger limit changes nothing. -/
theorem framing_final (limit : Nat) (buf : Bytes) :
    (decode limit buf = .ok none ↔ buf.length < 2 ∨
      (2 ≤ buf.length ∧ buf.length ≤ 4 ∧ ∀ o ∈ buf.drop 1, 128 ≤ o) ∨
      ∃ r k, Declares buf r k ∧ r ≤ limit ∧ buf.length < 1 + k + r) ∧
    (decode limit buf = .ok none → buf.length < 5 + limit) ∧
    (decode limit buf ≠ .ok none → ∀ x, decode limit (buf ++ x) = decode limit buf) ∧
    (∀ p n, decode limit buf = .ok (some (p, n)) →
      ∃ r k, Declares buf r k ∧ n = 1 + k + r ∧ 2 ≤ n ∧ n ≤ buf.length) ∧
    decode limit buf ≠ .error .insufficientData ∧
    (decode limit buf = .error .packetTooLarge ↔ ∃ r k, Declares buf r k ∧ limit < r) ∧
    (∀ limit', limit ≤ limit' → decode limit buf ≠ .error .packetTooLarge →
      decode limit' buf = decode limit buf) := by
  have hpending : Pending buf ↔ buf.length < 2 ∨
      (2 ≤ buf.length ∧ buf.length ≤ 4 ∧ ∀ o ∈ buf.drop 1, 128 ≤ o) := by
    constructor
    · rintro ⟨hlt, hb⟩
      by_cases h2 : buf.length < 2
      · exact .inl h2
      · exact .inr ⟨by omega, by omega, hb⟩
    · rintro (h2 | ⟨-, h4, hb⟩)
      · refine ⟨by omega, fun o ho => ?_⟩
        rw [List.drop_eq_nil_of_le (by omega)] at ho
        cases ho
      · exact ⟨by omega, hb⟩
  refine ⟨?_, length_lt_of_decode_eq_none, decode_append, fun p n => count_of_decode,
    decode_ne_insufficientData, decode_eq_packetTooLarge_iff, fun _ => decode_mono⟩
  rw [decode_eq_none_iff, hpending, or_assoc]

end Packet

end DeviceGateway
