import DeviceGateway.Charset
import DeviceGateway.Proofs.Text.Lossy

/-!
# Payloads through a charset

A payload is read to a text and written again when it is sent back. It comes out as it was exactly if
the charset can tell its octets apart (`Charset.Faithful`, `Charset.encode_decode_iff`); in any case it
is not empty unless it was, and its length grows by a factor of three at most.

The other way round a text is written and read again. UTF-8 writes every text, each of the other two
writes `?` for a character that it does not have. `Charset.round_trips` has the laws of both ways.
-/

namespace DeviceGateway.Charset

variable {c : Charset} {b : Bytes} {s : String}

/-- Every octet of `b`, or every sequence of them, is a character of the charset. -/
def Faithful : Charset → Bytes → Prop
  | utf8, b => (Utf8.decode? b).isSome
  | latin1, _ => True
  | ascii, b => ∀ o ∈ b, o < 128

theorem toNat_ofNat_octet (o : UInt8) : (Char.ofNat o.toNat).toNat = o.toNat := by
  have ho := o.toNat_lt
  have hvalid : o.toNat.isValidChar := .inl (by omega)
  rw [Char.ofNat, dif_pos hvalid]
  rfl

theorem encode_ne_nil (hs : s ≠ "") : c.encode s ≠ [] := by
  have hl : s.toList ≠ [] := fun h => hs (String.toList_eq_nil_iff.1 h)
  cases c with
  | utf8 =>
    intro h
    obtain ⟨a, ha⟩ := List.exists_mem_of_ne_nil _ hl
    rw [Charset.encode, Utf8.encode_eq_flatMap, List.flatMap_eq_nil_iff] at h
    exact String.utf8EncodeChar_ne_nil (h a ha)
  | latin1 | ascii => exact fun h => hl (List.map_eq_nil_iff.1 h)

theorem decode_ne_empty (hb : b ≠ []) : c.decode b ≠ "" := by
  cases c with
  | utf8 => exact Utf8.decodeLossy_ne_empty hb
  | latin1 | ascii => exact fun h => hb (List.map_eq_nil_iff.1 (String.ofList_eq_empty_iff.1 h))

@[simp] theorem decode_nil (c : Charset) : c.decode [] = "" := by
  cases c with
  | utf8 => exact Utf8.decodeLossy_nil
  | latin1 | ascii => rfl

theorem encode_decode_latin1 (b : Bytes) : latin1.encode (latin1.decode b) = b := by
  rw [encode, decode, String.toList_ofList, List.map_map]
  refine List.map_id'' (fun o => ?_) b
  have ho := o.toNat_lt
  simp only [Function.comp, toNat_ofNat_octet, if_pos ho, UInt8.ofNat_toNat]

theorem encode_decode_ascii (b : Bytes) :
    ascii.encode (ascii.decode b) = b.map fun o => if o < 128 then o else '?'.toUInt8 := by
  rw [encode, decode, String.toList_ofList, List.map_map]
  refine List.map_congr_left fun o _ => ?_
  simp only [Function.comp]
  split
  · rename_i ho
    have hlt : o.toNat < 128 := UInt8.lt_iff_toNat_lt.1 ho
    rw [toNat_ofNat_octet, if_pos hlt, UInt8.ofNat_toNat]
  · rfl

/-- A payload comes out as it was exactly if it is made of characters of the charset. -/
theorem encode_decode_iff : c.encode (c.decode b) = b ↔ c.Faithful b := by
  cases c with
  | utf8 => exact Utf8.encode_decodeLossy_iff
  | latin1 => exact iff_of_true (encode_decode_latin1 b) trivial
  | ascii =>
    have hmap := List.map_inj_left (f := fun o : UInt8 => if o < 128 then o else '?'.toUInt8) (g := id)
      (l := b)
    rw [List.map_id] at hmap
    rw [encode_decode_ascii, hmap]
    refine forall₂_congr fun o _ => ?_
    constructor
    · intro ho
      by_cases hlt : o < 128
      · exact hlt
      · rw [if_neg hlt] at ho
        obtain rfl : '?'.toUInt8 = o := ho
        exact absurd (by decide) hlt
    · exact fun hlt => if_pos hlt

theorem length_encode_decode_le (c : Charset) (b : Bytes) :
    (c.encode (c.decode b)).length ≤ 3 * b.length := by
  cases c with
  | utf8 => exact Utf8.length_encode_decodeLossy_le b
  | latin1 | ascii =>
    rw [encode, decode, String.toList_ofList, List.length_map, List.length_map]
    omega

/-! ### Texts -/

theorem ofNat_octet_toNat {ch : Char} (h : ch.toNat < 256) :
    Char.ofNat (UInt8.ofNat ch.toNat).toNat = ch := by
  rw [UInt8.toNat_ofNat_of_lt' h, Char.ofNat_toNat]

theorem decode_encode_latin1 (s : String) : latin1.decode (latin1.encode s) =
    String.ofList (s.toList.map fun ch => if ch.toNat ≤ 0xFF then ch else '?') := by
  rw [decode, encode, List.map_map]
  refine congrArg String.ofList (List.map_congr_left fun ch _ => ?_)
  by_cases hle : ch.toNat ≤ 0xFF
  · simp only [Function.comp, if_pos hle, if_pos (Nat.lt_succ_of_le hle),
      ofNat_octet_toNat (Nat.lt_succ_of_le hle)]
  · simp only [Function.comp, if_neg hle, if_neg (mt Nat.le_of_lt_succ hle)]
    rfl

theorem decode_encode_ascii (s : String) : ascii.decode (ascii.encode s) =
    String.ofList (s.toList.map fun ch => if ch.toNat < 0x80 then ch else '?') := by
  rw [decode, encode, List.map_map]
  refine congrArg String.ofList (List.map_congr_left fun ch _ => ?_)
  by_cases hlt : ch.toNat < 128
  · have hoctet : ch.toNat < 256 := Nat.lt_trans hlt (by decide)
    have hlow : UInt8.ofNat ch.toNat < 128 :=
      UInt8.lt_iff_toNat_lt.2 (by rwa [UInt8.toNat_ofNat_of_lt' hoctet])
    simp only [Function.comp, if_pos hlt, if_pos hlow, ofNat_octet_toNat hoctet]
  · simp only [Function.comp, if_neg hlt]
    rfl

theorem length_octetwise (hc : c ≠ utf8) (b : Bytes) (s : String) :
    (c.decode b).length = b.length ∧ (c.encode s).length = s.length := by
  cases c with
  | utf8 => exact absurd rfl hc
  | latin1 | ascii =>
    rw [decode, encode, String.length_ofList, List.length_map, List.length_map,
      String.length_toList]
    exact ⟨rfl, rfl⟩

/-- What a payload `b` and a text `s` come to through each charset and back. ISO-8859-1 and US-ASCII
have an octet for a character. UTF-8 is read in the one way that keeps characters and puts one U+FFFD
for the longest part that a character could begin with (`Utf8.Lossy`). -/
theorem round_trips (b : Bytes) (s : String) :
    latin1.encode (latin1.decode b) = b ∧
    latin1.decode (latin1.encode s) =
      String.ofList (s.toList.map fun ch => if ch.toNat ≤ 0xFF then ch else '?') ∧
    ascii.encode (ascii.decode b) = b.map (fun o => if o < 0x80 then o else '?'.toUInt8) ∧
    ascii.decode (ascii.encode s) =
      String.ofList (s.toList.map fun ch => if ch.toNat < 0x80 then ch else '?') ∧
    (∀ l, Utf8.Lossy b l ↔ utf8.decode b = String.ofList l) ∧
    utf8.decode (utf8.encode s) = s ∧
    (utf8.encode (utf8.decode b) = b ↔ Utf8.Valid b) ∧
    utf8.decode (utf8.encode (utf8.decode b)) = utf8.decode b ∧
    (∀ v, Utf8.Valid v → utf8.decode (v ++ b) = utf8.decode v ++ utf8.decode b) ∧
    (∀ c : Charset, c ≠ utf8 → (c.decode b).length = b.length ∧ (c.encode s).length = s.length) ∧
    (∀ c : Charset, (c.decode b = "" → b = []) ∧ (c.encode s = [] → s = "")) := by
  refine ⟨encode_decode_latin1 b, decode_encode_latin1 s, encode_decode_ascii b,
    decode_encode_ascii s, fun l => ?_, Utf8.decodeLossy_encode s, ?_, Utf8.decodeLossy_encode _,
    fun v hv => ?_, fun c hc => length_octetwise hc b s, fun c => ⟨?_, ?_⟩⟩
  · rw [Utf8.lossy_iff, decode]
    constructor
    · rintro rfl
      rw [String.ofList_toList]
    · intro h
      rw [h, String.toList_ofList]
  · rw [Utf8.valid_iff]
    exact Utf8.encode_decodeLossy_iff
  · obtain ⟨t, ht⟩ := Option.isSome_iff_exists.1 (Utf8.valid_iff.1 hv)
    rw [← Utf8.encode_of_decode? ht]
    show Utf8.decodeLossy _ = Utf8.decodeLossy _ ++ _
    rw [Utf8.decodeLossy_encode_append, Utf8.decodeLossy_encode]
    rfl
  · exact fun h => Decidable.byContradiction fun hb => decode_ne_empty hb h
  · exact fun h => Decidable.byContradiction fun hs => encode_ne_nil hs h

end DeviceGateway.Charset
