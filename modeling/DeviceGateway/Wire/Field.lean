import DeviceGateway.Text.Utf8
import DeviceGateway.Wire.Error

/-!
# Fields of a packet

Two-octet numbers, most significant octet first, and strings and binary data with their length in
such a number before them. A reader returns what it read and the octets behind it; the rest is a
suffix of the input, shorter by what was read (`Field.u16_eq`, `Field.binary_eq`, `Field.text_eq`).
-/

namespace DeviceGateway.Field

/-- A number of two octets. -/
def encodeU16 (n : UInt16) : Bytes := [.ofNat (n.toNat / 256), .ofNat (n.toNat % 256)]

/-- Data behind its length. -/
def encodeBinary (data : Bytes) : Except EncodeError Bytes :=
  if 65535 < data.length then .error .stringTooLong
  else .ok (encodeU16 (.ofNat data.length) ++ data)

/-- A text behind the length of its UTF-8 form. -/
def encodeText (s : String) : Except EncodeError Bytes := encodeBinary (Utf8.encode s)

def readU16 : Bytes → Except DecodeError (UInt16 × Bytes)
  | hi :: lo :: rest => .ok (.ofNat (hi.toNat * 256 + lo.toNat), rest)
  | _ => .error .insufficientData

def readBinary (b : Bytes) : Except DecodeError (Bytes × Bytes) :=
  match readU16 b with
  | .error e => .error e
  | .ok (n, rest) =>
    match Bytes.cut? n.toNat rest with
    | some r => .ok r
    | none => .error .insufficientData

/-- A text is UTF-8 without U+0000. -/
def readText (b : Bytes) : Except DecodeError (String × Bytes) :=
  match readBinary b with
  | .error e => .error e
  | .ok (data, rest) =>
    match Utf8.decode? data with
    | none => .error .invalidUtf8
    | some s =>
      if data.contains 0 then .error (.malformed .nullCharacter) else .ok (s, rest)

def readOctet : Bytes → Except DecodeError (UInt8 × Bytes)
  | a :: rest => .ok (a, rest)
  | [] => .error .insufficientData

/-! ### What a reader takes off the front -/

variable {b rest : Bytes}

theorem u16_eq {n : UInt16} (h : readU16 b = .ok (n, rest)) : b = encodeU16 n ++ rest := by
  unfold readU16 at h
  split at h
  · rename_i hi lo r
    simp only [Except.ok.injEq, Prod.mk.injEq] at h
    obtain ⟨rfl, rfl⟩ := h
    have h1 := hi.toNat_lt
    have h2 := lo.toNat_lt
    have h3 : (UInt16.ofNat (hi.toNat * 256 + lo.toNat)).toNat = hi.toNat * 256 + lo.toNat :=
      UInt16.toNat_ofNat_of_lt' (by simp [UInt16.size]; omega)
    have h4 : (hi.toNat * 256 + lo.toNat) / 256 = hi.toNat := by omega
    have h5 : (hi.toNat * 256 + lo.toNat) % 256 = lo.toNat := by omega
    simp only [encodeU16, h3, h4, h5, UInt8.ofNat_toNat, List.cons_append, List.nil_append]
  · cases h

theorem readU16_encodeU16 (n : UInt16) (rest : Bytes) :
    readU16 (encodeU16 n ++ rest) = .ok (n, rest) := by
  have h := n.toNat_lt
  have h1 : n.toNat / 256 % 256 = n.toNat / 256 := by omega
  have h2 : n.toNat / 256 * 256 + n.toNat % 256 = n.toNat := by omega
  simp [encodeU16, readU16, h1, h2]

theorem binary_eq {data : Bytes} (h : readBinary b = .ok (data, rest)) :
    b = encodeU16 (.ofNat data.length) ++ data ++ rest ∧ data.length ≤ 65535 := by
  unfold readBinary at h
  split at h
  · cases h
  · rename_i n r hn
    split at h
    · rename_i p hp
      simp only [Except.ok.injEq] at h
      subst h
      obtain ⟨rfl, hl⟩ := Bytes.cut?_eq_some.1 hp
      have := n.toNat_lt
      rw [u16_eq hn, hl]
      simp; omega
    · cases h

theorem readBinary_encode (data rest : Bytes) (h : data.length ≤ 65535) :
    readBinary (encodeU16 (.ofNat data.length) ++ data ++ rest) = .ok (data, rest) := by
  have h1 : (UInt16.ofNat data.length).toNat = data.length :=
    UInt16.toNat_ofNat_of_lt' (by simp [UInt16.size]; omega)
  rw [List.append_assoc]
  simp only [readBinary, readU16_encodeU16, h1, Bytes.cut?_append _ data rest rfl]

theorem text_eq {s : String} (h : readText b = .ok (s, rest)) :
    b = encodeU16 (.ofNat (Utf8.encode s).length) ++ Utf8.encode s ++ rest ∧
      (Utf8.encode s).length ≤ 65535 := by
  unfold readText at h
  split at h
  · cases h
  · rename_i data r hd
    split at h
    · cases h
    · rename_i t ht
      split at h
      · cases h
      · simp only [Except.ok.injEq, Prod.mk.injEq] at h
        obtain ⟨rfl, rfl⟩ := h
        rw [Utf8.encode_of_decode? ht]
        exact binary_eq hd

theorem text_length_lt {s : String} (h : readText b = .ok (s, rest)) : rest.length < b.length := by
  rw [(text_eq h).1]
  simp only [List.length_append, encodeU16, List.length_cons]
  omega

end DeviceGateway.Field
