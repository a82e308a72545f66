import DeviceGateway.Text.Utf8

/-!
# The octets of a text

`Utf8.encode` is the written forms of the characters one after the other, and only U+0000 is written
with an octet that is zero. So a text without U+0000 is one whose octets are not zero.

Reading any octets takes a character off the front where one is written (`front?_eq_some`), so it gives
back what was written, whatever follows (`decodeLossy_encode_append`), and octets are written as they
were exactly if they are UTF-8 (`encode_decodeLossy_iff`). What stands for others is longer by a factor
of three at most (`length_encode_decodeLossy_le`).
-/

namespace DeviceGateway.Utf8

theorem encode_eq_flatMap (s : String) : encode s = s.toList.flatMap String.utf8EncodeChar := by
  show s.toByteArray.data.toList = _
  rw [← String.utf8Encode_toList, List.utf8Encode, List.toList_data_toByteArray]

theorem zero_mem_encodeChar {c : Char} : 0 ∈ String.utf8EncodeChar c ↔ c = '\x00' := by
  have hzero : ∀ n, n < 256 → ((0 : UInt8) = UInt8.ofNat n ↔ n = 0) := fun n hn => by
    rw [← UInt8.toNat_inj, UInt8.toNat_ofNat_of_lt' hn, eq_comm]
    rfl
  have hc : c = '\x00' ↔ c.val.toNat = 0 := by
    rw [Char.ext_iff, ← UInt32.toNat_inj]
    rfl
  have hv : c.val.toNat < 0x110000 := by
    have := c.valid
    simp only [UInt32.isValidChar, Nat.isValidChar] at this
    omega
  rw [hc, String.utf8EncodeChar]
  split
  · rw [List.mem_singleton, hzero _ (by omega)]
  -- the octets of a longer form have their high bit set
  repeat' split
  all_goals
    simp only [List.mem_cons, List.not_mem_nil, or_false]
    repeat rw [hzero _ (by omega)]
    omega

/-- The zero octet occurs where U+0000 does. -/
theorem zero_mem_encode {s : String} : 0 ∈ encode s ↔ '\x00' ∈ s.toList := by
  rw [encode_eq_flatMap, List.mem_flatMap]
  constructor
  · rintro ⟨c, hc, h⟩
    exact zero_mem_encodeChar.1 h ▸ hc
  · intro h
    exact ⟨_, h, zero_mem_encodeChar.2 rfl⟩

theorem encode_append (s t : String) : encode (s ++ t) = encode s ++ encode t := by
  rw [encode_eq_flatMap, String.toList_append, List.flatMap_append, ← encode_eq_flatMap,
    ← encode_eq_flatMap]

theorem encode_ofList (l : List Char) : encode (String.ofList l) = l.flatMap String.utf8EncodeChar := by
  rw [encode_eq_flatMap, String.toList_ofList]

/-! ### Reading any octets -/

variable {b rest : Bytes} {c : Char} {acc : List Char}

theorem front?_eq (b : Bytes) : front? b = (b.take 4).toByteArray.utf8DecodeChar? 0 := by
  have hdata : (⟨(b.take 4).toArray⟩ : ByteArray) = (b.take 4).toByteArray := by
    rw [ByteArray.ext_iff, List.data_toByteArray]
  rw [front?, hdata]

theorem front?_append (c : Char) (rest : Bytes) :
    front? (String.utf8EncodeChar c ++ rest) = some c := by
  have htake : (String.utf8EncodeChar c ++ rest).take 4 =
      String.utf8EncodeChar c ++ rest.take (4 - c.utf8Size) := by
    rw [List.take_append, String.length_utf8EncodeChar, List.take_of_length_le]
    rw [String.length_utf8EncodeChar]
    exact c.utf8Size_le_four
  rw [front?_eq, htake, List.toByteArray_append, ByteArray.utf8DecodeChar?_utf8EncodeChar_append]

/-- A character is read where it is written. -/
theorem front?_eq_some : front? b = some c ↔ ∃ rest, b = String.utf8EncodeChar c ++ rest := by
  constructor
  · intro h
    rw [front?_eq] at h
    obtain ⟨l, hl⟩ := ByteArray.exists_of_utf8DecodeChar?_eq_some h
    have htake : b.take 4 = String.utf8EncodeChar c ++ l.data.toList := by
      have hdata := congrArg (fun x => x.data.toList) hl
      simpa using hdata
    refine ⟨l.data.toList ++ b.drop 4, ?_⟩
    rw [← List.append_assoc, ← htake, List.take_append_drop]
  · rintro ⟨rest, rfl⟩
    exact front?_append c rest

/-! What is left behind the characters that were read does not depend on them. -/

theorem scanLossy_append (acc acc' : List Char) (b : Bytes) :
    scanLossy (acc ++ acc') b = scanLossy acc b ++ acc' := by
  fun_induction scanLossy acc b with
  | case1 acc => rw [scanLossy]
  | case2 acc a r c hc ih => rw [scanLossy, hc, ← List.cons_append]; exact ih
  | case3 acc a r hnone ih => rw [scanLossy, hnone, ← List.cons_append]; exact ih

theorem scanLossy_encodeChar (acc : List Char) (c : Char) (rest : Bytes) :
    scanLossy acc (String.utf8EncodeChar c ++ rest) = scanLossy (c :: acc) rest := by
  obtain ⟨a, r, har⟩ : ∃ a r, String.utf8EncodeChar c = a :: r :=
    List.exists_cons_of_ne_nil String.utf8EncodeChar_ne_nil
  have hfront := front?_append c rest
  have hdrop : (String.utf8EncodeChar c ++ rest).drop c.utf8Size = rest :=
    List.drop_left' (String.length_utf8EncodeChar c)
  rw [har, List.cons_append] at hfront hdrop ⊢
  rw [scanLossy, hfront]
  dsimp only
  rw [hdrop]

theorem scanLossy_flatMap (acc l : List Char) (rest : Bytes) :
    scanLossy acc (l.flatMap String.utf8EncodeChar ++ rest) = scanLossy (l.reverse ++ acc) rest := by
  induction l generalizing acc with
  | nil => rfl
  | cons c l ih =>
    rw [List.flatMap_cons, List.append_assoc, scanLossy_encodeChar, ih, List.reverse_cons,
      List.append_assoc, List.singleton_append]

/-- What is written is read back, whatever follows it. -/
theorem decodeLossy_encode_append (s : String) (rest : Bytes) :
    decodeLossy (encode s ++ rest) = s ++ decodeLossy rest := by
  have hscan : scanLossy [] (encode s ++ rest) = scanLossy [] rest ++ s.toList.reverse := by
    rw [encode_eq_flatMap, scanLossy_flatMap, List.append_nil]
    exact scanLossy_append [] s.toList.reverse rest
  rw [decodeLossy, hscan, List.reverse_append, List.reverse_reverse, String.ofList_append,
    String.ofList_toList, decodeLossy]

@[simp] theorem decodeLossy_nil : decodeLossy [] = "" := by
  rw [decodeLossy, scanLossy]
  rfl

theorem decodeLossy_encode (s : String) : decodeLossy (encode s) = s := by
  have h := decodeLossy_encode_append s []
  rwa [List.append_nil, decodeLossy_nil, String.append_empty] at h

theorem encode_eq_nil {s : String} : encode s = [] ↔ s = "" := by
  constructor
  · intro h
    rw [← decodeLossy_encode s, h, decodeLossy_nil]
  · rintro rfl
    rfl

/-- Octets are written as they were exactly if they are UTF-8. -/
theorem encode_decodeLossy_iff : encode (decodeLossy b) = b ↔ (decode? b).isSome := by
  constructor
  · intro h
    rw [← h, decode?_encode]
    rfl
  · intro h
    obtain ⟨s, hs⟩ := Option.isSome_iff_exists.1 h
    rw [← encode_of_decode? hs, decodeLossy_encode]

theorem decodeLossy_ne_empty (h : b ≠ []) : decodeLossy b ≠ "" := by
  intro he
  have hnil : scanLossy [] b = [] := by
    have hlist := congrArg String.toList he
    rwa [decodeLossy, String.toList_ofList, String.toList_empty, List.reverse_eq_nil_iff] at hlist
  have hcons : ∀ c b, scanLossy [c] b ≠ [] := by
    intro c b
    rw [show [c] = [] ++ [c] from rfl, scanLossy_append]
    simp
  obtain ⟨a, r, rfl⟩ := List.exists_cons_of_ne_nil h
  rw [scanLossy] at hnil
  split at hnil
  · exact hcons _ _ hnil
  · exact hcons _ _ hnil

theorem length_scanLossy_le (acc : List Char) (b : Bytes) :
    ((scanLossy acc b).flatMap String.utf8EncodeChar).length ≤
      3 * b.length + (acc.flatMap String.utf8EncodeChar).length := by
  fun_induction scanLossy acc b with
  | case1 acc => simp
  | case2 acc a r c hc ih =>
    -- as many octets are read as are written
    obtain ⟨rest, hrest⟩ := front?_eq_some.1 hc
    have hlen := congrArg List.length hrest
    rw [List.flatMap_cons, List.length_append, String.length_utf8EncodeChar, List.length_drop] at ih
    rw [List.length_append, String.length_utf8EncodeChar] at hlen
    omega
  | case3 acc a r hnone ih =>
    have hbroken := brokenLength_pos (a :: r)
    have hsize : (String.utf8EncodeChar '\uFFFD').length = 3 := by decide
    rw [List.flatMap_cons, List.length_append, hsize, List.length_drop] at ih
    have hpos : 0 < (a :: r).length := Nat.succ_pos _
    omega

theorem length_encode_decodeLossy_le (b : Bytes) : (encode (decodeLossy b)).length ≤ 3 * b.length := by
  have h := length_scanLossy_le [] b
  rw [decodeLossy, encode_ofList, List.length_flatMap, List.map_reverse, List.sum_reverse,
    ← List.length_flatMap]
  simpa using h

end DeviceGateway.Utf8
