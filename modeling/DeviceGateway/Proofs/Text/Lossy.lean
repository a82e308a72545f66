import DeviceGateway.Proofs.Text.Utf8

/-!
# Reading octets that are not UTF-8

The octets of one character are told by their ranges (`Utf8.Sequence`, `Utf8.sequence_iff`): the shortest
form only, no surrogate, nothing above U+10FFFF. Where no character begins, one U+FFFD stands for the
longest part that a character could begin with (`Utf8.Broken`), which is `Utf8.brokenLength` octets
(`Utf8.broken_iff`).

`Utf8.Lossy b l` reads `b` off the front that way, and `Utf8.decodeLossy` is the one text that comes of
it (`Utf8.lossy_iff`).
-/

namespace DeviceGateway.Utf8

/-! ### The octets of a character -/

/-- An octet of a character behind its first two. -/
def Tail (x : UInt8) : Prop := 0x80 ≤ x ∧ x ≤ 0xBF

/-- An octet that may follow the first octet `a` of three or four. -/
def Second (a x : UInt8) : Prop := (secondOctet a).1 ≤ x ∧ x ≤ (secondOctet a).2

inductive Sequence : Bytes → Prop
  | one {a : UInt8} (ha : a < 0x80) : Sequence [a]
  | two {a x : UInt8} (ha : 0xC2 ≤ a ∧ a ≤ 0xDF) (hx : Tail x) : Sequence [a, x]
  | three {a x y : UInt8} (ha : 0xE0 ≤ a ∧ a ≤ 0xEF) (hx : Second a x) (hy : Tail y) :
    Sequence [a, x, y]
  | four {a x y z : UInt8} (ha : 0xF0 ≤ a ∧ a ≤ 0xF4) (hx : Second a x) (hy : Tail y)
    (hz : Tail z) : Sequence [a, x, y, z]

variable {a x y z : UInt8} {b p rest : Bytes} {c : Char} {l : List Char} {m n v : Nat}

theorem le_iff (a x : UInt8) : a ≤ x ↔ a.toNat ≤ x.toNat := UInt8.le_iff_toNat_le

theorem tail_iff : Tail x ↔ 128 ≤ x.toNat ∧ x.toNat ≤ 191 := by
  rw [Tail, le_iff, le_iff]
  rfl

/-- No longer form of what is short, no surrogate, nothing above U+10FFFF. -/
theorem second_iff : Second a x ↔ 128 ≤ x.toNat ∧ x.toNat ≤ 191 ∧
    (a.toNat = 224 → 160 ≤ x.toNat) ∧ (a.toNat = 237 → x.toNat ≤ 159) ∧
    (a.toNat = 240 → 144 ≤ x.toNat) ∧ (a.toNat = 244 → x.toNat ≤ 143) := by
  have heq : ∀ k : UInt8, a = k ↔ a.toNat = k.toNat := fun k => UInt8.toNat_inj.symm
  rw [Second, secondOctet, le_iff, le_iff]
  simp only [heq, UInt8.reduceToNat]
  repeat' split
  all_goals
    show _ ≤ x.toNat ∧ x.toNat ≤ _ ↔ _
    simp only [UInt8.reduceToNat]
    omega

theorem exists_char_toNat (hv : v.isValidChar) : ∃ c : Char, c.val.toNat = v :=
  ⟨Char.ofNat v, by rw [Char.ofNat, dif_pos hv]; rfl⟩

theorem ofNat_eq_iff (hn : n < 256) : UInt8.ofNat n = a ↔ n = a.toNat := by
  rw [← UInt8.toNat_inj, UInt8.toNat_ofNat_of_lt' hn]

theorem exists_char_of_sequence (h : Sequence p) : ∃ c, String.utf8EncodeChar c = p := by
  -- in each case the character is the one with the bits that the octets hold
  cases h with
  | @one a ha =>
    have ha : a.toNat < 128 := UInt8.lt_iff_toNat_lt.1 ha
    obtain ⟨c, hc⟩ := exists_char_toNat (v := a.toNat) (.inl (by omega))
    refine ⟨c, ?_⟩
    rw [String.utf8EncodeChar, hc, if_pos (by omega), UInt8.ofNat_toNat]
  | @two a x ha hx =>
    have ha : 194 ≤ a.toNat ∧ a.toNat ≤ 223 := ⟨(le_iff _ _).1 ha.1, (le_iff _ _).1 ha.2⟩
    rw [tail_iff] at hx
    obtain ⟨c, hc⟩ := exists_char_toNat (v := (a.toNat - 192) * 64 + (x.toNat - 128))
      (.inl (by omega))
    refine ⟨c, ?_⟩
    rw [String.utf8EncodeChar, hc, if_neg (by omega), if_pos (by omega)]
    simp only [List.cons.injEq, and_true]
    rw [ofNat_eq_iff (by omega), ofNat_eq_iff (by omega)]
    omega
  | @three a x y ha hx hy =>
    have ha : 224 ≤ a.toNat ∧ a.toNat ≤ 239 := ⟨(le_iff _ _).1 ha.1, (le_iff _ _).1 ha.2⟩
    rw [second_iff] at hx
    rw [tail_iff] at hy
    obtain ⟨c, hc⟩ := exists_char_toNat
      (v := (a.toNat - 224) * 4096 + (x.toNat - 128) * 64 + (y.toNat - 128))
      (by rw [Nat.isValidChar]; omega)
    refine ⟨c, ?_⟩
    rw [String.utf8EncodeChar, hc, if_neg (by omega), if_neg (by omega),
      if_pos (by omega)]
    simp only [List.cons.injEq, and_true]
    rw [ofNat_eq_iff (by omega), ofNat_eq_iff (by omega), ofNat_eq_iff (by omega)]
    omega
  | @four a x y z ha hx hy hz =>
    have ha : 240 ≤ a.toNat ∧ a.toNat ≤ 244 := ⟨(le_iff _ _).1 ha.1, (le_iff _ _).1 ha.2⟩
    rw [second_iff] at hx
    rw [tail_iff] at hy hz
    obtain ⟨c, hc⟩ := exists_char_toNat
      (v := (a.toNat - 240) * 262144 + (x.toNat - 128) * 4096 + (y.toNat - 128) * 64 +
        (z.toNat - 128))
      (by rw [Nat.isValidChar]; omega)
    refine ⟨c, ?_⟩
    rw [String.utf8EncodeChar, hc, if_neg (by omega), if_neg (by omega), if_neg (by omega)]
    simp only [List.cons.injEq, and_true]
    rw [ofNat_eq_iff (by omega), ofNat_eq_iff (by omega), ofNat_eq_iff (by omega),
      ofNat_eq_iff (by omega)]
    omega

theorem range_ofNat {lo hi : UInt8} (hn : n < 256) (hlo : lo.toNat ≤ n) (hhi : n ≤ hi.toNat) :
    lo ≤ UInt8.ofNat n ∧ UInt8.ofNat n ≤ hi := by
  rw [le_iff, le_iff, UInt8.toNat_ofNat_of_lt' hn]
  exact ⟨hlo, hhi⟩

theorem tail_ofNat (n : Nat) : Tail (UInt8.ofNat (n % 64 + 128)) :=
  range_ofNat (by omega) (by show 128 ≤ _; omega) (by show _ ≤ 191; omega)

theorem second_ofNat (hm : m < 256) (hn : n < 64)
    (h : (m = 224 → 32 ≤ n) ∧ (m = 237 → n ≤ 31) ∧ (m = 240 → 16 ≤ n) ∧ (m = 244 → n ≤ 15)) :
    Second (UInt8.ofNat m) (UInt8.ofNat (n + 128)) := by
  have hlow : (UInt8.ofNat (n + 128)).toNat = n + 128 :=
    UInt8.toNat_ofNat_of_lt' (by show _ < 256; omega)
  rw [second_iff, UInt8.toNat_ofNat_of_lt' hm, hlow]
  omega

theorem sequence_encodeChar (c : Char) : Sequence (String.utf8EncodeChar c) := by
  have hv : c.val.toNat < 55296 ∨ 57343 < c.val.toNat ∧ c.val.toNat < 1114112 := c.valid
  rw [String.utf8EncodeChar]
  split
  · refine .one (UInt8.lt_iff_toNat_lt.2 ?_)
    rw [UInt8.toNat_ofNat_of_lt' (by show _ < 256; omega)]
    show _ < 128
    omega
  split
  · exact .two (range_ofNat (by omega) (by show 194 ≤ _; omega) (by show _ ≤ 223; omega))
      (tail_ofNat _)
  split
  · exact .three (range_ofNat (by omega) (by show 224 ≤ _; omega) (by show _ ≤ 239; omega))
      (second_ofNat (by omega) (by omega) (by omega)) (tail_ofNat _)
  · exact .four (range_ofNat (by omega) (by show 240 ≤ _; omega) (by show _ ≤ 244; omega))
      (second_ofNat (by omega) (by omega) (by omega)) (tail_ofNat _) (tail_ofNat _)

theorem sequence_iff : Sequence p ↔ ∃ c, String.utf8EncodeChar c = p :=
  ⟨exists_char_of_sequence, fun ⟨c, h⟩ => h ▸ sequence_encodeChar c⟩

/-- UTF-8 from end to end: the octets of some characters, one after the other. -/
def Valid (b : Bytes) : Prop := ∃ ps : List Bytes, (∀ p ∈ ps, Sequence p) ∧ b = ps.flatten

theorem valid_iff : Valid b ↔ (decode? b).isSome := by
  constructor
  · rintro ⟨ps, hps, rfl⟩
    obtain ⟨s, hs⟩ : ∃ s, encode s = ps.flatten := by
      induction ps with
      | nil => exact ⟨"", rfl⟩
      | cons p ps ih =>
        obtain ⟨c, hc⟩ := sequence_iff.1 (hps p List.mem_cons_self)
        obtain ⟨s, hs⟩ := ih fun p hp => hps p (List.mem_cons_of_mem _ hp)
        refine ⟨String.ofList [c] ++ s, ?_⟩
        rw [encode_append, encode_ofList, List.flatMap_singleton, hc, hs, List.flatten_cons]
    rw [← hs, decode?_encode]
    rfl
  · intro h
    obtain ⟨s, hs⟩ := Option.isSome_iff_exists.1 h
    refine ⟨s.toList.map String.utf8EncodeChar, ?_, ?_⟩
    · rintro _ hp
      obtain ⟨c, -, rfl⟩ := List.mem_map.1 hp
      exact sequence_encodeChar c
    · rw [← encode_of_decode? hs, encode_eq_flatMap, List.flatMap_def]

/-! ### What no character begins -/

/-- The written form of some character begins with `p` and goes on behind it. -/
def Opens (p : Bytes) : Prop := ∃ q, q ≠ [] ∧ Sequence (p ++ q)

theorem Opens.left (h : Opens (p ++ rest)) : Opens p := by
  obtain ⟨q, hq, h⟩ := h
  exact ⟨rest ++ q, by simp [hq], by rwa [← List.append_assoc]⟩

theorem opens_two : Opens [a, x] ↔ (0xE0 ≤ a ∧ a ≤ 0xF4) ∧ Second a x := by
  have hnext : (0xEF : UInt8) < a → 0xF0 ≤ a := fun h => (le_iff _ _).2 (UInt8.lt_iff_toNat_lt.1 h)
  constructor
  · rintro ⟨q, hq, h⟩
    generalize hp : [a, x] ++ q = p at h
    cases h with
    | one => simp at hp
    | two => simp_all
    | three ha hx hy =>
      simp only [List.cons_append, List.nil_append, List.cons.injEq] at hp
      obtain ⟨rfl, rfl, -⟩ := hp
      exact ⟨⟨ha.1, UInt8.le_trans ha.2 (by decide)⟩, hx⟩
    | four ha hx hy hz =>
      simp only [List.cons_append, List.nil_append, List.cons.injEq] at hp
      obtain ⟨rfl, rfl, -⟩ := hp
      exact ⟨⟨UInt8.le_trans (by decide) ha.1, ha.2⟩, hx⟩
  · rintro ⟨ha, hx⟩
    have htail : Tail 0x80 := by unfold Tail; decide
    by_cases hthree : a ≤ 0xEF
    · exact ⟨[0x80], by simp, .three ⟨ha.1, hthree⟩ hx htail⟩
    · exact ⟨[0x80, 0x80], by simp, .four ⟨hnext (UInt8.not_le.1 hthree), ha.2⟩ hx htail htail⟩

theorem opens_three : Opens [a, x, y] ↔ (0xF0 ≤ a ∧ a ≤ 0xF4) ∧ Second a x ∧ Tail y := by
  constructor
  · rintro ⟨q, hq, h⟩
    generalize hp : [a, x, y] ++ q = p at h
    cases h with
    | one | two => simp at hp
    | three => simp_all
    | four ha hx hy hz =>
      simp only [List.cons_append, List.nil_append, List.cons.injEq] at hp
      obtain ⟨rfl, rfl, rfl, -⟩ := hp
      exact ⟨ha, hx, hy⟩
  · rintro ⟨ha, hx, hy⟩
    exact ⟨[0x80], by simp, .four ha hx hy (by unfold Tail; decide)⟩

theorem length_lt_of_opens (h : Opens p) : p.length < 4 := by
  obtain ⟨q, hq, h⟩ := h
  have hlen := List.length_pos_iff.2 hq
  generalize hr : p ++ q = r at h
  have := congrArg List.length hr
  rw [List.length_append] at this
  cases h <;> simp only [List.length_cons, List.length_nil] at this <;> omega

/-- No character begins in front of `b`, and one U+FFFD stands for `n` octets: for the longest part that
a character could begin with, or for the first octet if there is none. -/
structure Broken (b : Bytes) (n : Nat) : Prop where
  noChar : ∀ c rest, b ≠ String.utf8EncodeChar c ++ rest
  pos : 0 < n
  le_length : n ≤ b.length
  opens : n = 1 ∨ Opens (b.take n)
  longest : ∀ m, n < m → m ≤ b.length → ¬ Opens (b.take m)

theorem Broken.le (h : Broken b n) (h' : Broken b m) : n ≤ m := by
  refine Nat.le_of_not_lt fun hlt => ?_
  have := h'.pos
  rcases h.opens with hone | hopens
  · omega
  · exact h'.longest n (by omega) h.le_length hopens

theorem Broken.unique (h : Broken b n) (h' : Broken b m) : n = m :=
  Nat.le_antisymm (h.le h') (h'.le h)

theorem brokenLength_pair (hopens : Opens [a, x]) : brokenLength [a, x] = 2 := by
  obtain ⟨ha, hx⟩ := opens_two.1 hopens
  exact if_pos ⟨ha.1, ha.2, hx⟩

theorem brokenLength_of_not_opens (hopens : ¬ Opens [a, x]) (rest : Bytes) :
    brokenLength (a :: x :: rest) = 1 := by
  have hrange : ¬ (0xE0 ≤ a ∧ a ≤ 0xF4 ∧ (secondOctet a).1 ≤ x ∧ x ≤ (secondOctet a).2) :=
    fun h => hopens (opens_two.2 ⟨⟨h.1, h.2.1⟩, h.2.2⟩)
  cases rest with
  | nil => exact if_neg hrange
  | cons y rest => exact if_neg hrange

theorem brokenLength_of_opens (hopens : Opens [a, x]) (y : UInt8) (rest : Bytes) :
    (Opens [a, x, y] → brokenLength (a :: x :: y :: rest) = 3) ∧
    (¬ Opens [a, x, y] → brokenLength (a :: x :: y :: rest) = 2) := by
  obtain ⟨ha, hx⟩ := opens_two.1 hopens
  have hlength : brokenLength (a :: x :: y :: rest) =
      if 0xF0 ≤ a ∧ 0x80 ≤ y ∧ y ≤ 0xBF then 3 else 2 := if_pos ⟨ha.1, ha.2, hx⟩
  rw [hlength, opens_three]
  exact ⟨fun h => if_pos ⟨h.1.1, h.2.2⟩, fun h => if_neg fun h' => h ⟨⟨h'.1, ha.2⟩, hx, h'.2⟩⟩

theorem broken_brokenLength (hb : b ≠ []) (hnone : ∀ c rest, b ≠ String.utf8EncodeChar c ++ rest) :
    Broken b (brokenLength b) := by
  rcases b with _ | ⟨a, _ | ⟨x, rest⟩⟩
  · exact absurd rfl hb
  · exact ⟨hnone, Nat.one_pos, Nat.le_refl 1, .inl rfl, fun m hm hle => absurd hle (Nat.not_le.2 hm)⟩
  by_cases htwo : Opens [a, x]
  · rcases rest with _ | ⟨y, rest⟩
    · rw [brokenLength_pair htwo]
      exact ⟨hnone, by decide, Nat.le_refl 2, .inr htwo, fun m hm hle => absurd hle (Nat.not_le.2 hm)⟩
    obtain ⟨hthree, htwo'⟩ := brokenLength_of_opens htwo y rest
    by_cases h : Opens [a, x, y]
    -- four octets would be a whole character
    · rw [hthree h]
      refine ⟨hnone, by decide, by simp, .inr h, fun m hm hle hopens => ?_⟩
      have := length_lt_of_opens hopens
      rw [List.length_take] at this
      omega
    · rw [htwo' h]
      refine ⟨hnone, by decide, by simp, .inr htwo, fun m hm hle hopens => ?_⟩
      have hlen := length_lt_of_opens hopens
      rw [List.length_take] at hlen
      obtain rfl : m = 3 := by omega
      exact h hopens
  · rw [brokenLength_of_not_opens htwo rest]
    refine ⟨hnone, by decide, by simp, .inl rfl, fun m hm hle hopens => ?_⟩
    -- a longer part would begin with the first two octets
    obtain ⟨k, rfl⟩ : ∃ k, m = k + 2 := ⟨m - 2, by omega⟩
    exact htwo (Opens.left (p := [a, x]) hopens)

theorem broken_iff (hb : b ≠ []) : Broken b n ↔ front? b = none ∧ n = brokenLength b := by
  have hnone : front? b = none ↔ ∀ c rest, b ≠ String.utf8EncodeChar c ++ rest := by
    rw [Option.eq_none_iff_forall_ne_some]
    exact forall_congr' fun c => by rw [Ne, front?_eq_some, not_exists]
  constructor
  · intro h
    exact ⟨hnone.2 h.noChar, h.unique (broken_brokenLength hb h.noChar)⟩
  · rintro ⟨h, rfl⟩
    exact broken_brokenLength hb (hnone.1 h)

/-! ### Reading -/

/-- Reading off the front: a character where one begins, else U+FFFD for what is broken there. -/
inductive Lossy : Bytes → List Char → Prop
  | nil : Lossy [] []
  | char {b : Bytes} {l : List Char} (c : Char) (h : Lossy b l) :
    Lossy (String.utf8EncodeChar c ++ b) (c :: l)
  | broken {b : Bytes} {n : Nat} {l : List Char} (hn : Broken b n) (h : Lossy (b.drop n) l) :
    Lossy b ('\uFFFD' :: l)

theorem toList_decodeLossy_char (c : Char) (rest : Bytes) :
    (decodeLossy (String.utf8EncodeChar c ++ rest)).toList = c :: (decodeLossy rest).toList := by
  have h := decodeLossy_encode_append (String.ofList [c]) rest
  rw [encode_ofList, List.flatMap_singleton] at h
  rw [h, String.toList_append, String.toList_ofList, List.singleton_append]

theorem toList_decodeLossy_broken (hb : b ≠ []) (hnone : front? b = none) :
    (decodeLossy b).toList = '\uFFFD' :: (decodeLossy (b.drop (brokenLength b))).toList := by
  obtain ⟨a, r, rfl⟩ := List.exists_cons_of_ne_nil hb
  rw [decodeLossy, scanLossy, hnone]
  dsimp only
  have happend := scanLossy_append [] ['\uFFFD'] ((a :: r).drop (brokenLength (a :: r)))
  rw [List.nil_append] at happend
  rw [happend, String.toList_ofList, List.reverse_append, decodeLossy, String.toList_ofList]
  rfl

/-- There is one way to read any octets, and `decodeLossy` takes it. -/
theorem lossy_iff : Lossy b l ↔ l = (decodeLossy b).toList := by
  constructor
  · intro h
    induction h with
    | nil => rw [decodeLossy_nil, String.toList_empty]
    | char c _ ih => rw [toList_decodeLossy_char, ih]
    | @broken b n l hn _ ih =>
      have hb : b ≠ [] := fun h => by
        have := hn.le_length
        have := hn.pos
        simp_all
      obtain ⟨hnone, rfl⟩ := (broken_iff hb).1 hn
      rw [toList_decodeLossy_broken hb hnone, ih]
  · rintro rfl
    induction hk : b.length using Nat.strongRecOn generalizing b with
    | ind k ih =>
      subst hk
      by_cases hb : b = []
      · subst hb
        rw [decodeLossy_nil, String.toList_empty]
        exact .nil
      cases hfront : front? b with
      | some c =>
        obtain ⟨rest, rfl⟩ := front?_eq_some.1 hfront
        rw [toList_decodeLossy_char]
        refine .char c (ih _ ?_ rfl)
        have := c.utf8Size_pos
        rw [List.length_append, String.length_utf8EncodeChar]
        omega
      | none =>
        have hn := (broken_iff hb).2 ⟨hfront, rfl⟩
        rw [toList_decodeLossy_broken hb hfront]
        refine .broken hn (ih _ ?_ rfl)
        have := hn.pos
        have := hn.le_length
        rw [List.length_drop]
        omega

end DeviceGateway.Utf8
