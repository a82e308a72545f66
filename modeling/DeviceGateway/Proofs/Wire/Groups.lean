import DeviceGateway.Proofs.Wire.Cursor
import Mathlib.Algebra.BigOperators.Fin

/-!
# Variable-length integers as sums of groups

What the octets of a variable-length integer spell, as a sum: `VarInt.Spelled b n count` says that the
first `count` octets of `b` go on up to the last of them, and that `n` is the sum of their lower seven
bits times the powers of 128. Such octets are those of a form (`spelled_iff_form`), so reading finds
what they spell (`read_eq_ok_iff_spelled`).

Writing can be done in place: `VarInt.append` puts one octet after the other behind a buffer and
divides the number in 32 bits, until nothing is left of it. It comes to what `VarInt.write` comes to,
and leaves the buffer alone if the number is too large (`append_eq`). Main statement:
`numbers_in_groups`.
-/

namespace DeviceGateway.VarInt

variable {b rest buffer : Bytes} {n k count : Nat} {v : UInt32}

/-! ### Groups as a sum -/

/-- The number of the first `count` octets, seven bits each, least significant first. -/
def groupSum (b : Bytes) (count : Nat) : Nat :=
  ∑ i ∈ Finset.range count, (b.getD i 0).toNat % 128 * 128 ^ i

theorem groupSum_cons (o : UInt8) (b : Bytes) (count : Nat) :
    groupSum (o :: b) (count + 1) = o.toNat % 128 + 128 * groupSum b count := by
  unfold groupSum
  rw [Finset.sum_range_succ', Finset.mul_sum, Nat.add_comm]
  refine congrArg₂ (· + ·) (Nat.mul_one _) (Finset.sum_congr rfl fun i _ => ?_)
  rw [List.getD_cons_succ, Nat.pow_succ, Nat.mul_comm 128, Nat.mul_assoc]

/-- The first `count` octets spell `n`: every one of them but the last says that another follows. -/
structure Spelled (b : Bytes) (n count : Nat) : Prop where
  pos : 0 < count
  le_length : count ≤ b.length
  goesOn : ∀ i, i + 1 < count → 128 ≤ b.getD i 0
  ends : b.getD (count - 1) 0 < 128
  eq_sum : n = groupSum b count

theorem Spelled.last {o : UInt8} (h : o < 128) : Spelled (o :: rest) o.toNat 1 where
  pos := Nat.one_pos
  le_length := Nat.succ_le_succ (Nat.zero_le _)
  goesOn i hi := absurd hi (by omega)
  ends := h
  eq_sum := by
    rw [groupSum_cons, Nat.mod_eq_of_lt (toNat_lt_of_lt h)]
    rfl

theorem spelled_more {o : UInt8} (ho : ¬ o < 128) (hcount : 0 < count) :
    Spelled (o :: b) (o.toNat - 128 + 128 * n) (count + 1) ↔ Spelled b n count := by
  have hhigh := le_toNat_of_not_lt ho
  have hlt := o.toNat_lt
  have hmod : o.toNat % 128 = o.toNat - 128 := by omega
  obtain ⟨c, rfl⟩ : ∃ c, count = c + 1 := ⟨count - 1, by omega⟩
  constructor
  · intro h
    exact {
      pos := hcount
      le_length := Nat.le_of_succ_le_succ h.le_length
      goesOn := fun i hi => h.goesOn (i + 1) (Nat.succ_lt_succ hi)
      ends := h.ends
      eq_sum := by
        have := h.eq_sum
        rw [groupSum_cons] at this
        omega }
  · intro h
    exact {
      pos := Nat.succ_pos _
      le_length := Nat.succ_le_succ h.le_length
      goesOn := fun i hi => by
        cases i with
        | zero => exact UInt8.not_lt.1 ho
        | succ i => exact h.goesOn i (Nat.lt_of_succ_lt_succ hi)
      ends := h.ends
      eq_sum := by rw [groupSum_cons, hmod, ← h.eq_sum] }

/-- The octets that spell a number are those of one of its forms. -/
theorem spelled_iff_form :
    Spelled b n count ↔ ∃ g rest, b = g ++ rest ∧ g.length = count ∧ Form n g := by
  constructor
  · intro h
    induction b generalizing n count with
    | nil => exact absurd (Nat.lt_of_lt_of_le h.pos h.le_length) (Nat.lt_irrefl 0)
    | cons o b ih =>
      by_cases ho : o < 128
      · -- the first octet is the last one
        obtain rfl : count = 1 := by
          have hpos := h.pos
          by_contra hne
          exact absurd ho (UInt8.not_lt.2 (h.goesOn 0 (by omega)))
        have hlast : Spelled (o :: b) o.toNat 1 := .last ho
        obtain rfl : n = o.toNat := h.eq_sum.trans hlast.eq_sum.symm
        exact ⟨[o], b, rfl, rfl, .last o ho⟩
      · obtain ⟨c, rfl, hc⟩ : ∃ c, count = c + 1 ∧ 0 < c := by
          have hpos := h.pos
          refine ⟨count - 1, by omega, Nat.pos_of_ne_zero fun h0 => ho ?_⟩
          have hends := h.ends
          rwa [h0] at hends
        have hlt := o.toNat_lt
        have hn : n = o.toNat - 128 + 128 * groupSum b c := by
          have hhigh := le_toNat_of_not_lt ho
          rw [h.eq_sum, groupSum_cons]
          omega
        subst hn
        obtain ⟨g, rest, rfl, rfl, hg⟩ := ih ((spelled_more ho hc).1 h)
        exact ⟨o :: g, rest, rfl, rfl, .more o ho hg⟩
  · rintro ⟨g, rest, rfl, rfl, hg⟩
    induction hg with
    | last o ho => exact .last ho
    | more o ho hg ih => exact (spelled_more ho hg.length_pos).2 ih

theorem read_eq_ok_iff_spelled : read b = .ok (n, count) ↔ count ≤ 4 ∧ Spelled b n count := by
  rw [read_eq_ok, spelled_iff_form]
  constructor
  · rintro ⟨g, rest, rfl, hlen, hle, hg⟩
    exact ⟨hle, g, rest, rfl, hlen, hg⟩
  · rintro ⟨hle, g, rest, rfl, hlen, hg⟩
    exact ⟨g, rest, rfl, hlen, hle, hg⟩

/-- Something is read if one of the first four octets is the last of a number. -/
theorem exists_read_eq_ok : (∃ n count, read b = .ok (n, count)) ↔ ∃ o ∈ b.take 4, o < 128 := by
  constructor
  · rintro ⟨n, count, h⟩
    obtain ⟨hle, hs⟩ := read_eq_ok_iff_spelled.1 h
    have hpos := hs.pos
    have hlt : count - 1 < b.length := Nat.lt_of_lt_of_le (by omega) hs.le_length
    have hends := hs.ends
    rw [List.getD_eq_getElem?_getD, List.getElem?_eq_getElem hlt] at hends
    exact ⟨_, List.mem_take_iff_getElem.2 ⟨count - 1, by omega, rfl⟩, hends⟩
  · rintro ⟨o, ho, hlt⟩
    cases h : read b with
    | ok r => exact ⟨r.1, r.2, rfl⟩
    | error e =>
      -- both refusals say of every octet among the first four that another follows
      rcases eq_of_readGroups_eq_error h with rfl | rfl
      · have hall := (readGroups_eq_insufficientData.1 h).2 o (List.mem_of_mem_take ho)
        exact absurd hlt (UInt8.not_lt.2 hall)
      · have hall := (readGroups_eq_invalidRemainingLength.1 h).2 o ho
        exact absurd hlt (UInt8.not_lt.2 hall)

/-- What is read is bounded by the count of its groups, and what follows has no part in it. -/
theorem lt_pow_of_read (h : read b = .ok (n, count)) :
    n < 128 ^ count ∧ ∀ rest, read (b.take count ++ rest) = .ok (n, count) := by
  obtain ⟨g, behind, rfl, rfl, hle, hg⟩ := read_eq_ok.1 h
  refine ⟨hg.lt_pow, fun rest => ?_⟩
  rw [List.take_left]
  exact hg.readGroups hle

/-! ### Writing in place -/

/-- Puts the groups of a number behind a buffer, and counts them. -/
def appendLoop (buffer : Bytes) (value : UInt32) (count : Nat) : Nat × Bytes :=
  if value / 128 = 0 then (count + 1, buffer ++ [(value % 128).toUInt8])
  else appendLoop (buffer ++ [(value % 128).toUInt8 ||| 0x80]) (value / 128) (count + 1)
termination_by value.toNat
decreasing_by
  have : value.toNat / 128 ≠ 0 := fun h => ‹¬ value / 128 = 0› (UInt32.toNat_inj.1 h)
  show value.toNat / 128 < value.toNat
  omega

/-- Writes a number behind a buffer. A number that is too large leaves the buffer as it is. -/
def append (value : UInt32) (buffer : Bytes) : Except EncodeError Nat × Bytes :=
  if max < value.toNat then (.error .packetTooLarge, buffer)
  else
    let (count, buffer) := appendLoop buffer value 0
    (.ok count, buffer)

theorem low_table : ∀ i : Fin 128, UInt8.ofNat i ||| 0x80 = UInt8.ofNat (i + 128) := by
  decide +kernel

theorem toUInt8_mod (v : UInt32) : (v % 128).toUInt8 = .ofNat (v.toNat % 128) ∧
    (v % 128).toUInt8 ||| 0x80 = .ofNat (v.toNat % 128 + 128) := by
  have h : (v % 128).toUInt8 = .ofNat (v.toNat % 128) := UInt8.toNat_inj.1 (by simp)
  exact ⟨h, h ▸ low_table ⟨v.toNat % 128, Nat.mod_lt _ (by decide)⟩⟩

theorem appendLoop_eq (hk : 0 < k) (hv : v.toNat < 128 ^ k) (count : Nat) :
    appendLoop buffer v count =
      (count + (groups k v.toNat).length, buffer ++ groups k v.toNat) := by
  induction k generalizing buffer v count with
  | zero => exact absurd hk (Nat.lt_irrefl 0)
  | succ k ih =>
    obtain ⟨hlow, hhigh⟩ := toUInt8_mod v
    have hdiv : (v / 128).toNat = v.toNat / 128 := UInt32.toNat_div v 128
    have hzero : v / 128 = 0 ↔ v.toNat < 128 := by
      rw [← UInt32.toNat_inj, hdiv]
      show v.toNat / 128 = 0 ↔ _
      omega
    unfold appendLoop groups
    rw [hhigh, hlow]
    by_cases hlt : v.toNat < 128
    · rw [if_pos (hzero.2 hlt), if_pos hlt, Nat.mod_eq_of_lt hlt]
      rfl
    · have hrest : (v / 128).toNat < 128 ^ k := by rw [hdiv]; rw [Nat.pow_succ] at hv; omega
      have hk' : 0 < k := Nat.pos_of_ne_zero fun h => by subst h; simp at hv; omega
      rw [if_neg (mt hzero.1 hlt), if_neg hlt, ih hk' hrest, hdiv, List.length_cons,
        List.append_assoc]
      exact congrArg (·, _) (by omega)

/-- In place or not, the octets and the refusals are the same. -/
theorem append_eq (v : UInt32) (buffer : Bytes) : append v buffer =
    match write v with
    | .ok g => (.ok g.length, buffer ++ g)
    | .error e => (.error e, buffer) := by
  unfold append write
  split
  · rfl
  · have hlt : v.toNat < 128 ^ 4 := by simp only [max] at *; omega
    rw [appendLoop_eq (by decide) hlt, Nat.zero_add]

/-! ### What is written is read -/

theorem read_groups (hn : n ≤ max) (rest : Bytes) :
    read (groups 4 n ++ rest) = .ok (n, (groups 4 n).length) :=
  (form_groups (by decide) (by simp only [max] at hn; omega)).readGroups (length_groups 4 n)

/-- The loop finds the 32 bits again. -/
theorem readVarInt_groups (hv : v.toNat ≤ max) (rest : Bytes) :
    Cursor.readVarInt (groups 4 v.toNat ++ rest) = .ok (v, (groups 4 v.toNat).length) := by
  have hloop := Cursor.agrees_readVarInt (groups 4 v.toNat ++ rest)
  rw [read_groups hv] at hloop
  generalize Cursor.readVarInt (groups 4 v.toNat ++ rest) = r at hloop ⊢
  cases hloop with
  | ok h => exact congrArg Except.ok (Prod.ext (UInt32.toNat_inj.1 h.1) h.2)

/-- A number up to the largest that four groups hold is written in its shortest form, and read again
whatever follows; a larger one is refused, and nothing is written. What is read is decided by the
first four octets: they all say that another follows, and are too many or too few, or they spell a
number. The loops that read and write in place come to the same. -/
theorem numbers_in_groups :
    (∀ (v : UInt32) (buffer rest : Bytes), v.toNat ≤ 268435455 → ∃ g, 1 ≤ g.length ∧ g.length ≤ 4 ∧
      write v = .ok g ∧ Shortest v.toNat g ∧ append v buffer = (.ok g.length, buffer ++ g) ∧
      read (g ++ rest) = .ok (v.toNat, g.length) ∧
      Cursor.readVarInt (g ++ rest) = .ok (v, g.length)) ∧
    (∀ (v : UInt32) (buffer : Bytes), 268435455 < v.toNat → write v = .error .packetTooLarge ∧
      append v buffer = (.error .packetTooLarge, buffer)) ∧
    ∀ b : Bytes,
      (read b = .error .invalidRemainingLength ↔ 4 ≤ b.length ∧ ∀ o ∈ b.take 4, 128 ≤ o) ∧
      (read b = .error .insufficientData ↔ b.length < 4 ∧ ∀ o ∈ b, 128 ≤ o) ∧
      ((∃ n count, read b = .ok (n, count)) ↔ ∃ o ∈ b.take 4, o < 128) ∧
      (∀ n count, read b = .ok (n, count) ↔ count ≤ 4 ∧ Spelled b n count) ∧
      (∀ n count, read b = .ok (n, count) →
        n < 128 ^ count ∧ ∀ rest, read (b.take count ++ rest) = .ok (n, count)) ∧
      Cursor.Agrees (fun s t => s.1.toNat = t.1 ∧ s.2 = t.2) (Cursor.readVarInt b) (read b) := by
  refine ⟨fun v buffer rest hv => ?_, fun v buffer hv => ?_, fun b => ?_⟩
  · have hs := shortest_groups (by decide : 0 < 4) (by omega : v.toNat < 128 ^ 4)
    have hwrite : write v = .ok (groups 4 v.toNat) := if_neg (Nat.not_lt.2 hv)
    have happend : append v buffer = (.ok (groups 4 v.toNat).length, buffer ++ groups 4 v.toNat) := by
      rw [append_eq, hwrite]
    exact ⟨_, hs.1.length_pos, length_groups 4 _, hwrite, hs, happend, read_groups hv rest,
      readVarInt_groups hv rest⟩
  · have hwrite : write v = .error .packetTooLarge := if_pos hv
    exact ⟨hwrite, if_pos hv⟩
  · exact ⟨readGroups_eq_invalidRemainingLength, readGroups_eq_insufficientData, exists_read_eq_ok,
      fun n count => read_eq_ok_iff_spelled, fun n count => lt_pow_of_read,
      Cursor.agrees_readVarInt b⟩

end DeviceGateway.VarInt
