import DeviceGateway.Wire.VarInt
import Mathlib.Data.Nat.Basic
import Mathlib.Algebra.Order.Ring.Nat

/-!
# Forms of a variable-length integer

`VarInt.Form n g`: the octets `g` spell the number `n`, seven bits each, least significant first, and
all but the last have the high bit set. A number has one form of each length from its shortest on,
the longer ones padded with zero groups. `VarInt.read` reads the forms of at most four octets
(`read_eq_ok`), and `VarInt.groups` writes the shortest (`shortest_iff`). Where nothing is read, every
octet announced another: they are too few yet (`readGroups_eq_insufficientData`) or too many
(`readGroups_eq_invalidRemainingLength`).
-/

namespace DeviceGateway.VarInt

/-- `g` spells `n` in groups of seven bits. -/
inductive Form : Nat → Bytes → Prop
  | last (b : UInt8) (hb : b < 128) : Form b.toNat [b]
  | more (b : UInt8) {n : Nat} {g : Bytes} (hb : ¬ b < 128) (hg : Form n g) :
    Form (b.toNat - 128 + 128 * n) (b :: g)

/-- `g` spells `n`, and nothing shorter does. -/
def Shortest (n : Nat) (g : Bytes) : Prop := Form n g ∧ ∀ g', Form n g' → g.length ≤ g'.length

variable {n m k count : Nat} {g g' b rest : Bytes} {e : DecodeError}

theorem toNat_lt_of_lt {b : UInt8} (hb : b < 128) : b.toNat < 128 := UInt8.lt_iff_toNat_lt.1 hb

theorem le_toNat_of_not_lt {b : UInt8} (hb : ¬ b < 128) : 128 ≤ b.toNat :=
  Nat.not_lt.1 fun h => hb (UInt8.lt_iff_toNat_lt.2 h)

namespace Form

theorem length_pos (hg : Form n g) : 0 < g.length := by
  cases hg <;> exact Nat.succ_pos _

theorem lt_pow (hg : Form n g) : n < 128 ^ g.length := by
  induction hg with
  | last b hb => simpa using toNat_lt_of_lt hb
  | more b hb hg ih =>
    have h := b.toNat_lt
    rw [List.length_cons, Nat.pow_succ]
    omega

/-- Forms of one length differ where the numbers do. -/
theorem eq_of_length_eq (hg : Form n g) (hg' : Form m g') (hn : n = m)
    (hl : g.length = g'.length) : g = g' := by
  induction hg generalizing m g' with
  | last b hb =>
    cases hg' with
    | last b' hb' => rw [UInt8.toNat_inj.1 hn]
    | more b' hb' hg' => exact absurd hg'.length_pos (by simp at hl; simp [← hl])
  | more b hb hg ih =>
    cases hg' with
    | last b' hb' => exact absurd hg.length_pos (by simp at hl; simp [hl])
    | more b' hb' hg' =>
      have h1 := le_toNat_of_not_lt hb
      have h2 := le_toNat_of_not_lt hb'
      have h3 := b.toNat_lt
      have h4 := b'.toNat_lt
      rw [ih hg' (by omega) (Nat.succ.inj hl), UInt8.toNat_inj.1 (show b.toNat = b'.toNat by omega)]

end Form

/-! ### Reading -/

theorem Form.readGroups (hg : Form n g) (hk : g.length ≤ k) :
    readGroups k (g ++ rest) = .ok (n, g.length) := by
  induction hg generalizing k with
  | last b hb =>
    cases k with
    | zero => cases hk
    | succ k => simp [VarInt.readGroups, hb]
  | more b hb hg ih =>
    cases k with
    | zero => cases hk
    | succ k => simp [VarInt.readGroups, hb, ih (Nat.le_of_succ_le_succ hk)]

theorem form_of_readGroups (h : readGroups k b = .ok (n, count)) :
    ∃ g rest, b = g ++ rest ∧ g.length = count ∧ count ≤ k ∧ Form n g := by
  fun_induction VarInt.readGroups k b generalizing n count with
  | case1 => cases h
  | case2 => cases h
  | case3 k b rest hb =>
    cases h
    exact ⟨[b], rest, rfl, rfl, Nat.succ_pos k, .last b hb⟩
  | case4 k b rest hb m c hr ih =>
    cases h
    obtain ⟨g, r, rfl, rfl, hle, hg⟩ := ih hr
    exact ⟨b :: g, r, rfl, rfl, Nat.succ_le_succ hle, .more b hb hg⟩
  | case5 => cases h

/-- What is read is a form, and every form of at most four octets is read. -/
theorem read_eq_ok : read b = .ok (n, count) ↔
    ∃ g rest, b = g ++ rest ∧ g.length = count ∧ count ≤ 4 ∧ Form n g := by
  constructor
  · exact form_of_readGroups
  · rintro ⟨g, rest, rfl, rfl, hk, hg⟩
    exact hg.readGroups hk

/-! ### Octets that all announce another -/

theorem readGroups_eq_insufficientData : readGroups k b = .error .insufficientData ↔
    b.length < k ∧ ∀ o ∈ b, 128 ≤ o := by
  fun_induction VarInt.readGroups k b with
  | case1 => simp
  | case2 => simp
  | case3 k o rest ho => simp [ho]
  | case4 k o rest ho n count hr ih =>
    rw [hr] at ih
    simpa [UInt8.not_lt.1 ho] using ih
  | case5 k o rest ho e hr ih =>
    rw [hr] at ih
    simpa [UInt8.not_lt.1 ho] using ih

theorem readGroups_eq_invalidRemainingLength : readGroups k b = .error .invalidRemainingLength ↔
    k ≤ b.length ∧ ∀ o ∈ b.take k, 128 ≤ o := by
  fun_induction VarInt.readGroups k b with
  | case1 => simp
  | case2 => simp
  | case3 k o rest ho => simp [ho]
  | case4 k o rest ho n count hr ih =>
    rw [hr] at ih
    simpa [UInt8.not_lt.1 ho] using ih
  | case5 k o rest ho e hr ih =>
    rw [hr] at ih
    simpa [UInt8.not_lt.1 ho] using ih

theorem eq_of_readGroups_eq_error (h : readGroups k b = .error e) :
    e = .insufficientData ∨ e = .invalidRemainingLength := by
  fun_induction VarInt.readGroups k b with
  | case1 => exact .inr (Except.error.inj h).symm
  | case2 => exact .inl (Except.error.inj h).symm
  | case3 => cases h
  | case4 => cases h
  | case5 k o rest ho e' hr ih => exact ih (Except.error.inj h ▸ hr)

/-! ### The shortest form -/

theorem length_groups (k n : Nat) : (groups k n).length ≤ k := by
  induction k generalizing n with
  | zero => exact Nat.le_refl 0
  | succ k ih =>
    unfold groups
    split
    · simp
    · exact Nat.succ_le_succ (ih _)

theorem form_groups (hk : 0 < k) (hn : n < 128 ^ k) : Form n (groups k n) := by
  induction k generalizing n with
  | zero => exact absurd hk (Nat.lt_irrefl 0)
  | succ k ih =>
    unfold groups
    split
    · have hb : (UInt8.ofNat n).toNat = n := UInt8.toNat_ofNat_of_lt' (by simp [UInt8.size]; omega)
      have h := Form.last (UInt8.ofNat n) (UInt8.lt_iff_toNat_lt.2 (hb.symm ▸ ‹n < 128›))
      rwa [hb] at h
    · have hb : (UInt8.ofNat (n % 128 + 128)).toNat = n % 128 + 128 :=
        UInt8.toNat_ofNat_of_lt' (by simp [UInt8.size]; omega)
      have hk' : 0 < k := Nat.pos_of_ne_zero fun h => by subst h; simp at hn; omega
      have hdiv : n / 128 < 128 ^ k := by rw [Nat.pow_succ] at hn; omega
      have h := Form.more (UInt8.ofNat (n % 128 + 128))
        (fun h => by have := UInt8.lt_iff_toNat_lt.1 h; rw [hb] at this; simp at this)
        (ih hk' hdiv)
      rwa [hb, show n % 128 + 128 - 128 + 128 * (n / 128) = n by omega] at h

theorem length_groups_le (hg : Form n g) : (groups k n).length ≤ g.length := by
  induction hg generalizing k with
  | last b hb =>
    cases k with
    | zero => exact Nat.zero_le _
    | succ k => simp [groups, toNat_lt_of_lt hb]
  | @more b n g hb hg ih =>
    cases k with
    | zero => exact Nat.zero_le _
    | succ k =>
      have h := b.toNat_lt
      unfold groups
      split
      · simp
      · rw [show (b.toNat - 128 + 128 * n) / 128 = n by omega]
        exact Nat.succ_le_succ ih

theorem shortest_groups (hk : 0 < k) (hn : n < 128 ^ k) : Shortest n (groups k n) :=
  ⟨form_groups hk hn, fun _ => length_groups_le⟩

/-- A number has one shortest form, and it is the one that is written. -/
theorem shortest_iff (hn : n ≤ max) : Shortest n g ↔ g = groups 4 n := by
  have hlt : n < 128 ^ 4 := by simp only [max] at hn; omega
  have hs := shortest_groups (by decide) hlt
  constructor
  · rintro ⟨hg, hmin⟩
    exact hg.eq_of_length_eq hs.1 rfl (Nat.le_antisymm (hmin _ hs.1) (hs.2 _ hg))
  · rintro rfl
    exact hs

end DeviceGateway.VarInt
