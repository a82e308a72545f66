import DeviceGateway.Proofs.Wire.VarInt
import DeviceGateway.Wire.Field

/-!
# Reading at positions

Octets can be read by index and by slice instead of off the front. Then a reader may make a step that
must not happen: an index or a slice that is not there, a number that outgrows its bound, a round of a
loop that takes nothing. Each of these is a `Cursor.Halt` of its own, apart from what a decoder refuses.

`Cursor.Agrees` says that a reader at positions comes to what a reader off the front comes to, and so
that it makes none of these steps. It holds of numbers, data and texts whatever the octets are
(`agrees_readU16`, `agrees_readBinary`, `agrees_readText`), and of variable-length integers
(`agrees_readVarInt`), whose loop carries a multiplier and a value in 32 bits: before the octet at `k`
the multiplier is `128 ^ k` and the value is smaller (`agrees_varIntLoop`).
-/

namespace DeviceGateway.Cursor

/-- What stops a reader at positions. -/
inductive Halt
  /-- an index or a slice reaches behind the octets -/
  | outOfBounds
  /-- a number is larger than it may get -/
  | overflow
  /-- a round of a loop takes no octet -/
  | standstill
  /-- the octets are refused -/
  | refused (e : DecodeError)
  deriving DecidableEq, Repr

/-! ### Accesses -/

def index (b : Bytes) (i : Nat) : Except Halt UInt8 :=
  match b[i]? with
  | some o => .ok o
  | none => .error .outOfBounds

/-- The octets from `i` on. -/
def tail (b : Bytes) (i : Nat) : Except Halt Bytes :=
  if i ≤ b.length then .ok (b.drop i) else .error .outOfBounds

/-- The octets from `i` on, those from `j` on left out. -/
def slice (b : Bytes) (i j : Nat) : Except Halt Bytes :=
  if i ≤ j ∧ j ≤ b.length then .ok ((b.take j).drop i) else .error .outOfBounds

/-- A sum that must not be larger than `limit`. -/
def add (limit : Nat) (x y : UInt32) : Except Halt UInt32 :=
  if x.toNat + y.toNat ≤ limit then .ok (x + y) else .error .overflow

/-- A product that must not be larger than `limit`. -/
def mul (limit : Nat) (x y : UInt32) : Except Halt UInt32 :=
  if x.toNat * y.toNat ≤ limit then .ok (x * y) else .error .overflow

/-! ### Fields -/

def readU16 (b : Bytes) : Except Halt UInt16 :=
  if b.length < 2 then .error (.refused .insufficientData)
  else do
    let hi ← index b 0
    let lo ← index b 1
    pure (.ofNat (hi.toNat * 256 + lo.toNat))

/-- The data, and the count of octets that it takes with its length. -/
def readBinary (b : Bytes) : Except Halt (Bytes × Nat) := do
  let n ← readU16 b
  let total := 2 + n.toNat
  if b.length < total then throw (.refused .insufficientData)
  let data ← slice b 2 total
  pure (data, total)

def readText (b : Bytes) : Except Halt (String × Nat) := do
  let (data, total) ← readBinary b
  match Utf8.decode? data with
  | none => throw (.refused .invalidUtf8)
  | some s =>
    if data.contains 0 then throw (.refused (.malformed .nullCharacter)) else pure (s, total)

/-! #### At a position, with the position behind -/

def readAt {α : Type} (read : Bytes → Except Halt (α × Nat)) (b : Bytes) (pos : Nat) :
    Except Halt (α × Nat) := do
  let (a, taken) ← read (← tail b pos)
  pure (a, pos + taken)

def u16At : Bytes → Nat → Except Halt (UInt16 × Nat) := readAt fun b => (readU16 b).map (·, 2)

def octetAt (b : Bytes) (pos : Nat) : Except Halt (UInt8 × Nat) :=
  match b[pos]? with
  | some o => .ok (o, pos + 1)
  | none => .error (.refused .insufficientData)

/-! ### Variable-length integers -/

/-- The loop from the octet at `pos` on. The value stays below `128 ^ 4`, the multiplier may reach it. -/
def varIntLoop (b : Bytes) (multiplier value : UInt32) (pos : Nat) : Except Halt (UInt32 × Nat) :=
  if _h : 4 ≤ pos then .error (.refused .invalidRemainingLength)
  else if b.length ≤ pos then .error (.refused .insufficientData)
  else do
    let o ← index b pos
    let part ← mul VarInt.max (o &&& 0x7F).toUInt32 multiplier
    let value ← add VarInt.max value part
    if o &&& 0x80 = 0 then pure (value, pos + 1)
    else
      let multiplier ← mul (VarInt.max + 1) multiplier 128
      varIntLoop b multiplier value (pos + 1)
termination_by 4 - pos

def readVarInt (b : Bytes) : Except Halt (UInt32 × Nat) := varIntLoop b 1 0 0

/-! ### Agreement -/

/-- `x` comes to what `y` comes to: to values that `R` relates, or to the same refusal. -/
inductive Agrees {α β : Type} (R : α → β → Prop) : Except Halt α → Except DecodeError β → Prop
  | ok {a : α} {c : β} (h : R a c) : Agrees R (.ok a) (.ok c)
  | refused (e : DecodeError) : Agrees R (.error (.refused e)) (.error e)

/-- The same value, and what is left of `b` is what is behind the position. -/
def Behind {α : Type} (b : Bytes) (s : α × Nat) (t : α × Bytes) : Prop :=
  s.1 = t.1 ∧ s.2 ≤ b.length ∧ t.2 = b.drop s.2

namespace Agrees

variable {α β γ δ : Type} {R : α → β → Prop} {S : γ → δ → Prop} {x : Except Halt α}
  {y : Except DecodeError β} {e : DecodeError} {P Q : Prop} [Decidable P] [Decidable Q]

/-- What is so of the same value and of the same refusal is so of any two that agree. -/
@[elab_as_elim]
theorem elim {motive : Except Halt α → Except DecodeError β → Prop} (h : Agrees R x y)
    (ok : ∀ a c, R a c → motive (.ok a) (.ok c))
    (refused : ∀ e, motive (.error (.refused e)) (.error e)) : motive x y := by
  cases h with
  | ok h => exact ok _ _ h
  | refused e => exact refused e

theorem mono {R' : α → β → Prop} (h : Agrees R x y) (hR : ∀ a c, R a c → R' a c) :
    Agrees R' x y := by
  cases h with
  | ok h => exact .ok (hR _ _ h)
  | refused e => exact .refused e

theorem bind {f : α → Except Halt γ} {g : β → Except DecodeError δ} (h : Agrees R x y)
    (hf : ∀ a c, R a c → Agrees S (f a) (g c)) : Agrees S (x >>= f) (y >>= g) := by
  cases h with
  | ok h => exact hf _ _ h
  | refused e => exact .refused e

theorem guard {f : γ → Except Halt α} {g : δ → Except DecodeError β} (hPQ : P ↔ Q)
    (hx : ¬ P → Agrees R x y) :
    Agrees R (if P then throw (.refused e) >>= f else x) (if Q then throw e >>= g else y) := by
  by_cases hP : P
  · rw [if_pos hP, if_pos (hPQ.1 hP)]
    exact .refused e
  · rw [if_neg hP, if_neg fun hQ => hP (hPQ.2 hQ)]
    exact hx hP

/-- Agreement on equal values leaves nothing open. -/
theorem eq_iff {x : Except Halt α} {y : Except DecodeError α} :
    Agrees Eq x y ↔ x = y.mapError .refused := by
  constructor
  · rintro (rfl | e) <;> rfl
  · rintro rfl
    cases y with
    | ok a => exact .ok rfl
    | error e => exact .refused e

theorem mapError (y : Except DecodeError α) : Agrees Eq (y.mapError .refused) y := eq_iff.2 rfl

end Agrees

/-! ### Fields agree -/

variable {b : Bytes} {pos i j : Nat}

theorem tail_of_le (h : pos ≤ b.length) : tail b pos = .ok (b.drop pos) := if_pos h

theorem slice_of_le (hi : i ≤ j) (hj : j ≤ b.length) : slice b i j = .ok ((b.take j).drop i) :=
  if_pos ⟨hi, hj⟩

/-- What is cut off behind a position is the slice there, if it is there. -/
theorem cut?_drop (n : Nat) (hpos : pos ≤ b.length) : Bytes.cut? n (b.drop pos) =
    if b.length < pos + n then none
    else some ((b.take (pos + n)).drop pos, b.drop (pos + n)) := by
  split
  · rw [Bytes.cut?_eq_none, List.length_drop]
    omega
  · rw [Bytes.cut?_eq_some, List.drop_take, List.length_take, List.length_drop, ← List.drop_drop]
    exact ⟨by rw [Nat.add_sub_cancel_left, List.take_append_drop], by omega⟩

theorem agrees_readU16 (b : Bytes) :
    Agrees (fun n t => n = t.1 ∧ 2 ≤ b.length ∧ t.2 = b.drop 2) (readU16 b) (Field.readU16 b) := by
  rcases b with _ | ⟨hi, _ | ⟨lo, rest⟩⟩
  · exact .refused _
  · exact .refused _
  · exact .ok ⟨rfl, by simp, rfl⟩

theorem agrees_readBinary (b : Bytes) : Agrees (Behind b) (readBinary b) (Field.readBinary b) := by
  unfold readBinary Field.readBinary
  refine (agrees_readU16 b).elim ?_ .refused
  rintro n ⟨_, _⟩ ⟨rfl, hlen, rfl⟩
  show Agrees _ (if b.length < 2 + n.toNat then _ else _) _
  dsimp only
  rw [cut?_drop _ hlen]
  by_cases hshort : b.length < 2 + n.toNat
  · rw [if_pos hshort, if_pos hshort]
    exact .refused _
  · rw [if_neg hshort, if_neg hshort, slice_of_le (Nat.le_add_right 2 _) (Nat.not_lt.1 hshort)]
    exact .ok ⟨rfl, Nat.not_lt.1 hshort, rfl⟩

theorem agrees_readText (b : Bytes) : Agrees (Behind b) (readText b) (Field.readText b) := by
  unfold readText Field.readText
  refine (agrees_readBinary b).elim ?_ .refused
  rintro ⟨data, pos⟩ ⟨_, _⟩ ⟨rfl, hpos, rfl⟩
  show Agrees _ (match Utf8.decode? data with | none => _ | some s => _) _
  dsimp only
  cases Utf8.decode? data with
  | none => exact .refused _
  | some s =>
    dsimp only
    split
    · exact .refused _
    · exact .ok ⟨rfl, hpos, rfl⟩

theorem agrees_readAt {α : Type} {read : Bytes → Except Halt (α × Nat)}
    {front : Bytes → Except DecodeError (α × Bytes)} (h : ∀ b, Agrees (Behind b) (read b) (front b))
    (hpos : pos ≤ b.length) : Agrees (Behind b) (readAt read b pos) (front (b.drop pos)) := by
  rw [readAt, tail_of_le hpos]
  show Agrees _ (read (b.drop pos) >>= _) _
  refine (h (b.drop pos)).elim ?_ .refused
  rintro ⟨a, taken⟩ ⟨_, _⟩ ⟨rfl, htaken, rfl⟩
  refine .ok ⟨rfl, ?_, List.drop_drop⟩
  have hlen : taken ≤ b.length - pos := List.length_drop ▸ htaken
  show pos + taken ≤ b.length
  omega

theorem agrees_u16At (hpos : pos ≤ b.length) :
    Agrees (Behind b) (u16At b pos) (Field.readU16 (b.drop pos)) :=
  agrees_readAt (fun b => (agrees_readU16 b).elim (fun _ _ h => .ok h) .refused) hpos

theorem agrees_octetAt (b : Bytes) (pos : Nat) :
    Agrees (Behind b) (octetAt b pos) (Field.readOctet (b.drop pos)) := by
  unfold octetAt
  by_cases hpos : pos < b.length
  · rw [List.getElem?_eq_getElem hpos, List.drop_eq_getElem_cons hpos]
    exact .ok ⟨rfl, hpos, rfl⟩
  · rw [List.getElem?_eq_none (Nat.not_lt.1 hpos), List.drop_eq_nil_of_le (Nat.not_lt.1 hpos)]
    exact .refused _

/-! ### Variable-length integers agree -/

theorem bits_table : ∀ i : Fin 256,
    let o := UInt8.ofNat i
    (o &&& 0x7F).toUInt32.toNat = o.toNat % 128 ∧ (o &&& 0x80 = 0 ↔ o < 128) := by
  decide +kernel

theorem bits_eq (o : UInt8) :
    (o &&& 0x7F).toUInt32.toNat = o.toNat % 128 ∧ (o &&& 0x80 = 0 ↔ o < 128) := by
  simpa using bits_table ⟨o.toNat, o.toNat_lt⟩

theorem add_of_le (limit : Nat) (x y : UInt32) (h : x.toNat + y.toNat ≤ limit)
    (hlimit : limit < UInt32.size) : ∃ z, add limit x y = .ok z ∧ z.toNat = x.toNat + y.toNat :=
  ⟨x + y, if_pos h, by rw [UInt32.toNat_add, Nat.mod_eq_of_lt (Nat.lt_of_le_of_lt h hlimit)]⟩

theorem mul_of_le (limit : Nat) (x y : UInt32) (h : x.toNat * y.toNat ≤ limit)
    (hlimit : limit < UInt32.size) : ∃ z, mul limit x y = .ok z ∧ z.toNat = x.toNat * y.toNat :=
  ⟨x * y, if_pos h, by rw [UInt32.toNat_mul, Nat.mod_eq_of_lt (Nat.lt_of_le_of_lt h hlimit)]⟩

/-- An octet adds at most 127 times the multiplier, which keeps the value below the next one. -/
theorem value_lt {value digit : Nat} (hpos : pos < 4) (hv : value < 128 ^ pos) (hd : digit < 128) :
    value + digit * 128 ^ pos < 128 ^ (pos + 1) ∧ 128 ^ (pos + 1) ≤ VarInt.max + 1 := by
  have hdigit : digit * 128 ^ pos ≤ 127 * 128 ^ pos := Nat.mul_le_mul_right _ (by omega)
  have hmax : 128 ^ (pos + 1) ≤ 128 ^ 4 := Nat.pow_le_pow_right (by decide) hpos
  exact ⟨by rw [Nat.pow_succ]; omega, hmax⟩

/-- What the loop carries before the octet at `pos`. -/
structure Carries (pos : Nat) (multiplier value : UInt32) : Prop where
  multiplier_eq : multiplier.toNat = 128 ^ pos
  value_lt : value.toNat < 128 ^ pos

/-- One round: the octet is there, both numbers stay within their bounds, and the loop either ends
behind the octet or goes on there. -/
theorem varIntLoop_round {multiplier value : UInt32} (hpos : pos < 4) (hlt : pos < b.length)
    (h : Carries pos multiplier value) : ∃ value',
      value'.toNat = value.toNat + b[pos].toNat % 128 * 128 ^ pos ∧
      (b[pos] < 128 → varIntLoop b multiplier value pos = .ok (value', pos + 1)) ∧
      (¬ b[pos] < 128 → ∃ multiplier', Carries (pos + 1) multiplier' value' ∧
        varIntLoop b multiplier value pos = varIntLoop b multiplier' value' (pos + 1)) := by
  have hindex : index b pos = .ok b[pos] := by rw [index, List.getElem?_eq_getElem hlt]
  obtain ⟨hlow, hhigh⟩ := bits_eq b[pos]
  -- `hnext` bounds the product and the sum, `hmax` the next multiplier
  obtain ⟨hnext, hmax⟩ := value_lt hpos h.value_lt (Nat.mod_lt b[pos].toNat (by decide : 0 < 128))
  obtain ⟨part, hmul, hpart⟩ := mul_of_le VarInt.max (b[pos] &&& 0x7F).toUInt32 multiplier
    (by rw [hlow, h.multiplier_eq]; omega) (by decide)
  rw [hlow, h.multiplier_eq] at hpart
  obtain ⟨value', hadd, hvalue⟩ := add_of_le VarInt.max value part
    (by rw [hpart]; omega) (by decide)
  rw [hpart] at hvalue
  obtain ⟨multiplier', hmul', hm⟩ := mul_of_le (VarInt.max + 1) multiplier 128
    (by rw [h.multiplier_eq]; exact Nat.pow_succ .. ▸ hmax) (by decide)
  rw [h.multiplier_eq] at hm
  have hround : varIntLoop b multiplier value pos =
      if b[pos] &&& 0x80 = 0 then .ok (value', pos + 1)
      else varIntLoop b multiplier' value' (pos + 1) := by
    rw [varIntLoop, dif_neg (Nat.not_le.2 hpos), if_neg (Nat.not_le.2 hlt), hindex]
    show (mul VarInt.max (b[pos] &&& 0x7F).toUInt32 multiplier >>= _) = _
    rw [hmul]
    show (add VarInt.max value part >>= _) = _
    rw [hadd]
    show (if b[pos] &&& 0x80 = 0 then _ else mul (VarInt.max + 1) multiplier 128 >>= _) = _
    rw [hmul']
    rfl
  refine ⟨value', hvalue, fun hlast => ?_, fun hlast => ⟨multiplier', ⟨hm, hvalue ▸ hnext⟩, ?_⟩⟩
  · rw [hround, if_pos (hhigh.2 hlast)]
  · rw [hround, if_neg (mt hhigh.1 hlast)]

/-- The loop spells the groups that are left, on top of its value. -/
theorem agrees_varIntLoop {multiplier value : UInt32} (hpos : pos ≤ 4)
    (h : Carries pos multiplier value) :
    Agrees (fun s t => s.1.toNat = value.toNat + 128 ^ pos * t.1 ∧ s.2 = pos + t.2)
      (varIntLoop b multiplier value pos) (VarInt.readGroups (4 - pos) (b.drop pos)) := by
  induction hk : 4 - pos generalizing pos multiplier value with
  | zero =>
    rw [varIntLoop, dif_pos (by omega)]
    exact .refused _
  | succ k ih =>
    by_cases hlt : pos < b.length
    · obtain ⟨value', hvalue, hends, hgoes⟩ := varIntLoop_round (by omega) hlt h
      rw [List.drop_eq_getElem_cons hlt, VarInt.readGroups]
      by_cases hlast : b[pos] < 128
      · rw [hends hlast, if_pos hlast]
        refine .ok ⟨?_, rfl⟩
        show value'.toNat = value.toNat + 128 ^ pos * b[pos].toNat
        rw [hvalue, Nat.mod_eq_of_lt (VarInt.toNat_lt_of_lt hlast), Nat.mul_comm]
      · obtain ⟨multiplier', h', heq⟩ := hgoes hlast
        have hrest := ih (by omega) h' (by omega)
        rw [heq, if_neg hlast]
        refine hrest.elim ?_ .refused
        rintro ⟨v, count⟩ ⟨n, count'⟩ ⟨hv, rfl⟩
        have hhigh := VarInt.le_toNat_of_not_lt hlast
        have hmod : b[pos].toNat % 128 = b[pos].toNat - 128 := by have := b[pos].toNat_lt; omega
        refine .ok ⟨?_, by dsimp only; omega⟩
        calc v.toNat
            = value.toNat + (b[pos].toNat - 128) * 128 ^ pos + 128 ^ (pos + 1) * n := by
              rw [← hmod, ← hvalue]; exact hv
          _ = value.toNat + 128 ^ pos * (b[pos].toNat - 128 + 128 * n) := by
              rw [Nat.pow_succ, Nat.mul_add, Nat.mul_comm _ (128 ^ pos), Nat.mul_assoc,
                Nat.add_assoc]
    · rw [varIntLoop, dif_neg (by omega), if_pos (Nat.not_lt.1 hlt),
        List.drop_eq_nil_of_le (Nat.not_lt.1 hlt)]
      exact .refused _

theorem agrees_readVarInt (b : Bytes) :
    Agrees (fun s t => s.1.toNat = t.1 ∧ s.2 = t.2) (readVarInt b) (VarInt.read b) := by
  have h : Agrees _ (varIntLoop b 1 0 0) (VarInt.readGroups 4 b) :=
    agrees_varIntLoop (Nat.zero_le 4) ⟨rfl, by decide⟩
  refine h.mono fun s t h => ?_
  simpa using h

end DeviceGateway.Cursor
