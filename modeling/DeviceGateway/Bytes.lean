/-!
# Byte strings

A byte string is a list of octets. `Bytes.cut?` takes an exact number of octets off the front; it
looks at no more octets than it is asked for, so cutting a short frame off a long buffer is cheap.
`Bytes.cut?_eq_some` and `Bytes.cut?_eq_none` say what it does.
-/

namespace DeviceGateway

abbrev Bytes := List UInt8

namespace Bytes

variable {n : Nat} {b front rest : Bytes}

/-- The first `n` octets and the rest, when there are that many. -/
def cut? (n : Nat) (b : Bytes) : Option (Bytes × Bytes) :=
  if (b.take n).length = n then some (b.take n, b.drop n) else none

theorem cut?_eq_some : cut? n b = some (front, rest) ↔ b = front ++ rest ∧ front.length = n := by
  unfold cut?
  constructor
  · intro h
    split at h
    · simp only [Option.some.injEq, Prod.mk.injEq] at h
      obtain ⟨rfl, rfl⟩ := h
      exact ⟨(List.take_append_drop n b).symm, ‹_›⟩
    · cases h
  · rintro ⟨rfl, rfl⟩
    simp

theorem cut?_eq_none : cut? n b = none ↔ b.length < n := by
  unfold cut?
  simp only [List.length_take]
  split <;> simp <;> omega

theorem cut?_append (n : Nat) (front rest : Bytes) (h : front.length = n) :
    cut? n (front ++ rest) = some (front, rest) :=
  cut?_eq_some.2 ⟨rfl, h⟩

end Bytes

end DeviceGateway
