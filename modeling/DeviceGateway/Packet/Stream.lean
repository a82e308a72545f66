import DeviceGateway.Packet.Decode

/-!
# Packets in a stream

A buffer is drained by taking packets off its front until none is complete or one is wrong. Every
packet takes at least two octets (`Packet.two_le_of_decode`), so draining ends.
-/

namespace DeviceGateway

namespace Packet

variable {limit n : Nat} {b : Bytes} {p : Packet}

theorem two_le_of_decode (h : decode limit b = .ok (some (p, n))) : 2 ≤ n := by
  unfold decode at h
  split at h
  · split at h
    · cases h
    · cases h
    · rename_i remaining count hr
      have := VarInt.readGroups_count_pos hr
      split at h
      · cases h
      · split at h
        · cases h
        · split at h
          · cases h
          · cases h; omega
  · cases h

theorem ne_nil_of_decode (h : decode limit b = .ok (some (p, n))) : b ≠ [] := by
  rintro rfl
  simp [decode] at h

end Packet

/-- What draining a buffer gives. -/
structure Drained where
  packets : List Packet
  /-- the octets that belong to no packet yet, or that are wrong -/
  rest : Bytes
  failure : Option DecodeError := none
  deriving Repr

namespace Drained

/-- Drains `b` behind the packets `before`, last first. -/
def after (limit : Nat) (before : List Packet) (b : Bytes) : Drained :=
  match _h : Packet.decode limit b with
  | .error e => ⟨before.reverse, b, some e⟩
  | .ok none => ⟨before.reverse, b, none⟩
  | .ok (some (p, n)) => after limit (p :: before) (b.drop n)
termination_by b.length
decreasing_by
  have h1 := Packet.two_le_of_decode _h
  have h2 := List.length_pos_iff.2 (Packet.ne_nil_of_decode _h)
  simp only [List.length_drop]; omega

/-- All packets at the front of a buffer. -/
def ofBuffer (limit : Nat) (b : Bytes) : Drained := after limit [] b

end Drained

end DeviceGateway
