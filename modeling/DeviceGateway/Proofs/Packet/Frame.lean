import DeviceGateway.Packet.Decode
import DeviceGateway.Proofs.Packet.Reads
import DeviceGateway.Proofs.Wire.VarInt

/-!
# Frames

A frame is a first octet, a body, and between them the length of the body in one of its forms of at
most four octets. `Packet.decode_eq_some_iff`: a packet is taken off a buffer exactly when the buffer
starts with a frame whose body is not longer than the limit and that packet's, and the count is that
of the frame's octets. What is behind the frame has no part in it.
-/

namespace DeviceGateway

structure Frame where
  first : UInt8
  length : Bytes
  body : Bytes
  form : VarInt.Form body.length length
  length_le : length.length ≤ 4

namespace Frame

/-- The octets of a frame in order. -/
def octets (f : Frame) : Bytes := f.first :: (f.length ++ f.body)

theorem length_octets (f : Frame) : f.octets.length = 1 + f.length.length + f.body.length := by
  rw [octets, List.length_cons, List.length_append]
  omega

/-- Four octets of length bound the body. -/
theorem length_body_le (f : Frame) : f.body.length ≤ VarInt.max := by
  have h : 128 ^ f.length.length ≤ 128 ^ 4 := Nat.pow_le_pow_right (by decide) f.length_le
  have := f.form.lt_pow
  simp only [VarInt.max]
  omega

theorem octets_append (f : Frame) (rest : Bytes) :
    f.octets ++ rest = f.first :: (f.length ++ (f.body ++ rest)) := by
  rw [octets, List.cons_append, List.append_assoc]

theorem read_length (f : Frame) (rest : Bytes) :
    VarInt.read (f.length ++ rest) = .ok (f.body.length, f.length.length) :=
  VarInt.read_eq_ok.2 ⟨f.length, rest, rfl, rfl, f.length_le, f.form⟩

/-! What stands where in a buffer that starts with a frame. -/

theorem read_drop (f : Frame) (rest : Bytes) :
    VarInt.read ((f.octets ++ rest).drop 1) = .ok (f.body.length, f.length.length) := by
  rw [octets_append]
  exact f.read_length _

theorem take_drop_one (f : Frame) (rest : Bytes) :
    ((f.octets ++ rest).drop 1).take f.length.length = f.length := by
  rw [octets_append]
  exact List.take_left

theorem drop_take (f : Frame) (rest : Bytes) :
    ((f.octets ++ rest).take f.octets.length).drop (1 + f.length.length) = f.body := by
  rw [List.take_left, Nat.add_comm, octets, List.drop_succ_cons, List.drop_left]

end Frame

namespace Packet

variable {limit n : Nat} {buf : Bytes} {p : Packet}

theorem frame_of_decode (h : decode limit buf = .ok (some (p, n))) :
    ∃ (f : Frame) (rest : Bytes), buf = f.octets ++ rest ∧ f.body.length ≤ limit ∧
      n = f.octets.length ∧ decodeBody f.first f.body = .ok p := by
  unfold decode at h
  split at h
  · rename_i first x xs
    split at h
    · cases h
    · cases h
    · rename_i r k hr
      split at h
      · cases h
      · split at h
        · cases h
        · rename_i body rest hcut
          split at h
          · cases h
          · rename_i q hq
            obtain ⟨rfl, rfl⟩ := Prod.mk.inj (Option.some.inj (Except.ok.inj h))
            obtain ⟨g, b, hb, rfl, hk, hg⟩ := VarInt.read_eq_ok.1 hr
            rw [hb, List.drop_left] at hcut
            obtain ⟨rfl, rfl⟩ := Bytes.cut?_eq_some.1 hcut
            let f : Frame := ⟨first, g, body, hg, hk⟩
            refine ⟨f, rest, ?_, Nat.not_lt.1 ‹_›, f.length_octets.symm, hq⟩
            rw [hb, f.octets_append]
  · cases h

theorem decode_of_read {first : UInt8} {b body rest : Bytes} {r k : Nat}
    (hread : VarInt.read b = .ok (r, k)) (hr : r ≤ limit)
    (hcut : Bytes.cut? r (b.drop k) = some (body, rest)) (hp : decodeBody first body = .ok p) :
    decode limit (first :: b) = .ok (some (p, 1 + k + r)) := by
  cases b with
  | nil => cases hread
  | cons x xs => simp only [decode, hread, if_neg (Nat.not_lt.2 hr), hcut, hp]

theorem decode_frame {f : Frame} (hf : f.body.length ≤ limit) (hp : decodeBody f.first f.body = .ok p)
    (rest : Bytes) : decode limit (f.octets ++ rest) = .ok (some (p, f.octets.length)) := by
  have hcut : Bytes.cut? f.body.length ((f.length ++ (f.body ++ rest)).drop f.length.length) =
      some (f.body, rest) := by
    rw [List.drop_left, Bytes.cut?_append _ _ _ rfl]
  rw [f.octets_append, f.length_octets]
  exact decode_of_read (f.read_length _) hf hcut hp

theorem decode_eq_some_iff : decode limit buf = .ok (some (p, n)) ↔
    ∃ (f : Frame) (rest : Bytes), buf = f.octets ++ rest ∧ f.body.length ≤ limit ∧
      n = f.octets.length ∧ decodeBody f.first f.body = .ok p := by
  constructor
  · exact frame_of_decode
  · rintro ⟨f, rest, rfl, hf, rfl, hp⟩
    exact decode_frame hf hp rest

end Packet

end DeviceGateway
