import DeviceGateway.Bytes
import DeviceGateway.Wire.Error

/-!
# Variable-length integers

A number below `128 ^ 4` is written in one to four octets, seven bits each, least significant
first; the high bit says that another octet follows. `VarInt.write` uses the shortest form and
`VarInt.read` accepts every form, padded with zero groups or not.
-/

namespace DeviceGateway.VarInt

/-- The largest number four groups of seven bits hold. -/
def max : Nat := 268435455

/-- The shortest form of `n` in at most `k` groups. -/
def groups : Nat → Nat → Bytes
  | 0, _ => []
  | k + 1, n => if n < 128 then [.ofNat n] else .ofNat (n % 128 + 128) :: groups k (n / 128)

def write (n : UInt32) : Except EncodeError Bytes :=
  if max < n.toNat then .error .packetTooLarge else .ok (groups 4 n.toNat)

/-- The number in the first at most `k` octets, and how many it took. -/
def readGroups : Nat → Bytes → Except DecodeError (Nat × Nat)
  | 0, _ => .error .invalidRemainingLength
  | _ + 1, [] => .error .insufficientData
  | k + 1, b :: rest =>
    if b < 128 then .ok (b.toNat, 1)
    else
      match readGroups k rest with
      | .ok (n, count) => .ok (b.toNat - 128 + 128 * n, count + 1)
      | .error e => .error e

/-- The number at the front of a byte string, and the count of its octets. -/
def read (b : Bytes) : Except DecodeError (Nat × Nat) := readGroups 4 b

theorem readGroups_count_pos {k n count : Nat} {b : Bytes} (h : readGroups k b = .ok (n, count)) :
    0 < count := by
  unfold readGroups at h
  split at h
  · cases h
  · cases h
  · split at h
    · cases h; exact Nat.one_pos
    · split at h
      · cases h; exact Nat.succ_pos _
      · cases h

end DeviceGateway.VarInt
