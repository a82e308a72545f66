import DeviceGateway.Bytes

/-!
# BLAKE2b

The hash function on words of 64 bits, without a key. `Blake2b.hash n` gives `n` octets, at most 64.
-/

namespace DeviceGateway.Blake2b

/-- Eight or sixteen words. -/
abbrev Words := Array UInt64

def rotateRight (x : UInt64) (n : UInt64) : UInt64 := (x >>> n) ||| (x <<< (64 - n))

/-- The least significant octet first, in `n` octets. -/
def littleEndian (n : Nat) (v : Nat) : Bytes :=
  (List.range n).map fun i => .ofNat (v >>> (8 * i))

/-- The word of eight octets, least significant first. -/
def wordOf (b : Bytes) : UInt64 := b.foldr (fun o w => (w <<< 8) ||| o.toUInt64) 0

/-- A byte string as words, the last filled up with zeros. -/
def words : Nat → Bytes → List UInt64
  | 0, _ => []
  | n + 1, b => wordOf (b.take 8) :: words n (b.drop 8)

def initial : Words :=
  #[0x6a09e667f3bcc908, 0xbb67ae8584caa73b, 0x3c6ef372fe94f82b, 0xa54ff53a5f1d36f1,
    0x510e527fade682d1, 0x9b05688c2b3e6c1f, 0x1f83d9abfb41bd6b, 0x5be0cd19137e2179]

/-- The orders in which the rounds take the words of a block; the eleventh and twelfth round begin
again. -/
def schedule : List (List Nat) :=
  [[0, 1, 2, 3, 4, 5, 6, 7, 8, 9, 10, 11, 12, 13, 14, 15],
    [14, 10, 4, 8, 9, 15, 13, 6, 1, 12, 0, 2, 11, 7, 5, 3],
    [11, 8, 12, 0, 5, 2, 15, 13, 10, 14, 3, 6, 7, 1, 9, 4],
    [7, 9, 3, 1, 13, 12, 11, 14, 2, 6, 5, 10, 4, 0, 15, 8],
    [9, 0, 5, 7, 2, 4, 10, 15, 14, 1, 11, 12, 6, 8, 3, 13],
    [2, 12, 6, 10, 0, 11, 8, 3, 4, 13, 7, 5, 15, 14, 1, 9],
    [12, 5, 1, 15, 14, 13, 4, 10, 0, 7, 6, 3, 9, 2, 8, 11],
    [13, 11, 7, 14, 12, 1, 3, 9, 5, 0, 15, 4, 8, 6, 2, 10],
    [6, 15, 14, 9, 11, 3, 0, 8, 12, 2, 13, 7, 1, 4, 10, 5],
    [10, 2, 8, 4, 7, 6, 1, 5, 15, 11, 9, 14, 3, 12, 13, 0],
    [0, 1, 2, 3, 4, 5, 6, 7, 8, 9, 10, 11, 12, 13, 14, 15],
    [14, 10, 4, 8, 9, 15, 13, 6, 1, 12, 0, 2, 11, 7, 5, 3]]

/-- Mixes two words of a block into four of the state. -/
def mix (v : Words) (a b c d : Nat) (x y : UInt64) : Words :=
  let va := v.getD a 0 + v.getD b 0 + x
  let vd := rotateRight (v.getD d 0 ^^^ va) 32
  let vc := v.getD c 0 + vd
  let vb := rotateRight (v.getD b 0 ^^^ vc) 24
  let va := va + vb + y
  let vd := rotateRight (vd ^^^ va) 16
  let vc := vc + vd
  let vb := rotateRight (vb ^^^ vc) 63
  (((v.setIfInBounds a va).setIfInBounds b vb).setIfInBounds c vc).setIfInBounds d vd

/-- The words that are mixed together in a round: the columns, then the diagonals. -/
def quarters : List (Nat × Nat × Nat × Nat) :=
  [(0, 4, 8, 12), (1, 5, 9, 13), (2, 6, 10, 14), (3, 7, 11, 15),
    (0, 5, 10, 15), (1, 6, 11, 12), (2, 7, 8, 13), (3, 4, 9, 14)]

def round (block : Words) (v : Words) (order : List Nat) : Words :=
  (quarters.zipIdx).foldl (fun v ((a, b, c, d), i) =>
    mix v a b c d (block.getD (order.getD (2 * i) 0) 0) (block.getD (order.getD (2 * i + 1) 0) 0)) v

/-- Takes a block of 128 octets into the state. `count` is that of the octets so far. -/
def compress (h : Words) (block : Bytes) (count : Nat) (last : Bool) : Words :=
  let m := (words 16 block).toArray
  let v := h ++ initial
  let v := v.modify 12 (· ^^^ .ofNat count)
  let v := v.modify 13 (· ^^^ .ofNat (count / UInt64.size))
  let v := if last then v.modify 14 (~~~ ·) else v
  let v := schedule.foldl (round m) v
  h.mapIdx fun i x => x ^^^ v.getD i 0 ^^^ v.getD (i + 8) 0

/-- Takes blocks into the state; `fuel` bounds their number. -/
def absorb : Nat → Words → Nat → Bytes → Words
  | 0, h, _, _ => h
  | fuel + 1, h, count, b =>
    match b.drop 128 with
    | [] => compress h b (count + b.length) true
    | rest => absorb fuel (compress h (b.take 128) (count + 128) false) (count + 128) rest

/-- The hash of `n` octets. -/
def hash (n : Nat) (b : Bytes) : Bytes :=
  let start := initial.modify 0 (· ^^^ .ofNat (0x01010000 + n))
  ((absorb (b.length + 1) start 0 b).toList.flatMap fun w => littleEndian 8 w.toNat).take n

end DeviceGateway.Blake2b
