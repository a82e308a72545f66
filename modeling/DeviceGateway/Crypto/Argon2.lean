import DeviceGateway.Crypto.Blake2b

/-!
# Argon2

The memory-hard password hash in its three variants, and in the older version in which later passes
do not mix with what was there. `Argon2.hash` fills a memory of blocks of 1024 octets, slice by
slice in every lane, each block from the one before it and one earlier block.
-/

namespace DeviceGateway.Argon2

open Blake2b (littleEndian rotateRight)

inductive Variant
  /-- earlier blocks are chosen by what the memory holds -/
  | d
  /-- earlier blocks are chosen without looking at the memory -/
  | i
  /-- like `i` for the first half of the first pass, then like `d` -/
  | id
  deriving DecidableEq, Repr

namespace Variant

def number : Variant → Nat
  | d => 0
  | i => 1
  | id => 2

end Variant

inductive Version
  | v16
  | v19
  deriving DecidableEq, Repr

namespace Version

def number : Version → Nat
  | v16 => 16
  | v19 => 19

end Version

structure Params where
  /-- in units of 1024 octets -/
  memory : Nat
  passes : Nat
  lanes : Nat
  /-- the length of the hash -/
  length : Nat
  /-- data that goes into the hash besides password and salt -/
  associated : Bytes := []
  deriving DecidableEq, Repr

/-! ### Hashes of any length -/

/-- The part of a long hash behind its first halves; `fuel` bounds the number of halves. -/
def longTail : Nat → Nat → Bytes → Bytes
  | 0, _, _ => []
  | fuel + 1, n, v =>
    if n ≤ 64 then Blake2b.hash n v
    else
      let v := Blake2b.hash 64 v
      v.take 32 ++ longTail fuel (n - 32) v

/-- A hash of `n` octets. -/
def longHash (n : Nat) (b : Bytes) : Bytes :=
  let input := littleEndian 4 n ++ b
  if n ≤ 64 then Blake2b.hash n input
  else
    let v := Blake2b.hash 64 input
    v.take 32 ++ longTail n (n - 32) v

/-! ### Blocks -/

/-- A block of 128 words. -/
abbrev Block := Array UInt64

def zeroBlock : Block := Array.replicate 128 0

def blockOf (b : Bytes) : Block := (Blake2b.words 128 b).toArray

def Block.toBytes (b : Block) : Bytes := b.toList.flatMap fun w => littleEndian 8 w.toNat

def xorBlock (a b : Block) : Block := a.zipWith (· ^^^ ·) b

/-- A sum with twice the product of the lower halves. -/
def multiplyAdd (x y : UInt64) : UInt64 := x + y + 2 * (x &&& 0xFFFFFFFF) * (y &&& 0xFFFFFFFF)

/-- Mixes four words. -/
def mix (v : Block) (a b c d : Nat) : Block :=
  let va := multiplyAdd (v.getD a 0) (v.getD b 0)
  let vd := rotateRight (v.getD d 0 ^^^ va) 32
  let vc := multiplyAdd (v.getD c 0) vd
  let vb := rotateRight (v.getD b 0 ^^^ vc) 24
  let va := multiplyAdd va vb
  let vd := rotateRight (vd ^^^ va) 16
  let vc := multiplyAdd vc vd
  let vb := rotateRight (vb ^^^ vc) 63
  (((v.setIfInBounds a va).setIfInBounds b vb).setIfInBounds c vc).setIfInBounds d vd

/-- Mixes the sixteen words at the places `at_ 0`, …, `at_ 15`. -/
def permute (at_ : Nat → Nat) (v : Block) : Block :=
  Blake2b.quarters.foldl (fun v (a, b, c, d) => mix v (at_ a) (at_ b) (at_ c) (at_ d)) v

/-- The block from two others: the rows of their sum are mixed, then the columns of pairs. -/
def compress (a b : Block) : Block :=
  let r := xorBlock a b
  let rows := (List.range 8).foldl (fun v i => permute (16 * i + ·) v) r
  let columns := (List.range 8).foldl (fun v i =>
    permute (fun j => 16 * (j / 2) + 2 * i + j % 2) v) rows
  xorBlock columns r

/-! ### Filling the memory -/

/-- What stays the same while the memory is filled. -/
structure Plan where
  variant : Variant
  version : Version
  params : Params
  /-- the number of blocks in a quarter of a lane -/
  segment : Nat

namespace Plan

def lane (p : Plan) : Nat := 4 * p.segment

def blocks (p : Plan) : Nat := p.params.lanes * p.lane

end Plan

/-- A segment of the memory: a quarter of a lane in one pass. -/
structure Position where
  pass : Nat
  lane : Nat
  slice : Nat

/-- Whether a segment chooses earlier blocks without looking at the memory. -/
def Position.blind (v : Variant) (p : Position) : Bool :=
  match v with
  | .d => false
  | .i => true
  | .id => p.pass = 0 && p.slice < 2

/-- The block of choices for the blocks `128 n`, …, `128 n + 127` of a segment. -/
def choices (plan : Plan) (p : Position) (n : Nat) : Block :=
  let fields :=
    [p.pass, p.lane, p.slice, plan.blocks, plan.params.passes, plan.variant.number, n + 1]
  let input := (fields.map UInt64.ofNat ++ List.replicate 121 0).toArray
  compress zeroBlock (compress zeroBlock input)

/-- The place of the earlier block that a choice stands for, for block `i` of a segment. -/
def chosen (plan : Plan) (p : Position) (i : Nat) (choice : UInt64) : Nat :=
  let lane :=
    if p.pass = 0 ∧ p.slice = 0 then p.lane else (choice.toNat / UInt32.size) % plan.params.lanes
  let before := if lane = p.lane then i else if i = 0 then 0 else 1
  let finished := (if p.pass = 0 then p.slice else 3) * plan.segment
  let area := if lane = p.lane then finished + before - 1 else finished - (1 - before)
  let j := choice.toNat % UInt32.size
  let x := area * (j * j / UInt32.size) / UInt32.size
  let start := if p.pass = 0 ∨ p.slice = 3 then 0 else (p.slice + 1) * plan.segment
  lane * plan.lane + (start + (area - 1 - x)) % plan.lane

/-- Fills block `i` of a segment. -/
def fillBlock (plan : Plan) (p : Position) (blind : List Block) (memory : Array Block) (i : Nat) :
    Array Block :=
  let column := p.slice * plan.segment + i
  let here := p.lane * plan.lane + column
  let previous := p.lane * plan.lane + (if column = 0 then plan.lane else column) - 1
  let old := memory.getD previous zeroBlock
  let choice :=
    match blind[i / 128]? with
    | some b => b.getD (i % 128) 0
    | none => old.getD 0 0
  let new := compress old (memory.getD (chosen plan p i choice) zeroBlock)
  memory.modify here fun b =>
    if p.pass = 0 ∨ plan.version = .v16 then new else xorBlock new b

/-- Fills a segment; the first two blocks of a lane are there from the start. -/
def fillSegment (plan : Plan) (memory : Array Block) (p : Position) : Array Block :=
  let blind :=
    if p.blind plan.variant then (List.range ((plan.segment + 127) / 128)).map (choices plan p)
    else []
  let first := if p.pass = 0 ∧ p.slice = 0 then 2 else 0
  (List.range' first (plan.segment - first)).foldl (fillBlock plan p blind) memory

/-- The segments in the order in which they are filled. -/
def positions (plan : Plan) : List Position :=
  (List.range plan.params.passes).flatMap fun pass =>
    (List.range 4).flatMap fun slice =>
      (List.range plan.params.lanes).map fun lane => ⟨pass, lane, slice⟩

/-- The hash from which the first blocks are made. -/
def seed (plan : Plan) (password salt : Bytes) : Bytes :=
  let p := plan.params
  Blake2b.hash 64 <|
    [p.lanes, p.length, p.memory, p.passes, plan.version.number, plan.variant.number].flatMap
        (littleEndian 4) ++
      littleEndian 4 password.length ++ password ++ littleEndian 4 salt.length ++ salt ++
      littleEndian 4 0 ++ littleEndian 4 p.associated.length ++ p.associated

/-- The memory with the first two blocks of every lane. -/
def start (plan : Plan) (seed : Bytes) : Array Block :=
  (List.range plan.blocks).toArray.map fun n =>
    if n % plan.lane < 2 then
      let place := littleEndian 4 (n % plan.lane) ++ littleEndian 4 (n / plan.lane)
      blockOf (longHash 1024 (seed ++ place))
    else zeroBlock

def hash (variant : Variant) (version : Version) (p : Params) (password salt : Bytes) : Bytes :=
  let plan : Plan := ⟨variant, version, p, p.memory / (4 * p.lanes)⟩
  let memory := (positions plan).foldl (fillSegment plan) (start plan (seed plan password salt))
  let last := (List.range p.lanes).foldl (fun b lane =>
    xorBlock b (memory.getD (lane * plan.lane + plan.lane - 1) zeroBlock)) zeroBlock
  longHash p.length last.toBytes

end DeviceGateway.Argon2
