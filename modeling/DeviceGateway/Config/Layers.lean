import DeviceGateway.Config.Tree

/-!
# Layers of a configuration

Layers are laid over each other from the defaults up. `Tree.set` lays a value over a tree at a path
such as `server.tls.cert` or `auth.users[0]`: tables are merged key by key, anything else replaces
what was there, and what the path needs on its way is made.
-/

namespace DeviceGateway.Config

/-- A step of a path. -/
inductive Step
  | key (name : String)
  /-- a place in a list, counted from the end if it is negative -/
  | place (i : Int)
  deriving DecidableEq, Repr

namespace Step

def isNameChar (c : Char) : Bool := c.isAlphanum || c = '_' || c = '-'

/-- A name at the front of a path. -/
def readName (cs : List Char) : Option (Step × List Char) :=
  match cs.takeWhile isNameChar with
  | [] => none
  | name => some (.key (String.ofList name), cs.dropWhile isNameChar)

/-- The characters without the spaces and tabs around them. -/
def trimmed (cs : List Char) : List Char :=
  let isSpace (c : Char) : Bool := c = ' ' || c = '\t'
  ((cs.dropWhile isSpace).reverse.dropWhile isSpace).reverse

/-- The steps behind the first name; `fuel` bounds their number. -/
def readRest : Nat → List Char → Option (List Step)
  | _, [] => some []
  | 0, _ => none
  | fuel + 1, '.' :: cs => do
    let (s, cs) ← readName cs
    return s :: (← readRest fuel cs)
  | fuel + 1, '[' :: cs =>
    let inside := trimmed (cs.takeWhile (· ≠ ']'))
    match cs.dropWhile (· ≠ ']'), inside.head? with
    | ']' :: rest, some c => do
      if c = '+' then none
      else
        let i ← Digits.integer? Digits.signedLimit inside
        return .place i :: (← readRest fuel rest)
    | _, _ => none
  | _, _ => none

/-- The path that a text spells. -/
def ofText? (s : String) : Option (List Step) := do
  let (first, cs) ← readName s.toList
  return first :: (← readRest cs.length cs)

end Step

namespace Tree

/-- The entries of a table, none if it is no table. -/
def entries : Tree → List (String × Tree)
  | table es => es
  | _ => []

/-- The items of a list, none if it is no list. -/
def items : Tree → List Tree
  | list ts => ts
  | _ => []

/-- Changes what stands under a key. -/
def modifyKey (key : String) (f : Tree → Tree) : List (String × Tree) → List (String × Tree)
  | [] => [(key, f nothing)]
  | (k, t) :: es => if k = key then (k, f t) :: es else (k, t) :: modifyKey key f es

/-- Changes what stands at a place. The list grows at its end, or at its front for a place before
it. -/
def modifyPlace (i : Int) (f : Tree → Tree) (ts : List Tree) : List Tree :=
  let j : Int := if i < 0 then ts.length + i else i
  if 0 ≤ j then
    let longer := ts ++ List.replicate (j.toNat + 1 - ts.length) nothing
    longer.modify j.toNat f
  else (List.replicate (-j).toNat nothing ++ ts).modify 0 f

/-- Changes what stands at the end of a path, which is nothing if it was not there. -/
def update (f : Tree → Tree) : List Step → Tree → Tree
  | [], t => f t
  | .key k :: path, t => table (modifyKey k (update f path) t.entries)
  | .place i :: path, t => list (modifyPlace i (update f path) t.items)

mutual

/-- A tree with another laid over it. -/
def overlay (above below : Tree) : Tree :=
  match above with
  | table es => overlayEntries es (table below.entries)
  | t => t

def overlayEntries : List (String × Tree) → Tree → Tree
  | [], t => t
  | (key, above) :: es, t => overlayEntries es (table (modifyKey key (overlay above) t.entries))

end

/-- Lays a value over a tree at the path that `name` spells, or under `name` itself if it spells
none. -/
def set (name : String) (above below : Tree) : Tree :=
  update (overlay above) ((Step.ofText? name).getD [.key name]) below

/-- Lays all the values of a layer over a tree. -/
def setAll (layer : List (String × Tree)) (below : Tree) : Tree :=
  layer.foldl (fun t (name, above) => set name above t) below

end Tree

end DeviceGateway.Config
