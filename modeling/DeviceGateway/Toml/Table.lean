import DeviceGateway.Toml.Value

/-!
# Tables under construction

While a document is read, a table may still be open to more entries. A `Node` knows how its table
came to be: `implicit` ones were only named on the way to another, `dotted` ones by a key of several
segments. A header may open an implicit table that no key has named, and a key of several segments
may add to a table that only such keys have named; in the later edition also to one that headers
have only named on their way, which is dotted then. What is written as a value is closed.
-/

namespace DeviceGateway.Toml

inductive Node
  | leaf (v : Value)
  | table (implicit dotted : Bool) (entries : List (String × Node))
  | tables (items : List Node)
  deriving Inhabited

namespace Node

/-- The table of a document or an inline table before its first entry. -/
def empty : Node := table false false []

def find? (key : String) (entries : List (String × Node)) : Option Node := entries.lookup key

/-- The entries with another node under a key. -/
def put (key : String) (n : Node) : List (String × Node) → List (String × Node)
  | [] => [(key, n)]
  | (k, m) :: es => if k = key then (key, n) :: es else (k, m) :: put key n es

/-- What a path belongs to. -/
inductive Walk
  | header
  /-- a key, which `claims` the implicit tables on its way or leaves them as they are -/
  | key (claims : Bool)
  deriving DecidableEq, Repr

/-- A missing table, made on the way. -/
def Walk.made : Walk → Node
  | header => table true false []
  | key _ => table true true []

/-- Whether a table on the way is dotted from then on, or none if the way ends there. -/
def Walk.through? (isImplicit isDotted : Bool) : Walk → Option Bool
  | header => some isDotted
  | key claims => if isImplicit then some (isDotted || claims) else none

/-- Changes the table at the end of a path, of the last table where the path meets an array of
tables. Missing tables are made. -/
def descend (w : Walk) (change : Node → Option Node) : List String → Node → Option Node
  | [], n => change n
  | key :: path, table isImplicit isDotted entries =>
    match (find? key entries).getD w.made with
    | leaf _ => none
    | tables items =>
      match items.getLast? with
      | none => none
      | some last =>
        (descend w change path last).map fun m =>
          table isImplicit isDotted (put key (tables (items.dropLast ++ [m])) entries)
    | table childImplicit childDotted es =>
      match w.through? childImplicit childDotted with
      | none => none
      | some childDotted =>
        (descend w change path (table childImplicit childDotted es)).map fun m =>
          table isImplicit isDotted (put key m entries)
  | _, _ => none

/-- Adds an entry under a key of several segments, the last of which is `key`. -/
def addEntry (edition : Edition) (path : List String) (key : String) (v : Value) :
    Node → Option Node :=
  descend (.key (edition = .v1_1)) (fun
    | table isImplicit isDotted entries =>
      if isDotted = path.isEmpty ∨ (find? key entries).isSome then none
      else some (table isImplicit isDotted (entries ++ [(key, leaf v)]))
    | _ => none) path

/-- A key of several segments, and a value. -/
structure Entry where
  path : List String
  key : String
  value : Value

def addEntries (edition : Edition) (entries : List Entry) (n : Node) : Option Node :=
  entries.foldlM (fun n e => addEntry edition e.path e.key e.value n) n

/-- Puts the entries of a section into the table that its header names. -/
def addTable (edition : Edition) (path : List String) (key : String) (entries : List Entry) :
    Node → Option Node :=
  descend .header (fun
    | table isImplicit isDotted es => do
      let start ← match find? key es with
        | none => some empty
        | some (table true false old) => some (table false false old)
        | some _ => none
      let n ← addEntries edition entries start
      return table isImplicit isDotted (put key n es)
    | _ => none) path

/-- Appends the entries of a section to the array of tables that its header names. -/
def addElement (edition : Edition) (path : List String) (key : String) (entries : List Entry) :
    Node → Option Node :=
  descend .header (fun
    | table isImplicit isDotted es => do
      let items ← match find? key es with
        | none => some []
        | some (tables items) => some items
        | some _ => none
      let n ← addEntries edition entries empty
      return table isImplicit isDotted (put key (tables (items ++ [n])) es)
    | _ => none) path

mutual

/-- The value that a node has become. -/
def freeze : Node → Value
  | leaf v => v
  | table _ _ entries => .table (freezeEntries entries)
  | tables items => .array (freezeItems items)

def freezeEntries : List (String × Node) → List (String × Value)
  | [] => []
  | (key, n) :: es => (key, freeze n) :: freezeEntries es

def freezeItems : List Node → List Value
  | [] => []
  | n :: ns => freeze n :: freezeItems ns

end

end Node

end DeviceGateway.Toml
