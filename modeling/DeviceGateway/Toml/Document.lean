import DeviceGateway.Toml.Scalar
import DeviceGateway.Toml.Table

/-!
# TOML documents

`Toml.parse?` reads a document of either edition to its table. A document is a list of sections,
each a header with entries; `Node` puts them together. How deep values nest and how many segments
keys have is limited.
-/

namespace DeviceGateway.Toml

/-! ### Between the tokens -/

def isSpace (c : Char) : Bool := c = ' ' || c = '\t'

def skipSpaces (cs : List Char) : List Char := cs.dropWhile isSpace

/-- Skips spaces, ends of lines and comments; there is no result when a comment has a control
character. -/
def skipLines (inComment : Bool) : List Char → Option (List Char)
  | [] => some []
  | '\n' :: cs => skipLines false cs
  | '\r' :: '\n' :: cs => skipLines false cs
  | c :: cs =>
    if inComment then if isPrintable c then skipLines true cs else none
    else if isSpace c then skipLines false cs
    else if c = '#' then skipLines true cs
    else some (c :: cs)

/-- Nothing but a comment up to the end of the line. The rest begins with the next line. -/
def endLine (cs : List Char) : Option (List Char) :=
  let behind (cs : List Char) : Option (List Char) :=
    match cs with
    | [] => some []
    | '\n' :: r => some r
    | '\r' :: '\n' :: r => some r
    | _ => none
  match skipSpaces cs with
  | '#' :: r => behind (r.dropWhile isPrintable)
  | r => behind r

/-! ### Keys -/

def isBare (c : Char) : Bool := c.isAlphanum || c = '_' || c = '-'

/-- One segment of a key. -/
def readSegment (edition : Edition) (cs : List Char) : Option (String × List Char) :=
  match cs.takeWhile isBare with
  | [] => readString edition cs
  | bare => some (String.ofList bare, cs.dropWhile isBare)

/-- A key of at most `fuel` segments, and spaces around them. -/
def readSegments (edition : Edition) : Nat → List Char → Option (List String × List Char)
  | 0, _ => none
  | fuel + 1, cs =>
    match readSegment edition (skipSpaces cs) with
    | none => none
    | some (s, cs) =>
      match skipSpaces cs with
      | '.' :: cs => (readSegments edition fuel cs).map fun (ss, cs) => (s :: ss, cs)
      | cs => some ([s], cs)

/-- A key as the path to its table and its last segment. -/
def readKey (edition : Edition) (cs : List Char) : Option ((List String × String) × List Char) := do
  let (segments, cs) ← readSegments edition edition.depthLimit cs
  let last ← segments.getLast?
  return ((segments.dropLast, last), cs)

/-! ### Values -/

abbrev Reader (α : Type) := List Char → Option (α × List Char)

/-- A key and a value. `skip` passes over what may stand around the mark between them. -/
def readEntry (edition : Edition) (value : Reader Value) (skip : List Char → Option (List Char))
    (cs : List Char) : Option (Node.Entry × List Char) := do
  let ((path, key), cs) ← readKey edition cs
  let cs ← readMark '=' (← skip cs)
  let (v, cs) ← value (← skip cs)
  return (⟨path, key, v⟩, cs)

/-- Items with commas between them up to a closing bracket. `skip` passes over what may stand
around them, and `trailing` says whether a comma may come before the bracket. -/
def readItems {α : Type} (item : Reader α) (skip : List Char → Option (List Char)) (close : Char)
    (trailing : Bool) : Nat → Reader (List α)
  | 0, _ => none
  | fuel + 1, cs => do
    let (a, cs) ← item (← skip cs)
    match ← skip cs with
    | c :: cs =>
      if c = close then return ([a], cs)
      else if c = ',' then
        match ← skip cs with
        | d :: r =>
          if trailing && d = close then return ([a], r)
          else
            let (as, cs) ← readItems item skip close trailing fuel (d :: r)
            return (a :: as, cs)
        | [] => none
      else none
    | [] => none

/-- Items as in `readItems`, or none at all. -/
def readBracketed {α : Type} (item : Reader α) (skip : List Char → Option (List Char))
    (close : Char) (trailing : Bool) (cs : List Char) : Option (List α × List Char) := do
  match ← skip cs with
  | c :: r =>
    if c = close then return ([], r) else readItems item skip close trailing cs.length (c :: r)
  | [] => none

/-- A value with at most the given number of levels of arrays and inline tables. -/
def readValue (edition : Edition) : Nat → Reader Value
  | 0, cs => readScalar edition cs
  | depth + 1, cs =>
    match cs with
    | '[' :: r =>
      (readBracketed (readValue edition depth) (skipLines false) ']' true r).map
        fun (items, r) => (.array items, r)
    | '{' :: r => do
      let several := edition = .v1_1
      let skip := if several then skipLines false else some ∘ skipSpaces
      let entry := readEntry edition (readValue edition depth) skip
      let (entries, r) ← readBracketed entry skip '}' several r
      let n ← Node.addEntries edition entries .empty
      return (n.freeze, r)
    | _ => readScalar edition cs

/-! ### Documents -/

inductive Header
  | table (path : List String) (key : String)
  | element (path : List String) (key : String)

/-- A line that is not empty. -/
inductive Statement
  | header (h : Header)
  | entry (e : Node.Entry)

def readHeader (edition : Edition) : Reader Header
  | '[' :: '[' :: cs => do
    let ((path, key), cs) ← readKey edition cs
    let cs ← readMark ']' (← readMark ']' cs)
    return (.element path key, cs)
  | '[' :: cs => do
    let ((path, key), cs) ← readKey edition cs
    let cs ← readMark ']' cs
    return (.table path key, cs)
  | _ => none

def readStatement (edition : Edition) (cs : List Char) : Option (Statement × List Char) :=
  match cs with
  | '[' :: _ => (readHeader edition cs).map fun (h, cs) => (.header h, cs)
  | _ =>
    (readEntry edition (readValue edition edition.depthLimit) (some ∘ skipSpaces) cs).map
      fun (e, cs) => (.entry e, cs)

/-- The statements of a document, each on a line of its own; `fuel` bounds their number. -/
def readStatements (edition : Edition) : Nat → List Char → Option (List Statement)
  | 0, _ => none
  | fuel + 1, cs => do
    match ← skipLines false cs with
    | [] => return []
    | cs =>
      let (s, cs) ← readStatement edition cs
      let cs ← endLine cs
      let ss ← readStatements edition fuel cs
      return s :: ss

/-- A header with the entries below it. The first section of a document has none. -/
structure Section where
  header : Option Header
  entries : List Node.Entry

/-- Cuts statements into sections, the first of which has the header `h`. -/
def sections (h : Option Header) : List Statement → List Section
  | [] => [⟨h, []⟩]
  | .header h' :: ss => ⟨h, []⟩ :: sections (some h') ss
  | .entry e :: ss =>
    match sections h ss with
    | s :: rest => { s with entries := e :: s.entries } :: rest
    | [] => []

def Section.addTo (edition : Edition) (n : Node) (s : Section) : Option Node :=
  match s.header with
  | none => n.addEntries edition s.entries
  | some (.table path key) => n.addTable edition path key s.entries
  | some (.element path key) => n.addElement edition path key s.entries

/-- The entries of a document's table. A byte order mark before the document does not count. -/
def parse? (edition : Edition) (s : String) : Option (List (String × Value)) := do
  let cs := match s.toList with
    | '\uFEFF' :: cs => cs
    | cs => cs
  let statements ← readStatements edition (cs.length + 1) cs
  let root ← (sections none statements).foldlM (Section.addTo edition) .empty
  match root with
  | .table _ _ entries => return Node.freezeEntries entries
  | _ => none

end DeviceGateway.Toml
