import DeviceGateway.Config.Layers
import DeviceGateway.Config.Substitution
import DeviceGateway.Toml.Document

/-!
# Loading configurations

`Config.parse` reads a document strictly. `Config.load` lays a file, after substitution, over the
defaults and the environment over both, and converts between types where a value is of another type
than expected. The variables of the environment that count begin with `MQTTGATE__`; two underscores
stand between the steps of a path, as in `MQTTGATE__SERVER__BIND`.
-/

namespace DeviceGateway.Config

/-- A moment has no entry that a group asks for, and is nothing else either. -/
def parse (s : String) : Except Error Config :=
  match Toml.parse? .v1_0 s with
  | none => .error .notRead
  | some entries =>
    match ofTree? .strict (.table (Tree.ofEntries (fun _ => .table []) entries)) with
    | none => .error .notRead
    | some c => c.validated

/-! ### Layers -/

/-- The variables of a process. -/
abbrev Environment := List (String × String)

/-- The value of the first variable of a name. A variable is one text, its name up to `=` and its
value behind that, so that to ask for `A=B` finds what follows `B=` in the value of `A`. -/
def Environment.value? (env : Environment) (name : String) : Option String :=
  let asked := name.toList ++ ['=']
  env.findSome? fun (n, s) =>
    let text := n.toList ++ '=' :: s.toList
    if asked.isPrefixOf text then some (String.ofList (text.drop asked.length)) else none

/-- What stands where a configuration file is looked for. -/
inductive Source
  | absent
  | unreadable
  | file (content : Bytes)

/-- The lowest layer. -/
def defaults : Tree :=
  .table [
    ("log", .table [("level", .text "warn")]),
    ("server", .table [
      ("bind", .text "0.0.0.0:1883"), ("accept_threads", .integer 1), ("io_threads", .integer 0)]),
    ("limits", .table [
      ("max_packet_size", .integer Packet.defaultMaxSize),
      ("max_queued_messages", .integer Settings.defaultQueueCapacity),
      ("idle_timeout", .text "90s")]),
    ("codec", .table [("charset", .text "UTF-8")]),
    ("auth", .table [("enabled", .boolean false), ("allow_anonymous", .boolean true)])]

/-- The lower case of a character, where that is an ASCII letter. -/
def lowerChar (c : Char) : Char := if c = '\u212a' then 'k' else c.toLower

/-- The start of the names that count, in lower case. -/
def namePrefix : List Char := "mqttgate__".toList

/-- Two underscores become a point. -/
def pointed : List Char → List Char
  | '_' :: '_' :: cs => '.' :: pointed cs
  | c :: cs => c :: pointed cs
  | [] => []

/-- The path that the name of a variable stands for, if it counts. -/
def variablePath? (name : String) : Option String :=
  let cs := name.toList.map lowerChar
  if namePrefix.isPrefixOf cs then some (String.ofList (pointed (cs.drop namePrefix.length)))
  else none

/-- What the value of a variable says: a boolean, else a number, else itself. -/
def variableValue (s : String) : Tree :=
  match Conversions.lower s with
  | "true" => .boolean true
  | "false" => .boolean false
  | _ =>
    match Digits.integer? Digits.signedLimit s.toList with
    | some n => .integer n
    | none =>
      match Binary64.ofText? s with
      | some x => .float x
      | none => .text s

/-- The layer of an environment. -/
def environmentLayer (env : Environment) : List (String × Tree) :=
  env.filterMap fun (name, s) => (variablePath? name).map fun path => (path, variableValue s)

/-- The layer of a file. There moments are their texts. -/
def fileLayer (env : Environment) : Source → Except Error (List (String × Tree))
  | .absent => .ok []
  | .unreadable => .error .unreadable
  | .file content =>
    match Utf8.decode? content with
    | none => .error .unreadable
    | some s =>
      match Toml.parse? .v1_1 (substitute (Environment.value? env) s) with
      | none => .error .notMerged
      | some entries => .ok (Tree.ofEntries (fun m => .text m.text) entries)

def load (env : Environment) (source : Source) : Except Error Config :=
  match fileLayer env source with
  | .error e => .error e
  | .ok layer =>
    match ofTree? .lenient ((defaults.setAll layer).setAll (environmentLayer env)) with
    | none => .error .notMerged
    | some c => c.validated

end DeviceGateway.Config
