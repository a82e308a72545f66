import DeviceGateway.Config.Basic
import DeviceGateway.Toml.Value

/-!
# Configurations as trees

A `Tree` is what documents and environments say before anything is known of its meaning.
`Config.ofTree?` reads the meaning. A group is a table, or a list of its values in order; what a
group does not name keeps its default, and names that no group has do not count. How a value becomes
a number, a boolean or a text is up to `Conversions`: `Conversions.strict` takes each only for
itself, `Conversions.lenient` converts between them.
-/

namespace DeviceGateway.Config

inductive Tree
  | nothing
  | integer (n : Int)
  | float (x : Binary64)
  | boolean (b : Bool)
  | text (s : String)
  | list (items : List Tree)
  | table (entries : List (String × Tree))
  deriving Repr, Inhabited

namespace Tree

mutual

/-- The tree of a value; moments are up to the caller. -/
def ofToml (moment : Toml.Moment → Tree) : Toml.Value → Tree
  | .text s => text s
  | .integer n => integer n
  | .float x => float x
  | .boolean b => boolean b
  | .moment m => moment m
  | .array items => list (ofItems moment items)
  | .table entries => table (ofEntries moment entries)

def ofItems (moment : Toml.Moment → Tree) : List Toml.Value → List Tree
  | [] => []
  | v :: vs => ofToml moment v :: ofItems moment vs

def ofEntries (moment : Toml.Moment → Tree) : List (String × Toml.Value) → List (String × Tree)
  | [] => []
  | (key, v) :: es => (key, ofToml moment v) :: ofEntries moment es

end

end Tree

/-! ### Conversions -/

/-- The ways from a tree to the plain types. -/
structure Conversions where
  natural : Tree → Option Nat
  boolean : Tree → Option Bool
  text : Tree → Option String

namespace Conversions

/-- Nothing is taken for anything else. -/
def strict : Conversions where
  natural
    | .integer n => if 0 ≤ n then some n.toNat else none
    | _ => none
  boolean
    | .boolean b => some b
    | _ => none
  text
    | .text s => some s
    | _ => none

def lower (s : String) : String := String.ofList (s.toList.map Char.toLower)

def yes : List String := ["true", "on", "yes"]

def no : List String := ["false", "off", "no"]

/-- Numbers, booleans and texts are taken for each other where they can be. -/
def lenient : Conversions where
  natural
    | .integer n => if 0 ≤ n then some n.toNat else none
    | .float x => some (x.rounded UInt64.size)
    | .boolean b => some b.toNat
    | .text s =>
      if yes.contains (lower s) then some 1
      else if no.contains (lower s) then some 0
      else Digits.natural? UInt64.size s.toList
    | _ => none
  boolean
    | .boolean b => some b
    | .integer n => some (n != 0)
    | .float x => some !x.isZero
    | .text s =>
      if (lower s = "1" ∨ yes.contains (lower s)) then some true
      else if (lower s = "0" ∨ no.contains (lower s)) then some false
      else none
    | _ => none
  text
    | .text s => some s
    | .boolean b => some (toString b)
    | .integer n => some (toString n)
    | .float x => some x.text
    | _ => none

end Conversions

/-! ### Groups -/

namespace Tree

/-- The values of a group under the given names, in order. -/
def group? (names : List String) : Tree → Option (List (Option Tree))
  | table entries => some (names.map (entries.lookup ·))
  | list items => some ((List.range names.length).map (items[·]?))
  | _ => none

def isList : Tree → Bool
  | list _ => true
  | _ => false

/-- A value that may be absent, and then is `d`. -/
def orDefault {α : Type} (d : α) (read : Tree → Option α) : Option Tree → Option α
  | none => some d
  | some t => read t

/-- A value that may be absent or nothing. -/
def optional {α : Type} (read : Tree → Option α) : Option Tree → Option (Option α)
  | none | some nothing => some none
  | some t => (read t).map some

end Tree

open Config.Tree

variable (v : Conversions)

def readLog (t : Tree) : Option Log :=
  match t.group? ["level", "filter"] with
  | some [level, filter] => do
    return ⟨← orDefault "warn" v.text level, ← optional v.text filter⟩
  | _ => none

/-- A TLS group names its two files. As a list it names the authority too. -/
def readTls (t : Tree) : Option Tls :=
  match t.group? ["cert", "key", "ca_cert", "require_client_cert"] with
  | some [some certificate, some key, authority, required] => do
    if t.isList ∧ authority.isNone then none
    else
      return ⟨← v.text certificate, ← v.text key, ← optional v.text authority,
        ← orDefault false v.boolean required⟩
  | _ => none

def readServer (t : Tree) : Option Server :=
  let d : Server := {}
  match t.group? ["bind", "accept_threads", "io_threads", "tls"] with
  | some [bind, acceptThreads, ioThreads, tls] => do
    return ⟨← orDefault d.bind (fun t => (v.text t).bind SocketAddress.ofText?) bind,
      ← orDefault d.acceptThreads v.natural acceptThreads,
      ← orDefault d.ioThreads v.natural ioThreads,
      ← optional (readTls v) tls⟩
  | _ => none

def readLimits (t : Tree) : Option Limits :=
  let d : Limits := {}
  match t.group? ["max_packet_size", "max_queued_messages", "idle_timeout"] with
  | some [maxPacketSize, maxQueuedMessages, idleTimeout] => do
    return ⟨← orDefault d.maxPacketSize v.natural maxPacketSize,
      ← orDefault d.maxQueuedMessages v.natural maxQueuedMessages,
      ← orDefault d.idleTimeout (fun t => (v.text t).bind Duration.ofText?) idleTimeout⟩
  | _ => none

def readCodec (t : Tree) : Option Charset :=
  match t.group? ["charset"] with
  | some [charset] => orDefault .utf8 (fun t => (v.text t).bind Charset.ofName?) charset
  | _ => none

def readUser (t : Tree) : Option User :=
  match t.group? ["username", "password", "password_hash"] with
  | some [some username, password, hash] => do
    return ⟨← v.text username, ← optional v.text password, ← optional v.text hash⟩
  | _ => none

def readUsers : Tree → Option (List User)
  | list items => items.mapM (readUser v)
  | _ => none

def readAuth (t : Tree) : Option Auth :=
  match t.group? ["enabled", "allow_anonymous", "users"] with
  | some [enabled, allowAnonymous, users] => do
    return ⟨← orDefault false v.boolean enabled, ← orDefault true v.boolean allowAnonymous,
      ← orDefault [] (readUsers v) users⟩
  | _ => none

def ofTree? (t : Tree) : Option Config :=
  match t.group? ["log", "server", "limits", "codec", "auth"] with
  | some [log, server, limits, codec, auth] => do
    return ⟨← orDefault {} (readLog v) log, ← orDefault {} (readServer v) server,
      ← orDefault {} (readLimits v) limits, ← orDefault .utf8 (readCodec v) codec,
      ← orDefault {} (readAuth v) auth⟩
  | _ => none

end DeviceGateway.Config
