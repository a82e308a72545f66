import DeviceGateway.Text.Utf8

/-!
# Charsets of payloads

Payloads are decoded to text and content is encoded to payloads with one of three charsets. Neither
direction fails: an octet that is no character decodes to U+FFFD, a character that has no octet
encodes to `?`. A charset is named in several spellings (`Charset.ofName?`).
-/

namespace DeviceGateway

inductive Charset
  | utf8
  | latin1
  | ascii
  deriving DecidableEq, Repr, Inhabited

namespace Charset

/-- The canonical name. -/
def name : Charset → String
  | utf8 => "UTF-8"
  | latin1 => "ISO-8859-1"
  | ascii => "US-ASCII"

/-- The spellings of a charset, in lower case and with hyphens. -/
def spellings : Charset → List String
  | utf8 => ["utf-8", "utf8"]
  | latin1 => ["iso-8859-1", "latin1", "latin-1"]
  | ascii => ["us-ascii", "ascii"]

/-- A name with its ASCII letters in lower case and hyphens for underscores. -/
def fold (name : String) : String :=
  String.ofList (name.toList.map fun c => if c = '_' then '-' else c.toLower)

def ofName? (name : String) : Option Charset :=
  [utf8, latin1, ascii].find? fun c => c.spellings.contains (fold name)

/-- What is said about a name that is no charset's. -/
def unknownMessage (name : String) : String :=
  s!"unknown charset '{name}' (expected UTF-8, ISO-8859-1 or US-ASCII)"

def decode : Charset → Bytes → String
  | utf8, b => Utf8.decodeLossy b
  | latin1, b => String.ofList (b.map fun o => Char.ofNat o.toNat)
  | ascii, b => String.ofList (b.map fun o => if o < 128 then Char.ofNat o.toNat else '\uFFFD')

def encode : Charset → String → Bytes
  | utf8, s => Utf8.encode s
  | latin1, s => s.toList.map fun c => if c.toNat < 256 then .ofNat c.toNat else '?'.toUInt8
  | ascii, s => s.toList.map fun c => if c.toNat < 128 then .ofNat c.toNat else '?'.toUInt8

theorem ofName?_name (c : Charset) : ofName? c.name = some c := by
  cases c <;> decide +kernel

end Charset

end DeviceGateway
