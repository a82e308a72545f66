import DeviceGateway.Text.Base64

/-!
# Sections of PEM files

A file in which sections stand between a `BEGIN` and an `END` line, each with the octets of an
object in base 64. Lines outside of sections say nothing. `Pem.ofBytes` gives the sections up to the
first that is wrong.
-/

namespace DeviceGateway

structure Pem.Section where
  label : String
  content : Bytes
  deriving DecidableEq, Repr

structure Pem where
  sections : List Pem.Section
  /-- whether there is something wrong behind the sections -/
  broken : Bool
  deriving DecidableEq, Repr

namespace Pem

/-- The labels of the objects that there are. Sections with another label are passed over. -/
def labels : List String :=
  ["CERTIFICATE", "PUBLIC KEY", "RSA PRIVATE KEY", "PRIVATE KEY", "EC PRIVATE KEY", "X509 CRL",
    "CERTIFICATE REQUEST", "ECHCONFIG"]

/-- The lines of a file, as characters that stand for octets. -/
def lines : Bytes → List (List Char)
  | [] => [[]]
  | o :: b =>
    if o = 10 ∨ o = 13 then [] :: lines b
    else
      match lines b with
      | l :: ls => (Char.ofNat o.toNat :: l) :: ls
      | [] => [[Char.ofNat o.toNat]]

def beginMark : List Char := "-----BEGIN ".toList

def endMark : List Char := "-----END ".toList

def dashes : List Char := "-----".toList

/-- The label of a line that begins a section, if it ends in five dashes; spaces between and behind
the dashes do not count. -/
def label? (line : List Char) : Option (List Char) :=
  let tail := (line.reverse.takeWhile fun c => c = '-' || c = ' ').reverse.dropWhile (· = ' ')
  if tail.count '-' = 5 then some ((line.take (line.length - tail.length)).drop beginMark.length)
  else none

def isBlank (c : Char) : Bool := c = ' ' || c = '\t'

/-- The object of a section, from its lines in reverse. -/
def content? (lines : List (List Char)) : Option Bytes :=
  Base64.decodePadded? (lines.reverse.flatten.filter fun c => !isBlank c)

/-- Reads lines, inside of a section if there is one: its label, and its lines in reverse. -/
def read (inside : Option (List Char × List (List Char))) : List (List Char) → Pem
  | [] => ⟨[], inside.isSome⟩
  | line :: rest =>
    if beginMark.isPrefixOf line then
      match label? line with
      | some label => read (some (label, [])) rest
      | none => ⟨[], true⟩
    else
      match inside with
      | none => read none rest
      | some (label, body) =>
        if (endMark ++ label ++ dashes).isPrefixOf line then
          let label := String.ofList label
          if labels.contains label then
            match content? body with
            | some b =>
              let behind := read none rest
              { behind with sections := ⟨label, b⟩ :: behind.sections }
            | none => ⟨[], true⟩
          else read none rest
        else read (some (label, line :: body)) rest

def ofBytes (b : Bytes) : Pem := read none (lines b)

end Pem

end DeviceGateway
