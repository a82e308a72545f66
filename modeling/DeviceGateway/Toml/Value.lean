import DeviceGateway.Number.Binary64

/-!
# TOML values

A value is a text, an integer of 64 bits, a floating point number, a boolean, a moment in time, an
array or a table. `Moment.text` writes the date, the time of day and the offset of a moment, as far
as it has them.
-/

namespace DeviceGateway.Toml

/-- An edition of the format. The later one has two more escapes, times without seconds, and inline
tables over several lines; it keeps the ends of lines in strings as they are, and lets keys add to
tables that headers only named on the way to others. -/
inductive Edition
  | v1_0
  | v1_1
  deriving DecidableEq, Repr

/-- The greatest number of segments of a key, and of levels of arrays and inline tables. -/
def Edition.depthLimit : Edition → Nat
  | v1_0 => 79
  | v1_1 => 80

structure Date where
  year : Nat
  month : Nat
  day : Nat
  deriving DecidableEq, Repr

structure Time where
  hour : Nat
  minute : Nat
  second : Option Nat := none
  nanosecond : Option Nat := none
  deriving DecidableEq, Repr

inductive Offset
  | utc
  | minutes (n : Int)
  deriving DecidableEq, Repr

/-- A date, a time, or both, with an offset if it is known. -/
structure Moment where
  date : Option Date := none
  time : Option Time := none
  offset : Option Offset := none
  deriving DecidableEq, Repr

inductive Value
  | text (s : String)
  | integer (n : Int)
  | float (x : Binary64)
  | boolean (b : Bool)
  | moment (m : Moment)
  | array (items : List Value)
  | table (entries : List (String × Value))
  deriving Repr, Inhabited

/-- A number with zeros before it up to `width` digits. -/
def padded (width n : Nat) : String :=
  let digits := (toString n).toList
  String.ofList (List.replicate (width - digits.length) '0' ++ digits)

/-- The decimals of a second without trailing zeros, and at least one. -/
def decimalsText (nanosecond : Nat) : String :=
  match ((padded 9 nanosecond).toList.reverse.dropWhile (· = '0')).reverse with
  | [] => "0"
  | cs => String.ofList cs

def Date.text (d : Date) : String := s!"{padded 4 d.year}-{padded 2 d.month}-{padded 2 d.day}"

def Time.text (t : Time) : String :=
  s!"{padded 2 t.hour}:{padded 2 t.minute}" ++
    (t.second.elim "" fun n => ":" ++ padded 2 n) ++
    (t.nanosecond.elim "" fun n => "." ++ decimalsText n)

def Offset.text : Offset → String
  | utc => "Z"
  | minutes n =>
    let sign := if n < 0 then "-" else "+"
    s!"{sign}{padded 2 (n.natAbs / 60)}:{padded 2 (n.natAbs % 60)}"

def Moment.text (m : Moment) : String :=
  (m.date.elim "" Date.text) ++
    (if m.date.isSome && m.time.isSome then "T" else "") ++
    (m.time.elim "" Time.text) ++
    (m.offset.elim "" Offset.text)

end DeviceGateway.Toml
