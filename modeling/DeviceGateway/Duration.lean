import DeviceGateway.Text.Blank
import DeviceGateway.Text.Digits

/-!
# Lengths of time

A duration is a count of nanoseconds. `Duration.ofText?` reads a sum of terms such as `1h 30m` or
`2.5s`; `Duration.text` writes the largest of s, ms, µs and ns that is not below one, with as many
decimals as there are.
-/

namespace DeviceGateway

structure Duration where
  nanoseconds : Nat
  deriving DecidableEq, Repr

namespace Duration

def ofSeconds (n : Nat) : Duration := ⟨n * 1000000000⟩

def ofMilliseconds (n : Nat) : Duration := ⟨n * 1000000⟩

instance : Add Duration := ⟨fun d e => ⟨d.nanoseconds + e.nanoseconds⟩⟩

instance : LE Duration := ⟨fun d e => d.nanoseconds ≤ e.nanoseconds⟩

instance (d e : Duration) : Decidable (d ≤ e) := Nat.decLe d.nanoseconds e.nanoseconds

/-- The whole seconds. -/
def seconds (d : Duration) : Nat := d.nanoseconds / 1000000000

/-- The nanoseconds beyond the whole seconds. -/
def subsecond (d : Duration) : Nat := d.nanoseconds % 1000000000

/-! ### Reading -/

/-- A unit of time. Those below the hour count nanoseconds in their fractions, the others seconds.
-/
inductive TimeUnit
  | nanosecond
  | microsecond
  | millisecond
  | second
  | minute
  | hour
  | day
  | week
  | month
  | year
  deriving DecidableEq, Repr

namespace TimeUnit

/-- The words for a unit. -/
def words : TimeUnit → List String
  | nanosecond => ["nanos", "nsec", "ns"]
  | microsecond => ["usec", "us", "µs"]
  | millisecond => ["millis", "msec", "ms"]
  | second => ["seconds", "second", "secs", "sec", "s"]
  | minute => ["minutes", "minute", "min", "mins", "m"]
  | hour => ["hours", "hour", "hrs", "hr", "h"]
  | day => ["days", "day", "d"]
  | week => ["weeks", "week", "wk", "wks", "w"]
  | month => ["months", "month", "M"]
  | year => ["years", "year", "yr", "yrs", "y"]

def all : List TimeUnit :=
  [nanosecond, microsecond, millisecond, second, minute, hour, day, week, month, year]

def ofWord? (word : String) : Option TimeUnit := all.find? (·.words.contains word)

/-- How much a unit is: in seconds from the second up, else in nanoseconds. -/
def amount : TimeUnit → Nat
  | nanosecond => 1
  | microsecond => 1000
  | millisecond => 1000000
  | second => 1
  | minute => 60
  | hour => 3600
  | day => 86400
  | week => 604800
  | month => 2630016
  | year => 31557600

/-- Whether `amount` is in nanoseconds. -/
def belowSecond : TimeUnit → Bool
  | nanosecond | microsecond | millisecond => true
  | _ => false

/-- What a fraction of a unit is counted in: its amount, and whether that is in nanoseconds.
There is no fraction of a nanosecond. -/
def fractionAmount? : TimeUnit → Option (Nat × Bool)
  | nanosecond => none
  | second => some (1000000000, true)
  | minute => some (60000000000, true)
  | u => some (u.amount, u.belowSecond)

end TimeUnit

/-- A number with its unit. The fraction is a numerator and a denominator. -/
structure Term where
  whole : Nat
  fraction : Option (Nat × Nat)
  unit : TimeUnit
  deriving DecidableEq, Repr

def isLetter (c : Char) : Bool := c.isAlpha || c = 'µ'

/-- The digits before a unit or a point; blanks among them do not count. -/
def readDigits (acc : List Char) : List Char → List Char × List Char
  | [] => (acc.reverse, [])
  | c :: cs =>
    if c.isDigit then readDigits (c :: acc) cs
    else if Text.isBlank c then readDigits acc cs
    else (acc.reverse, c :: cs)

/-- The digits behind a point, when there is one. There is at least one digit. -/
def readFraction (cs : List Char) : Option (Option (Nat × Nat) × List Char) :=
  match cs with
  | '.' :: r =>
    match readDigits [] r with
    | (digits, r) =>
      match (Digits.value? 10 digits).filter fun _ => Nat.pow 10 digits.length < UInt64.size with
      | some n => some (some (n, Nat.pow 10 digits.length), r)
      | none => none
  | _ => some (none, cs)

/-- The first term; a unit ends at a digit, at a blank or at the end. -/
def readTerm (cs : List Char) : Option (Term × List Char) :=
  match readDigits [] cs with
  | (digits, r) =>
    match (Digits.value? 10 digits).filter (· < UInt64.size), readFraction r with
    | some whole, some (fraction, r) =>
      match TimeUnit.ofWord? (String.ofList (r.takeWhile isLetter)), r.dropWhile isLetter with
      | some unit, [] => some (⟨whole, fraction, unit⟩, [])
      | some unit, c :: r =>
        if Text.isBlank c || c.isDigit then some (⟨whole, fraction, unit⟩, c :: r) else none
      | none, _ => none
    | _, _ => none

/-- The terms of a text, at least one; `fuel` bounds their number. -/
def readTerms : Nat → List Char → Option (List Term)
  | 0, _ => none
  | fuel + 1, cs =>
    match cs.dropWhile Text.isBlank with
    | [] => none
    | c :: r =>
      if c.isDigit then
        match readTerm (c :: r) with
        | none => none
        | some (t, r) =>
          if r.all Text.isBlank then some [t] else (readTerms fuel r).map (t :: ·)
      else none

/-- Adds seconds and nanoseconds in 64 bits. -/
def plus? (d : Duration) (seconds nanoseconds : Nat) : Option Duration :=
  let sum : Duration := ⟨d.nanoseconds + seconds * 1000000000 + nanoseconds⟩
  if d.subsecond + nanoseconds < UInt64.size ∧ sum.seconds < UInt64.size then some sum else none

/-- Adds `n / d` times an amount, computed in 64 bits. It has to be a whole number. -/
def plusAmount? (total : Duration) (n d amount : Nat) (inNanoseconds : Bool) : Option Duration :=
  if n * amount < UInt64.size ∧ n * amount % d = 0 then
    if inNanoseconds then total.plus? 0 (n * amount / d) else total.plus? (n * amount / d) 0
  else none

def plusTerm? (total : Duration) (t : Term) : Option Duration :=
  match total.plusAmount? t.whole 1 t.unit.amount t.unit.belowSecond, t.fraction with
  | some d, some (n, den) =>
    match t.unit.fractionAmount? with
    | some (amount, inNanoseconds) => d.plusAmount? n den amount inNanoseconds
    | none => none
  | r, _ => r

/-- The sum of the terms of a text. The text `0` needs no unit. -/
def ofText? (s : String) : Option Duration :=
  if s = "0" then some ⟨0⟩
  else
    match readTerms (s.length + 1) s.toList with
    | some terms => terms.foldlM plusTerm? ⟨0⟩
    | none => none

/-! ### Writing -/

/-- A number of `digits` decimals without its trailing zeros, behind a point if any is left. -/
def decimals (digits n : Nat) : String :=
  let shown := (toString n).toList
  let padded := List.replicate (digits - shown.length) '0' ++ shown
  match (padded.reverse.dropWhile (· = '0')).reverse with
  | [] => ""
  | cs => String.ofList ('.' :: cs)

def text (d : Duration) : String :=
  let n := d.nanoseconds
  if 1000000000 ≤ n then s!"{n / 1000000000}{decimals 9 (n % 1000000000)}s"
  else if 1000000 ≤ n then s!"{n / 1000000}{decimals 6 (n % 1000000)}ms"
  else if 1000 ≤ n then s!"{n / 1000}{decimals 3 (n % 1000)}µs"
  else s!"{n}ns"

end Duration

end DeviceGateway
