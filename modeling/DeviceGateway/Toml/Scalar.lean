import DeviceGateway.Toml.Value

/-!
# Scalars in TOML

Readers of strings, numbers, booleans and moments. Each takes its scalar off the front of a list of
characters and returns it with the rest, or `none` if there is no such scalar there.
-/

namespace DeviceGateway.Toml

/-- The characters of strings and comments: no control character but the tab. -/
def isPrintable (c : Char) : Bool := c = '\t' || (0x20 ≤ c.toNat && c.toNat ≠ 0x7F)

/-- The character with a number, unless it is a surrogate or too large. -/
def character? (n : Nat) : Option Char := if n.isValidChar then some (Char.ofNat n) else none

/-! ### Strings -/

/-- Where the reader of an escaped string stands. -/
inductive StringState
  /-- between characters -/
  | plain
  /-- behind a backslash -/
  | escaped
  /-- among the digits of a numbered character, with `left` more to come -/
  | numbered (left value : Nat)
  /-- behind a backslash that ends a line, and perhaps behind that end -/
  | folded (ended : Bool)

/-- What an escape of one letter stands for. -/
def escape? (edition : Edition) : Char → Option Char
  | 'b' => some '\x08'
  | 't' => some '\t'
  | 'n' => some '\n'
  | 'f' => some '\x0c'
  | 'r' => some '\r'
  | '"' => some '"'
  | '\\' => some '\\'
  | 'e' => if edition = .v1_1 then some '\x1b' else none
  | _ => none

/-- The count of digits behind an escape letter. -/
def escapeDigits? (edition : Edition) : Char → Option Nat
  | 'u' => some 4
  | 'U' => some 8
  | 'x' => if edition = .v1_1 then some 2 else none
  | _ => none

/-- The length of the run of `c` at the front. -/
def runLength (c : Char) (cs : List Char) : Nat := (cs.takeWhile (· = c)).length

/-- What a run of at least three quotes that closes a string of several lines adds to it: at most
two of the quotes. The second component is the rest behind the closing ones. -/
def closing (quote : Char) (acc cs : List Char) : String × List Char :=
  let extra := min (runLength quote cs - 3) 2
  (String.ofList (acc.reverse ++ List.replicate extra quote), cs.drop (extra + 3))

/-- What a string keeps of a carriage return at the end of a line. -/
def Edition.carriageReturn : Edition → List Char
  | v1_0 => []
  | v1_1 => ['\r']

/-- The rest of a string with escapes, behind the characters of `acc`, last first. -/
def readEscaped (edition : Edition) (multiline : Bool) :
    StringState → List Char → List Char → Option (String × List Char)
  | _, _, [] => none
  | .plain, acc, c :: cs =>
    if c = '\\' then readEscaped edition multiline .escaped acc cs
    else if c = '"' then
      if !multiline then some (String.ofList acc.reverse, cs)
      else if runLength '"' (c :: cs) < 3 then readEscaped edition multiline .plain (c :: acc) cs
      else some (closing '"' acc (c :: cs))
    else if isPrintable c || (multiline && c = '\n') then
      readEscaped edition multiline .plain (c :: acc) cs
    else if multiline && c = '\r' && cs.head? = some '\n' then
      readEscaped edition multiline .plain (edition.carriageReturn ++ acc) cs
    else none
  | .escaped, acc, c :: cs =>
    match escape? edition c, escapeDigits? edition c with
    | some d, _ => readEscaped edition multiline .plain (d :: acc) cs
    | none, some n => readEscaped edition multiline (.numbered n 0) acc cs
    | none, none =>
      if multiline && (c = ' ' || c = '\t' || (c = '\r' && cs.head? = some '\n')) then
        readEscaped edition multiline (.folded false) acc cs
      else if multiline && c = '\n' then readEscaped edition multiline (.folded true) acc cs
      else none
  | .numbered left value, acc, c :: cs =>
    match Digits.digit? 16 c with
    | none => none
    | some d =>
      if left ≤ 1 then
        match character? (value * 16 + d) with
        | some c => readEscaped edition multiline .plain (c :: acc) cs
        | none => none
      else readEscaped edition multiline (.numbered (left - 1) (value * 16 + d)) acc cs
  | .folded ended, acc, c :: cs =>
    if c = ' ' || c = '\t' || (c = '\r' && cs.head? = some '\n') then
      readEscaped edition multiline (.folded ended) acc cs
    else if c = '\n' then readEscaped edition multiline (.folded true) acc cs
    else if !ended then none
    else if c = '\\' then readEscaped edition multiline .escaped acc cs
    else if c = '"' then
      if runLength '"' (c :: cs) < 3 then readEscaped edition multiline .plain (c :: acc) cs
      else some (closing '"' acc (c :: cs))
    else if isPrintable c then readEscaped edition multiline .plain (c :: acc) cs
    else none

/-- The rest of a string without escapes. -/
def readLiteral (edition : Edition) (multiline : Bool) (acc : List Char) :
    List Char → Option (String × List Char)
  | [] => none
  | c :: cs =>
    if c = '\'' then
      if !multiline then some (String.ofList acc.reverse, cs)
      else if runLength '\'' (c :: cs) < 3 then readLiteral edition multiline (c :: acc) cs
      else some (closing '\'' acc (c :: cs))
    else if isPrintable c || (multiline && c = '\n') then
      readLiteral edition multiline (c :: acc) cs
    else if multiline && c = '\r' && cs.head? = some '\n' then
      readLiteral edition multiline (edition.carriageReturn ++ acc) cs
    else none

/-- A string of several lines does not begin with the end of its first line. -/
def dropLineEnd : List Char → List Char
  | '\n' :: cs => cs
  | '\r' :: '\n' :: cs => cs
  | cs => cs

/-- A string of one line. -/
def readString (edition : Edition) : List Char → Option (String × List Char)
  | '"' :: cs => readEscaped edition false .plain [] cs
  | '\'' :: cs => readLiteral edition false [] cs
  | _ => none

/-- A string of any of the four forms. -/
def readAnyString (edition : Edition) : List Char → Option (String × List Char)
  | '"' :: '"' :: '"' :: cs => readEscaped edition true .plain [] (dropLineEnd cs)
  | '\'' :: '\'' :: '\'' :: cs => readLiteral edition true [] (dropLineEnd cs)
  | cs => readString edition cs

/-! ### Numbers -/

/-- Digits of a base with single underscores between them. There may be none. -/
def readDigits (base : Nat) : List Char → List Char × List Char
  | c :: '_' :: d :: cs =>
    if (Digits.digit? base c).isSome then
      if (Digits.digit? base d).isSome then
        let (digits, rest) := readDigits base (d :: cs)
        (c :: digits, rest)
      else ([c], '_' :: d :: cs)
    else ([], c :: '_' :: d :: cs)
  | c :: cs =>
    if (Digits.digit? base c).isSome then
      let (digits, rest) := readDigits base cs
      (c :: digits, rest)
    else ([], c :: cs)
  | [] => ([], [])

/-- The digits of a decimal number: a zero, or digits that do not begin with one. -/
def readDecimal : List Char → Option (List Char × List Char)
  | '0' :: cs => some (['0'], cs)
  | cs =>
    match readDigits 10 cs with
    | ([], _) => none
    | r => some r

/-- A sign, true for minus. -/
def readSign : List Char → Bool × List Char
  | '-' :: cs => (true, cs)
  | '+' :: cs => (false, cs)
  | cs => (false, cs)

/-- The base that a mark behind a leading zero names. -/
def readBase : List Char → Option (Nat × List Char)
  | '0' :: 'x' :: cs => some (16, cs)
  | '0' :: 'o' :: cs => some (8, cs)
  | '0' :: 'b' :: cs => some (2, cs)
  | _ => none

/-- An integer of 64 bits. -/
def readInteger (cs : List Char) : Option (Int × List Char) :=
  match readBase cs with
  | some (base, cs) =>
    let (digits, rest) := readDigits base cs
    ((Digits.value? base digits).filter (· < Digits.signedLimit)).map fun n => ((n : Int), rest)
  | none =>
    let (negative, cs) := readSign cs
    match readDecimal cs with
    | none => none
    | some (digits, rest) =>
      match Digits.value? 10 digits with
      | none => none
      | some n =>
        if negative then if n ≤ Digits.signedLimit then some (-n, rest) else none
        else if n < Digits.signedLimit then some (n, rest) else none

/-- Digits behind a point, if there is a point. -/
def readFractionDigits : List Char → Option (List Char × List Char)
  | '.' :: cs =>
    match readDigits 10 cs with
    | ([], _) => none
    | r => some r
  | cs => some ([], cs)

/-- An exponent, if there is one. -/
def readExponent (cs : List Char) : Option (Option Int × List Char) :=
  match cs with
  | c :: r =>
    if c = 'e' || c = 'E' then
      let (negative, r) := readSign r
      let (digits, rest) := readDigits 10 r
      (Digits.value? 10 digits).map fun n => (some (if negative then -(n : Int) else n), rest)
    else some (none, cs)
  | [] => some (none, [])

/-- Whether the value of a decimal is out of range. In the earlier edition only large positive ones
are. -/
def overflows (edition : Edition) : Binary64 → Bool
  | .infinite negative => !(negative && edition = .v1_0)
  | _ => false

/-- A floating point number that is written with a point or an exponent, or one of the named. -/
def readFloat (edition : Edition) (cs : List Char) : Option (Binary64 × List Char) :=
  match readSign cs with
  | (negative, 'i' :: 'n' :: 'f' :: rest) => some (.infinite negative, rest)
  | (_, 'n' :: 'a' :: 'n' :: rest) => some (.nan, rest)
  | (negative, cs) => do
    let (whole, cs) ← readDecimal cs
    let (fraction, cs) ← readFractionDigits cs
    let (exponent, rest) ← readExponent cs
    if fraction = [] ∧ exponent = none then none
    else
      let x ← Binary64.ofParts negative whole fraction (exponent.getD 0)
      if overflows edition x then none else some (x, rest)

/-! ### Moments -/

/-- A number of exactly `n` digits. -/
def readFixed (n : Nat) (cs : List Char) : Option (Nat × List Char) :=
  let digits := cs.take n
  if digits.length = n ∧ digits.all Char.isDigit then
    (Digits.value? 10 digits).map fun v => (v, cs.drop n)
  else none

def readMark (c : Char) : List Char → Option (List Char)
  | d :: cs => if c = d then some cs else none
  | [] => none

def isLeap (year : Nat) : Bool := year % 4 = 0 && (year % 100 ≠ 0 || year % 400 = 0)

def daysIn (year month : Nat) : Nat :=
  if month = 2 then if isLeap year then 29 else 28
  else if [4, 6, 9, 11].contains month then 30
  else 31

def readDate (cs : List Char) : Option (Date × List Char) := do
  let (year, cs) ← readFixed 4 cs
  let (month, cs) ← readFixed 2 (← readMark '-' cs)
  let (day, cs) ← readFixed 2 (← readMark '-' cs)
  if 1 ≤ month ∧ month ≤ 12 ∧ 1 ≤ day ∧ day ≤ daysIn year month then some (⟨year, month, day⟩, cs)
  else none

/-- The decimals of a second; those beyond the ninth do not count. -/
def readDecimals : List Char → Option (Option Nat × List Char)
  | '.' :: cs =>
    let digits := cs.takeWhile Char.isDigit
    let nine := (digits ++ List.replicate 9 '0').take 9
    if digits = [] then none
    else (Digits.value? 10 nine).map fun n => (some n, cs.dropWhile Char.isDigit)
  | cs => some (none, cs)

def readTime (edition : Edition) (cs : List Char) : Option (Time × List Char) := do
  let (hour, cs) ← readFixed 2 cs
  let (minute, cs) ← readFixed 2 (← readMark ':' cs)
  if 23 < hour ∨ 59 < minute then none
  else
    match readMark ':' cs with
    | none => if edition = .v1_1 then some (⟨hour, minute, none, none⟩, cs) else none
    | some cs =>
      let (second, cs) ← readFixed 2 cs
      let (nanosecond, cs) ← readDecimals cs
      if 60 < second then none else some (⟨hour, minute, some second, nanosecond⟩, cs)

/-- An offset, if there is one. -/
def readOffset (cs : List Char) : Option (Option Offset × List Char) :=
  match cs with
  | 'Z' :: r | 'z' :: r => some (some .utc, r)
  | c :: r =>
    if c = '+' || c = '-' then do
      let (hours, r) ← readFixed 2 r
      let (minutes, r) ← readFixed 2 (← readMark ':' r)
      let n : Int := hours * 60 + minutes
      if 23 < hours ∨ 59 < minutes then none
      else some (some (.minutes (if c = '-' then -n else n)), r)
    else some (none, cs)
  | [] => some (none, [])

/-- The time behind a date, if there is one. -/
def readTimeBehind (edition : Edition) (date : Date) (cs : List Char) :
    Option (Moment × List Char) :=
  match cs with
  | c :: r =>
    if c = 'T' || c = 't' || c = ' ' then
      match readTime edition r with
      | some (time, r) => do
        let (offset, r) ← readOffset r
        return (⟨some date, some time, offset⟩, r)
      | none => some (⟨some date, none, none⟩, cs)
    else some (⟨some date, none, none⟩, cs)
  | [] => some (⟨some date, none, none⟩, [])

def readMoment (edition : Edition) (cs : List Char) : Option (Moment × List Char) :=
  match readDate cs with
  | some (date, cs) => readTimeBehind edition date cs
  | none => (readTime edition cs).map fun (time, cs) => (⟨none, some time, none⟩, cs)

/-! ### All scalars -/

/-- A moment, else a floating point number, else an integer. -/
def readNumber (edition : Edition) (cs : List Char) : Option (Value × List Char) :=
  match readMoment edition cs with
  | some (m, cs) => some (.moment m, cs)
  | none =>
    match readFloat edition cs with
    | some (x, cs) => some (.float x, cs)
    | none => (readInteger cs).map fun (n, cs) => (.integer n, cs)

def readScalar (edition : Edition) (cs : List Char) : Option (Value × List Char) :=
  match cs with
  | 't' :: 'r' :: 'u' :: 'e' :: r => some (.boolean true, r)
  | 'f' :: 'a' :: 'l' :: 's' :: 'e' :: r => some (.boolean false, r)
  | '"' :: _ | '\'' :: _ => (readAnyString edition cs).map fun (s, r) => (.text s, r)
  | _ => readNumber edition cs

end DeviceGateway.Toml
