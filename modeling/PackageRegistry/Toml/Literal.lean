import PackageRegistry.Toml.Scan
import PackageRegistry.Text.Integer
import PackageRegistry.Decimal.Binary
/-!
# Numbers, dates and times in TOML

Values read by shape: dates, times and date-times with range-checked fields; integers in decimal
(at most 4300 digits) or with `0x`, `0o`, `0b`; floats with a fraction or exponent, `inf` or
`nan`.
-/

namespace PackageRegistry.Toml

open PackageRegistry.Text PackageRegistry.Decimal

/-! ## Dates and times -/

def asciiNumber (cs : List Char) : Nat :=
  cs.foldl (fun n c => 10 * n + (c.toNat - '0'.toNat)) 0

/-- Two digits of a month, `01` to `12`. -/
def isMonthText (a b : Char) : Bool :=
  (a == '0' && '1' ≤ b && b ≤ '9') || (a == '1' && '0' ≤ b && b ≤ '2')

/-- Two digits of a day, `01` to `31`. -/
def isDayText (a b : Char) : Bool :=
  (a == '0' && '1' ≤ b && b ≤ '9') || ((a == '1' || a == '2') && b.isDigit) ||
    (a == '3' && (b == '0' || b == '1'))

/-- Two digits of an hour, `00` to `23`. -/
def isHourText (a b : Char) : Bool :=
  ((a == '0' || a == '1') && b.isDigit) || (a == '2' && '0' ≤ b && b ≤ '3')

/-- Two digits of minutes or seconds, `00` to `59`. -/
def isSixtyText (a b : Char) : Bool := '0' ≤ a && a ≤ '5' && b.isDigit

def readDate? : List Char → Option (CalendarDate × List Char)
  | y1 :: y2 :: y3 :: y4 :: '-' :: m1 :: m2 :: '-' :: d1 :: d2 :: rest =>
    if [y1, y2, y3, y4].all Char.isDigit && isMonthText m1 m2 && isDayText d1 d2 then
      some (⟨asciiNumber [y1, y2, y3, y4], asciiNumber [m1, m2], asciiNumber [d1, d2]⟩, rest)
    else none
  | _ => none

/-- The microseconds of a fraction's digits: the first six, padded with zeros. -/
def microsOf (ds : List Char) : Nat :=
  let six := ds.take 6
  asciiNumber six * Nat.pow 10 (6 - six.length)

/-- A time of day by its digits. -/
def readClock? : List Char → Option (ClockTime × List Char)
  | h1 :: h2 :: ':' :: m1 :: m2 :: ':' :: s1 :: s2 :: rest =>
    if isHourText h1 h2 && isSixtyText m1 m2 && isSixtyText s1 s2 then
      let (micro, after) := match rest with
        | '.' :: d :: more =>
          if d.isDigit then (microsOf (d :: more.takeWhile Char.isDigit), more.dropWhile Char.isDigit)
          else (0, rest)
        | _ => (0, rest)
      some (⟨asciiNumber [h1, h2], asciiNumber [m1, m2], asciiNumber [s1, s2], micro⟩, after)
    else none
  | _ => none

def readOffset? : List Char → Option (UtcOffset × List Char)
  | 'Z' :: rest => some (.utc, rest)
  | 'z' :: rest => some (.utc, rest)
  | s :: h1 :: h2 :: ':' :: m1 :: m2 :: rest =>
    if (s == '+' || s == '-') && isHourText h1 h2 && isSixtyText m1 m2 then
      some (.shift (s == '-') (asciiNumber [h1, h2]) (asciiNumber [m1, m2]), rest)
    else none
  | _ => none

def isLeapYear (y : Nat) : Bool := y % 4 == 0 && (y % 100 != 0 || y % 400 == 0)

def daysInMonth (y m : Nat) : Nat :=
  match m with
  | 2 => if isLeapYear y then 29 else 28
  | 4 | 6 | 9 | 11 => 30
  | _ => 31

def CalendarDate.isValid (d : CalendarDate) : Bool :=
  1 ≤ d.year && d.day ≤ daysInMonth d.year d.month

/-- A date or a date-time, by its shape; the date is not yet checked. -/
def readMoment? (cs : List Char) : Option (TomlValue × List Char) := do
  let (d, rest) ← readDate? cs
  match rest with
  | sep :: more =>
    if sep == 'T' || sep == 't' || sep == ' ' then
      match readClock? more with
      | some (t, r) =>
        match readOffset? r with
        | some (o, r') => some (.dateTime d t (some o), r')
        | none => some (.dateTime d t none, r)
      | none => some (.date d, rest)
    else some (.date d, rest)
  | [] => some (.date d, [])

def momentDate : TomlValue → Option CalendarDate
  | .dateTime d _ _ => some d
  | .date d => some d
  | _ => none

/-! ## Numbers -/

/-- Digits after a first, single underscores between digits: the longest run and the rest. -/
def digitTail (isDigit : Char → Bool) : List Char → List Char × List Char
  | '_' :: d :: rest =>
    if isDigit d then
      let (t, r) := digitTail isDigit rest
      ('_' :: d :: t, r)
    else ([], '_' :: d :: rest)
  | d :: rest =>
    if isDigit d then
      let (t, r) := digitTail isDigit rest
      (d :: t, r)
    else ([], d :: rest)
  | [] => ([], [])

def digitRunOf? (isDigit : Char → Bool) : List Char → Option (List Char × List Char)
  | d :: rest =>
    if isDigit d then
      let (t, r) := digitTail isDigit rest
      some (d :: t, r)
    else none
  | [] => none

/-- The value of digits in a base, underscores skipped. -/
def radixValue (base : Nat) (ds : List Char) : Nat :=
  (ds.filter (· != '_')).foldl (fun n c => base * n + ((hexDigitValue? c).getD 0)) 0

def isBinaryDigit (c : Char) : Bool := c == '0' || c == '1'

def isOctalDigit (c : Char) : Bool := '0' ≤ c && c ≤ '7'

/-- A sign, if one is there. -/
def signPart : List Char → List Char × List Char
  | '+' :: rest => (['+'], rest)
  | '-' :: rest => (['-'], rest)
  | cs => ([], cs)

/-- The integer part of a decimal number: `0`, or digits without a leading zero. -/
def integerPart? : List Char → Option (List Char × List Char)
  | '0' :: rest => some (['0'], rest)
  | d :: rest =>
    if '1' ≤ d && d ≤ '9' then
      let (t, r) := digitTail Char.isDigit rest
      some (d :: t, r)
    else none
  | [] => none

/-- A fraction, if one is there: a dot and digits. -/
def fractionPart (cs : List Char) : List Char × List Char :=
  match cs with
  | '.' :: rest =>
    match digitRunOf? Char.isDigit rest with
    | some (ds, r) => ('.' :: ds, r)
    | none => ([], cs)
  | _ => ([], cs)

/-- An exponent, if one is there: `e` or `E`, a sign and digits. -/
def exponentPart (cs : List Char) : List Char × List Char :=
  match cs with
  | e :: rest =>
    if e == 'e' || e == 'E' then
      let (s, body) := signPart rest
      match digitRunOf? Char.isDigit body with
      | some (ds, r) => (e :: s ++ ds, r)
      | none => ([], cs)
    else ([], cs)
  | [] => ([], [])

/-- The double a decimal float token stands for. -/
def floatOfToken (sign intDigits fraction exponent : List Char) : Float :=
  let clean := fun (cs : List Char) => cs.filter Char.isDigit
  let fracDigits := clean fraction
  let m := asciiNumber (clean intDigits ++ fracDigits)
  let (expSign, expBody) := signPart (exponent.drop 1)
  let e : Int := (if expSign == ['-'] then -1 else 1) * (asciiNumber (clean expBody) : Int)
  nearestDouble (sign == ['-']) m (e - fracDigits.length)

/-- A decimal integer or float. -/
def decimalNumber? (cs : List Char) : Option (Reading (TomlValue × List Char)) := do
  let (sign, body) := signPart cs
  let (intDigits, rest) ← integerPart? body
  let (fraction, rest) := fractionPart rest
  let (exponent, rest) := exponentPart rest
  if fraction.isEmpty && exponent.isEmpty then
    match readInteger (String.ofList (sign ++ intDigits)) with
    | .ok n => some (.ok (.integer n, rest))
    | .error (.tooManyDigits count) => some (.error (.integerTooLong count))
    | .error (.malformed _) => none
  else some (.ok (.float (floatOfToken sign intDigits fraction exponent), rest))

def prefixedInteger? (cs : List Char) : Option (TomlValue × List Char) :=
  let digitsIn := fun (base : Nat) (isDigit : Char → Bool) (rest : List Char) =>
    (digitRunOf? isDigit rest).map fun (ds, r) => (TomlValue.integer (radixValue base ds), r)
  match cs with
  | '0' :: 'x' :: rest => digitsIn 16 isHexDigit rest
  | '0' :: 'o' :: rest => digitsIn 8 isOctalDigit rest
  | '0' :: 'b' :: rest => digitsIn 2 isBinaryDigit rest
  | _ => none

def infinity : Float := doubleOfFields false 2047 0

def notANumber : Float := doubleOfFields false 2047 (Nat.pow 2 51)

/-- The special floats `inf` and `nan`, with an optional sign. -/
def specialFloat? : List Char → Option (TomlValue × List Char)
  | 'i' :: 'n' :: 'f' :: rest => some (.float infinity, rest)
  | 'n' :: 'a' :: 'n' :: rest => some (.float notANumber, rest)
  | s :: 'i' :: 'n' :: 'f' :: rest =>
    if s == '+' then some (.float infinity, rest)
    else if s == '-' then some (.float (-infinity), rest)
    else none
  | s :: 'n' :: 'a' :: 'n' :: rest =>
    if s == '+' || s == '-' then some (.float notANumber, rest) else none
  | _ => none

/-- A value by shape at `depth`: date or date-time, time, number or special float, in order,
converted deeper. -/
def shapedValue (depth : Nat) (cs : List Char) : Reading (TomlValue × List Char) := do
  within (depth + 1) .builtin
  match readMoment? cs with
  | some (v, rest) => do
    within (depth + 2) .builtin
    match v with
    | .dateTime _ _ (some (.shift ..)) => do
      within (depth + 3) .comparison
      within (depth + 4) .comparison
    | _ => pure ()
    if (momentDate v).all CalendarDate.isValid then .ok (v, rest)
    else faultFrom depth "Invalid date or datetime" cs
  | none =>
    match readClock? cs with
    | some (t, rest) => do
      within (depth + 2) .builtin
      .ok (.time t, rest)
    | none =>
      match prefixedInteger? cs with
      | some r => do
        within (depth + 2) .builtin
        .ok r
      | none =>
        match decimalNumber? cs with
        | some r => do
          within (depth + 2) .builtin
          r
        | none =>
          match specialFloat? cs with
          | some r => .ok r
          | none => faultFrom depth "Invalid value" cs

end PackageRegistry.Toml
