import PackageRegistry.Text.Quoted
/-!
# Timestamps

A calendar date with a time of day to the microsecond, no zone; stored as
`YYYY-MM-DD HH:MM:SS.ffffff` and shown as `YYYY-MM-DDTHH:MM:SS`, with `.ffffff` only when
there are microseconds.
-/

namespace PackageRegistry.Store

open PackageRegistry.Text

/-- A date and time of day, to the microsecond. -/
structure Timestamp where
  year : Nat
  month : Nat
  day : Nat
  hour : Nat := 0
  minute : Nat := 0
  second : Nat := 0
  micro : Nat := 0
  deriving Repr, BEq, DecidableEq, Inhabited

/-- The timestamp used when none is given: the first moment of 2000. -/
def Timestamp.fallback : Timestamp := { year := 2000, month := 1, day := 1 }

/-- A number with leading zeros to a width. -/
def padded (width n : Nat) : String :=
  let s := toString n
  String.ofList (List.replicate (width - s.length) '0') ++ s

/-- The date part, `YYYY-MM-DD`. -/
def Timestamp.dateText (t : Timestamp) : String :=
  padded 4 t.year ++ "-" ++ padded 2 t.month ++ "-" ++ padded 2 t.day

/-- The time part, `HH:MM:SS`. -/
def Timestamp.clockText (t : Timestamp) : String :=
  padded 2 t.hour ++ ":" ++ padded 2 t.minute ++ ":" ++ padded 2 t.second

/-- The stored text, `YYYY-MM-DD HH:MM:SS.ffffff`. -/
def Timestamp.storageText (t : Timestamp) : String :=
  t.dateText ++ " " ++ t.clockText ++ "." ++ padded 6 t.micro

/-- The shown text, `YYYY-MM-DDTHH:MM:SS` with `.ffffff` when there are microseconds. -/
def Timestamp.isoText (t : Timestamp) : String :=
  t.dateText ++ "T" ++ t.clockText ++ (if t.micro == 0 then "" else "." ++ padded 6 t.micro)

/-- The text with a space between date and time, `.ffffff` only when there are microseconds. -/
def Timestamp.spacedText (t : Timestamp) : String :=
  t.dateText ++ " " ++ t.clockText ++ (if t.micro == 0 then "" else "." ++ padded 6 t.micro)

/-- The number of days of a month. -/
def monthLength (year month : Nat) : Nat :=
  match month with
  | 2 => if year % 4 == 0 && (year % 100 != 0 || year % 400 == 0) then 29 else 28
  | 4 | 6 | 9 | 11 => 30
  | _ => 31

def isLeapYear (year : Nat) : Bool :=
  year % 4 == 0 && (year % 100 != 0 || year % 400 == 0)

/-- The number of days before the first of January of a year, counted from the first of
January of year 1. -/
def daysBeforeYear (year : Nat) : Nat :=
  let y := year - 1
  y * 365 + y / 4 - y / 100 + y / 400

/-- The number of days of a year before the first of a month. -/
def daysBeforeMonth (year month : Nat) : Nat :=
  (List.range (month - 1)).foldl (fun acc k => acc + monthLength year (k + 1)) 0

/-- The day number of a date, the first of January of year 1 being day 1. -/
def dayNumber (year month day : Nat) : Nat :=
  daysBeforeYear year + daysBeforeMonth year month + day

/-- The month and day of the `n`-th day (from 0) of a year. -/
def monthDayOf (year n : Nat) : Nat × Nat :=
  let step := fun (acc : Nat × Nat × Bool) (m : Nat) =>
    let (month, left, found) := acc
    if found then acc
    else if left < monthLength year m then (m, left, true)
    else (month, left - monthLength year m, false)
  let (month, left, _) := (List.range 12).map (· + 1) |>.foldl step (12, n, false)
  (month, left + 1)

/-- The date of a day number, 1 January of year 1 being day 1: cycles of 400, 100, 4 and 1 years
counted off first. -/
def dateOfDayNumber (number : Nat) : Nat × Nat × Nat :=
  let n := number - 1
  let n400 := n / 146097
  let n := n % 146097
  let n100 := n / 36524
  let n := n % 36524
  let n4 := n / 1461
  let n := n % 1461
  let n1 := n / 365
  let n := n % 365
  let year := n400 * 400 + 1 + n100 * 100 + n4 * 4 + n1
  -- the last day of a leap cycle
  if n1 == 4 || n100 == 4 then (year - 1, 12, 31)
  else
    let (month, day) := monthDayOf year n
    (year, month, day)

end PackageRegistry.Store
