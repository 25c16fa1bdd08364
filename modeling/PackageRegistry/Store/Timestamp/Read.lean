import PackageRegistry.Store.Timestamp
import PackageRegistry.Text.Quoted
/-!
# Reading ISO 8601 timestamps

Timestamps are read byte by byte: a date, a separator, a time with optional fraction, and a
zone dropped. Fields are range checked in order.
-/

namespace PackageRegistry.Store

open PackageRegistry.Text

/-! ## Bytes -/

/-- The byte at a position of a text, `0` past its end. -/
def byteAt (bs : List Nat) (i : Nat) : Nat := bs.getD i 0

def isDigitByte (b : Nat) : Bool := 48 ≤ b && b ≤ 57

/-- The value of `n` digits starting at a position, or none when one of them is no digit. -/
def digitsAt (bs : List Nat) (i n : Nat) : Option Nat :=
  (List.range n).foldlM (fun acc k =>
    let b := byteAt bs (i + k)
    if isDigitByte b then some (acc * 10 + (b - 48)) else none) 0

/-- The byte of an ASCII character. -/
def byteOf (c : Char) : Nat := c.toNat

/-! ## Errors -/

/-- Why text is not a timestamp. -/
inductive TimestampError where
  /-- The text does not have the shape of one. -/
  | malformed (text : String)
  /-- The zone offset is a whole day or more either way: the offset as days, seconds and
  microseconds, the seconds and microseconds not negative. -/
  | offsetOutOfRange (days : Int) (seconds micros : Nat)
  | yearOutOfRange (year : Nat)
  | monthOutOfRange
  | dayOutOfRange
  | hourOutOfRange
  | minuteOutOfRange
  | secondOutOfRange
  deriving Repr, BEq, DecidableEq

/-- The text of a span of time: its non-zero days, seconds and microseconds, or `0`. -/
def durationText (days : Int) (seconds micros : Nat) : String :=
  let parts := (if days != 0 then ["days=" ++ toString days] else []) ++
    (if seconds != 0 then ["seconds=" ++ toString seconds] else []) ++
    (if micros != 0 then ["microseconds=" ++ toString micros] else [])
  "datetime.timedelta(" ++ (if parts.isEmpty then "0" else ", ".intercalate parts) ++ ")"

def TimestampError.message : TimestampError → String
  | .malformed text => "Invalid isoformat string: " ++ quoted text
  | .offsetOutOfRange days seconds micros =>
    "offset must be a timedelta strictly between -timedelta(hours=24) and " ++
      "timedelta(hours=24), not " ++ durationText days seconds micros ++ "."
  | .yearOutOfRange year => "year " ++ toString year ++ " is out of range"
  | .monthOutOfRange => "month must be in 1..12"
  | .dayOutOfRange => "day is out of range for month"
  | .hourOutOfRange => "hour must be in 0..23"
  | .minuteOutOfRange => "minute must be in 0..59"
  | .secondOutOfRange => "second must be in 0..59"

/-! ## Dates -/

/-- The date-time separator's position, from the date's shape; none if impossible. -/
def separatorPosition (bs : List Nat) : Option Nat :=
  let len := bs.length
  if len == 7 then some 7
  else if byteAt bs 4 == byteOf '-' then
    if byteAt bs 5 == byteOf 'W' then
      if len < 8 then none
      else if len > 8 && byteAt bs 8 == byteOf '-' then
        if len == 9 then none
        else if len > 10 && isDigitByte (byteAt bs 10) then some 8
        else some 10
      else some 8
    else some 10
  else if byteAt bs 4 == byteOf 'W' then
    let last := 7 + ((bs.drop 7).takeWhile isDigitByte).length
    if last < 9 then some last
    else if last % 2 == 0 then some 7 else some 8
  else some 8

/-- Whether an ISO year has a 53rd week: it starts on a Thursday, or is a leap year starting on a
Wednesday. -/
def hasWeek53 (year : Nat) : Bool :=
  let weekday := (dayNumber year 1 1 + 6) % 7
  weekday == 3 || (weekday == 2 && isLeapYear year)

/-- The day number of the Monday of the first ISO week of a year. -/
def firstWeekMonday (year : Nat) : Nat :=
  let first := dayNumber year 1 1
  let weekday := (first + 6) % 7
  if weekday > 3 then first - weekday + 7 else first - weekday

/-- The calendar date of an ISO week date, if the week and weekday are in range; in year 0 it
is month 0 of year 1. -/
def weekDate? (year week weekday : Nat) : Option (Nat × Nat × Nat) :=
  if (week == 0 || week ≥ 53) && !(week == 53 && year ≥ 1 && hasWeek53 year) then none
  else if weekday == 0 || weekday ≥ 8 then none
  else if year == 0 then some (1, 0, 0)
  else some (dateOfDayNumber (firstWeekMonday year + (week - 1) * 7 + weekday - 1))

/-- The date at the start of a text whose date part is `len` bytes long. -/
def readDate (bs : List Nat) (len : Nat) : Option (Nat × Nat × Nat) := do
  let year ← digitsAt bs 0 4
  let dashed := byteAt bs 4 == byteOf '-'
  let p := if dashed then 5 else 4
  if byteAt bs p == byteOf 'W' then
    let week ← digitsAt bs (p + 1) 2
    let q := p + 3
    let weekday ← if q < len then
        if dashed && byteAt bs q != byteOf '-' then none
        else digitsAt bs (if dashed then q + 1 else q) 1
      else some 1
    weekDate? year week weekday
  else
    let month ← digitsAt bs p 2
    let q := p + 2
    if dashed && byteAt bs q != byteOf '-' then none
    else
      let day ← digitsAt bs (if dashed then q + 1 else q) 2
      pure (year, month, day)

/-! ## Times -/

/-- The fields of a time of day as read, and whether anything but the end follows them. -/
structure ClockRead where
  fields : List Nat
  micros : Nat := 0
  trailing : Bool

/-- A time's fraction at `p` before `stop`: six digits scaled to microseconds, more digits
skipped. -/
def readFraction (bs : List Nat) (stop p : Nat) (fields : List Nat) : Option ClockRead := do
  let count := min 6 (stop - p)
  let value ← digitsAt bs p count
  let after := p + count + ((bs.drop (p + count)).takeWhile isDigitByte).length
  pure { fields, micros := value * Nat.pow 10 (6 - count), trailing := byteAt bs after != 0 }

/-- Reads up to `left` more two-digit time fields at `p` before `stop`; `colons` whether they are
colon-separated. -/
def readFields (bs : List Nat) (stop : Nat) :
    Nat → Nat → Bool → List Nat → Option ClockRead
  | 0, p, _, fields => readFraction bs stop p fields
  | left + 1, p, colons, fields => do
    let v ← digitsAt bs p 2
    let c := byteAt bs (p + 2)
    let colons := if fields.isEmpty then c == byteOf ':' else colons
    let fields := fields ++ [v]
    let next := p + 3
    if next ≥ stop then some { fields, trailing := c != 0 }
    else if colons && c == byteOf ':' then readFields bs stop left next colons fields
    else if c == byteOf '.' || c == byteOf ',' then readFraction bs stop next fields
    else if !colons then readFields bs stop left (p + 2) colons fields
    else none

/-- Reads a time of day (or an offset) from position `p` up to `stop`. -/
def readClock (bs : List Nat) (p stop : Nat) : Option ClockRead :=
  readFields bs stop 3 p false []

/-- The hours, minutes and seconds of a clock read. -/
def ClockRead.hms (c : ClockRead) : Nat × Nat × Nat :=
  (c.fields.getD 0 0, c.fields.getD 1 0, c.fields.getD 2 0)

/-- A time of day with its zone offset in microseconds, if a zone was given. -/
structure TimeRead where
  hour : Nat
  minute : Nat
  second : Nat
  micros : Nat
  offset : Option Int

/-- Reads the time part of a text (the bytes after the separator). -/
def readTime (bs : List Nat) : Option TimeRead := do
  let len := bs.length
  let zoneAt := (bs.findIdx? fun b => b == byteOf 'Z' || b == byteOf '+' || b == byteOf '-').getD
    (max len 1)
  let clock ← readClock bs 0 zoneAt
  let (hour, minute, second) := clock.hms
  let base : TimeRead := { hour, minute, second, micros := clock.micros, offset := none }
  if zoneAt == len then
    if clock.trailing then none else pure base
  else if byteAt bs zoneAt == byteOf 'Z' then
    if byteAt bs (zoneAt + 1) != 0 then none else pure { base with offset := some 0 }
  else
    let sign : Int := if byteAt bs zoneAt == byteOf '-' then -1 else 1
    let zone ← readClock bs (zoneAt + 1) len
    if zone.trailing then none
    else
      let (h, m, s) := zone.hms
      pure { base with offset := some (sign * (((h * 3600 + m * 60 + s) * 1000000 + zone.micros : Nat) : Int)) }

/-! ## Timestamps -/

/-- The zone offset check: an offset in microseconds must be under a day either way. -/
def checkOffset (offset : Int) : Except TimestampError Unit :=
  let day : Int := 86400000000
  let days := offset.fdiv day
  let rest := (offset - days * day).toNat
  let seconds := rest / 1000000
  let micros := rest % 1000000
  if offset == 0 then .ok ()
  else if (days == -1 && seconds == 0 && micros == 0) || days < -1 || days ≥ 1 then
    .error (.offsetOutOfRange days seconds micros)
  else .ok ()

/-- Checks the fields of a date and time in order and makes the timestamp. -/
def checkedTimestamp (year month day hour minute second micro : Nat) :
    Except TimestampError Timestamp :=
  if year < 1 || year > 9999 then .error (.yearOutOfRange year)
  else if month < 1 || month > 12 then .error .monthOutOfRange
  else if day < 1 || day > monthLength year month then .error .dayOutOfRange
  else if hour > 23 then .error .hourOutOfRange
  else if minute > 59 then .error .minuteOutOfRange
  else if second > 59 then .error .secondOutOfRange
  else .ok { year, month, day, hour, minute, second, micro }

/-- Text with an unpaired surrogate at the first of characters 7, 8, 10 holding one read as the
separator `T`. -/
def surrogateSeparator (cs : List Char) : List Char :=
  match [7, 8, 10].find? fun i => (cs[i]?.bind standInUnit?).isSome with
  | some i => cs.set i 'T'
  | none => cs

/-- Reads an ISO 8601 date, or date and time; the zone is checked and dropped. -/
def Timestamp.read (s : String) : Except TimestampError Timestamp :=
  let cs := surrogateSeparator s.toList
  let bs := (String.ofList cs).toUTF8.toList.map (·.toNat)
  let malformed := TimestampError.malformed s
  if s.length < 7 || cs.any (standInUnit? · |>.isSome) then .error malformed
  else
    match separatorPosition bs with
    | none => .error malformed
    | some sep =>
      match readDate bs sep with
      | none => .error malformed
      | some (year, month, day) =>
        let time := if bs.length > sep then readTime (bs.drop (sep + 1))
          else some { hour := 0, minute := 0, second := 0, micros := 0, offset := none }
        match time with
        | none => .error malformed
        | some t => do
          checkOffset (t.offset.getD 0)
          checkedTimestamp year month day t.hour t.minute t.second t.micros

/-- Reads an ISO 8601 date, or date and time, if it is one. -/
def Timestamp.parse? (s : String) : Option Timestamp := (Timestamp.read s).toOption

end PackageRegistry.Store
