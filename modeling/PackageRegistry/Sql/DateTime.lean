import PackageRegistry.Sql.Printf
/-!
# Dates and times

`date`, `time`, `datetime`, `julianday`, `unixepoch` and `strftime` read a moment, shift it by
modifiers and write it. Anything unreadable, an inapplicable modifier or an out-of-range moment
gives `NULL`.
-/

namespace PackageRegistry.Sql

/-- A moment of the date functions: julian day in milliseconds, date, clock and zone offset,
each with its validity; whether a raw number, whether a zone was written, whether failed. -/
structure Moment where
  julian : Int := 0
  year : Int := 0
  month : Int := 0
  day : Int := 0
  hour : Int := 0
  minute : Int := 0
  zone : Int := 0
  second : Float := 0.0
  hasJulian : Bool := false
  raw : Bool := false
  hasDate : Bool := false
  hasClock : Bool := false
  hasZone : Bool := false
  zoneWritten : Bool := false
  failed : Bool := false

def Moment.failure : Moment := { failed := true }

/-- The julian-day count of the fixed moment `now` stands for: 2026-01-01 00:00:00. -/
def nowJulian : Int := 212633985600000

/-- Whether a julian-day count is in range: from day zero to the end of 9999. -/
def validJulian (jd : Int) : Bool := 0 ≤ jd && jd ≤ 464269060799999

/-- A double truncated toward zero, as an integer. -/
def truncReal (x : Float) : Int := truncateToInteger x

/-- The julian-day count from date and clock, zone folded in; a year outside `-4713 … 9999` or
a raw number fails. -/
def Moment.withJulian (m : Moment) : Moment :=
  if m.hasJulian then m
  else
    let (y, mo, d) := if m.hasDate then (m.year, m.month, m.day) else (2000, 1, 1)
    if y < -4713 || y > 9999 || m.raw then Moment.failure
    else
      let (y, mo) := if mo ≤ 2 then (y - 1, mo + 12) else (y, mo)
      let a := y.tdiv 100
      let b := 2 - a + a.tdiv 4
      let x1 := (36525 * (y + 4716)).tdiv 100
      let x2 := (306001 * (mo + 1)).tdiv 10000
      let m := { m with julian := (x1 + x2 + d + b) * 86400000 - 131716800000, hasJulian := true }
      if !m.hasClock then m
      else
        let jd := m.julian + m.hour * 3600000 + m.minute * 60000 + truncReal (m.second * 1000.0 + 0.5)
        if m.hasZone then
          { m with julian := jd - m.zone * 60000, hasDate := false, hasClock := false,
                   hasZone := false }
        else { m with julian := jd }

/-- The calendar date computed from the julian-day count (2000-01-01 without one); a count
out of range fails. -/
def Moment.withDate (m : Moment) : Moment :=
  if m.hasDate then m
  else if !m.hasJulian then { m with year := 2000, month := 1, day := 1, hasDate := true }
  else if !validJulian m.julian then Moment.failure
  else
    let z := (m.julian + 43200000).tdiv 86400000
    let a := truncReal ((integerToReal z - 1867216.25) / 36524.25)
    let a := z + 1 + a - a.tdiv 4
    let b := a + 1524
    let c := truncReal ((integerToReal b - 122.1) / 365.25)
    let d := (36525 * (c % 32768)).tdiv 100
    let e := truncReal (integerToReal (b - d) / 30.6001)
    let x1 := truncReal (30.6001 * integerToReal e)
    let month := if e < 14 then e - 1 else e - 13
    { m with day := b - d - x1, month, year := if month > 2 then c - 4716 else c - 4715,
             hasDate := true }

/-- The clock time computed from the julian-day count. -/
def Moment.withClock (m : Moment) : Moment :=
  if m.hasClock then m
  else
    let m := m.withJulian
    let ms := (m.julian + 43200000).tmod 86400000
    let s := integerToReal ms / 1000.0
    let whole := truncReal s
    let hour := whole.tdiv 3600
    let rest := whole - hour * 3600
    let minute := rest.tdiv 60
    { m with hour, minute, second := s - integerToReal whole + integerToReal (rest - minute * 60),
             raw := false, hasClock := true }

def Moment.withDateClock (m : Moment) : Moment := m.withDate.withClock

/-- The moment with only its julian-day count left valid. -/
def Moment.onlyJulian (m : Moment) : Moment :=
  { m with hasDate := false, hasClock := false, hasZone := false }

/-- A raw number read as the moment: a julian day when it lies in range. -/
def Moment.ofNumber (r : Float) : Moment :=
  if 0.0 ≤ r && r < 5373484.5 then
    { second := r, raw := true, julian := truncReal (r * 86400000.0 + 0.5), hasJulian := true }
  else { second := r, raw := true }

/-! ## Reading text -/

/-- Exactly `count` digits at the start of text: their value after `acc` and the text after
them. -/
def fixedDigits : Nat → Nat → List UInt8 → Option (Nat × List UInt8)
  | 0, acc, bs => some (acc, bs)
  | n + 1, acc, b :: bs => if isDigitByte b then fixedDigits n (acc * 10 + digitValue b) bs else none
  | _ + 1, _, [] => none

/-- `count` digits between `lo` and `hi`, then the separator if asked: the value and the rest. -/
def digitField (count lo hi : Nat) (sep : Option UInt8) (bs : List UInt8) :
    Option (Nat × List UInt8) := do
  let (v, rest) ← fixedDigits count 0 bs
  if v < lo || v > hi then none
  else
    match sep, rest with
    | none, _ => some (v, rest)
    | some c, b :: r => if b == c then some (v, r) else none
    | some _, [] => none

/-- The zone after a clock: blanks, then nothing, `Z`, or a sign with `HH:MM`, then only blanks.
-/
def readZone (m : Moment) (bs : List UInt8) : Option Moment :=
  let closing := fun (m : Moment) (rest : List UInt8) =>
    if (rest.dropWhile isSpaceByte).isEmpty then some { m with zoneWritten := true } else none
  let m := { m with zone := 0 }
  match bs.dropWhile isSpaceByte with
  | [] => some m
  | c :: rest =>
    if c == 45 || c == 43 then do
      let (h, r) ← digitField 2 0 14 (some 58) rest
      let (mi, r) ← digitField 2 0 59 none r
      closing { m with zone := (if c == 45 then -1 else 1) * ((mi + h * 60 : Nat) : Int) } r
    else if c == 90 || c == 122 then closing m rest
    else none

/-- A fraction's digits as a double, value and power of ten summed digit by digit. -/
def fractionValue (ds : List UInt8) : Float :=
  let (v, scale) := ds.foldl (fun (acc : Float × Float) b =>
    ((acc.1 * 10.0 + (b.toNat.toFloat)) - 48.0, acc.2 * 10.0)) (0.0, 1.0)
  v / scale

/-- A clock `HH:MM[:SS[.F]]` with its zone, setting the clock of the moment. -/
def readClock (m : Moment) (bs : List UInt8) : Option Moment := do
  let (h, r) ← digitField 2 0 24 (some 58) bs
  let (mi, r) ← digitField 2 0 59 none r
  let (s, frac, r) ← match r with
    | 58 :: r => do
      let (s, r) ← digitField 2 0 59 none r
      match r with
      | 46 :: d :: more =>
        if isDigitByte d then
          let ds := (d :: more).takeWhile isDigitByte
          pure (s, fractionValue ds, (d :: more).drop ds.length)
        else pure (s, 0.0, r)
      | _ => pure (s, 0.0, r)
    | _ => pure (0, 0.0, r)
  let m := { m with hasJulian := false, raw := false, hasClock := true, hour := h, minute := mi,
                    second := s.toFloat + frac }
  let m ← readZone m r
  pure { m with hasZone := m.zone != 0 }

/-- A date `[-]YYYY-MM-DD`, then blanks or `T` and either a clock or the end. -/
def readDate (m : Moment) (bs : List UInt8) : Option Moment := do
  let (negative, bs) := match bs with
    | 45 :: r => (true, r)
    | _ => (false, bs)
  let (y, r) ← digitField 4 0 9999 (some 45) bs
  let (mo, r) ← digitField 2 1 12 (some 45) r
  let (d, r) ← digitField 2 1 31 none r
  let r := r.dropWhile fun b => isSpaceByte b || b == 84
  let m ← match readClock m r with
    | some m => some m
    | none => if r.isEmpty then some { m with hasClock := false } else none
  let m := { m with hasJulian := false, hasDate := true,
                    year := if negative then -(y : Int) else y, month := mo, day := d }
  pure (if m.hasZone then m.withJulian else m)

/-- Whether text is a word, ignoring the case of ASCII letters (the word in lower case). -/
def isWord (bs : List UInt8) (word : String) : Bool := bs.map foldByte == bytesOf word

/-- Text read as a moment: a date, a clock, `now`, or a number as a whole. -/
def readMomentText (bs : List UInt8) : Option Moment :=
  match readDate {} bs with
  | some m => some m
  | none =>
    match readClock {} bs with
    | some m => some m
    | none =>
      if isWord bs "now" then some { julian := nowJulian, hasJulian := true }
      else
        let scan := readReal bs
        if scan.code > 0 then some (Moment.ofNumber scan.value) else none

/-! ## Modifiers -/

/-- The units a moment shifts by: name, exclusive bound on the count, and seconds per unit. -/
def shiftUnits : List (String × Float × Float) :=
  [("second", 464269992787968.0, 1.0), ("minute", 7737900007424.0, 60.0),
   ("hour", 128969998336.0, 3600.0), ("day", 5373485.0, 86400.0),
   ("month", 176546.0, 2592000.0), ("year", 14713.0, 31536000.0)]

/-- A moment shifted by `r` units: months and years by the whole part on the calendar, then the
milliseconds left. -/
def shiftBy (m : Moment) (r : Float) (unit : List UInt8) : Option Moment :=
  let m := m.withJulian
  let rounder := if r < 0.0 then -0.5 else 0.5
  match shiftUnits.find? fun (name, limit, _) => isWord unit name && r > -limit && r < limit with
  | none => none
  | some (name, _, perUnit) =>
    let whole := truncReal r
    let (m, r) :=
      if name == "month" then
        let m := m.withDateClock
        let mo := m.month + whole
        let x := if mo > 0 then (mo - 1).tdiv 12 else (mo - 12).tdiv 12
        ({ m with year := m.year + x, month := mo - x * 12, hasJulian := false },
          r - integerToReal whole)
      else if name == "year" then
        let m := m.withDateClock
        ({ m with year := m.year + whole, hasJulian := false }, r - integerToReal whole)
      else (m, r)
    let m := m.withJulian
    some { m with julian := m.julian + truncReal (r * 1000.0 * perUnit + rounder) }

/-- A modifier starting with a sign or a digit: `±HH:MM[:SS[.F]]`, or a count and a unit. -/
def numericModifier (m : Moment) (z : List UInt8) : Option Moment :=
  let count := 1 + ((z.drop 1).takeWhile fun b => b != 58 && !isSpaceByte b).length
  if (readReal (z.take count)).code ≤ 0 then none
  else
    let r := (readReal (z.take count)).value
    match z.drop count with
    | 58 :: _ => do
      let clock := match z with
        | c :: rest => if isDigitByte c then z else rest
        | [] => z
      let tx ← readClock {} clock
      let tx := tx.withJulian
      let offset := tx.julian - 43200000
      let offset := offset - offset.tdiv 86400000 * 86400000
      let offset := if z.head? == some 45 then -offset else offset
      let m := m.withJulian.onlyJulian
      some { m with julian := m.julian + offset }
    | rest =>
      let unit := rest.dropWhile isSpaceByte
      if unit.length > 10 || unit.length < 3 then none
      else
        let unit := if foldByte (unit.getLastD 0) == 115 then unit.dropLast else unit
        (shiftBy m r unit).map (·.onlyJulian)

/-- One modifier, the `index`-th argument (from one), applied to a moment. -/
def applyModifier (m : Moment) (z : List UInt8) (index : Nat) : Option Moment :=
  match z.head?.map foldByte with
  | some 97 =>
    if !isWord z "auto" then none
    else if index > 1 then none
    else if !m.raw || m.hasJulian then some { m with raw := false }
    else if m.second ≥ -210866760000.0 && m.second ≤ 253402300799.0 then
      let m := m.onlyJulian
      some { m with julian := truncReal (m.second * 1000.0 + 210866760000000.0 + 0.5),
                    hasJulian := true, raw := false }
    else none
  | some 106 =>
    if !isWord z "julianday" || index > 1 then none
    else if m.hasJulian && m.raw then some { m with raw := false } else none
  | some 108 => if isWord z "localtime" then some m.withJulian.onlyJulian else none
  | some 117 =>
    if isWord z "unixepoch" && m.raw then
      if index > 1 then none
      else
        let r := m.second * 1000.0 + 210866760000000.0
        if 0.0 ≤ r && r < 464269060800000.0 then
          some { m.onlyJulian with julian := truncReal (r + 0.5), hasJulian := true, raw := false }
        else none
    else if isWord z "utc" then
      if m.zoneWritten then some m
      else some { m.withJulian.onlyJulian with zoneWritten := true }
    else none
  | some 119 =>
    if !isWord (z.take 8) "weekday " then none
    else
      let scan := readReal (z.drop 8)
      let r := scan.value
      if scan.code > 0 && r ≥ 0.0 && r < 7.0 && integerToReal (truncReal r) == r then
        let n := truncReal r
        let m := { m.withDateClock with hasZone := false, hasJulian := false }.withJulian
        let w := ((m.julian + 129600000).tdiv 86400000).tmod 7
        let w := if w > n then w - 7 else w
        some { m with julian := m.julian + (n - w) * 86400000 }.onlyJulian
      else none
  | some 115 =>
    if !isWord (z.take 9) "start of " then none
    else if !m.hasJulian && !m.hasDate && !m.hasClock then none
    else
      let m := { m.withDate with hasClock := true, hour := 0, minute := 0, second := 0.0,
                                 raw := false, hasZone := false, hasJulian := false }
      let unit := z.drop 9
      if isWord unit "month" then some { m with day := 1 }
      else if isWord unit "year" then some { m with month := 1, day := 1 }
      else if isWord unit "day" then some m
      else none
  | some c =>
    if c == 43 || c == 45 || isDigitByte c then numericModifier m z else none
  | none => none

/-- The modifiers applied in turn, numbered from `index`. -/
def applyModifiers (m : Moment) : Nat → List SqlValue → Option Moment
  | _, [] => some m
  | index, v :: rest => do
    let z ← v.textBytes?
    let m ← applyModifier m (beforeNul z) index
    applyModifiers m (index + 1) rest

/-- A date function's moment: the first argument (`now` if none), the rest as modifiers; none if
a step fails or out of range. -/
def readMoment (args : List SqlValue) : Option Moment := do
  match args with
  | [] => some { julian := nowJulian, hasJulian := true }
  | first :: modifiers =>
    let m ← match first with
      | .null => none
      | .integer _ | .real _ => some (Moment.ofNumber first.realValue)
      | v => readMomentText (beforeNul v.textBytes)
    let m ← applyModifiers m 1 modifiers
    let m := m.withJulian
    if m.failed || !validJulian m.julian then none else some m

/-! ## Writing -/

/-- An integer as decimal digits, zero-padded after any sign to at least `width` characters. -/
def padded (width : Nat) (n : Int) : String :=
  let digits := toString n.natAbs
  let sign := if n < 0 then "-" else ""
  let fill := width - sign.length - digits.length
  sign ++ String.ofList (List.replicate fill '0') ++ digits

/-- The date of a moment, `YYYY-MM-DD`, with a sign before the four digits of a year before
year zero. -/
def Moment.dateText (m : Moment) : String :=
  let m := m.withDate
  (if m.year < 0 then "-" else "") ++ padded 4 m.year.natAbs ++ "-" ++ padded 2 m.month ++ "-" ++
    padded 2 m.day

/-- The clock of a moment, `HH:MM:SS`. -/
def Moment.clockText (m : Moment) : String :=
  let m := m.withClock
  padded 2 m.hour ++ ":" ++ padded 2 m.minute ++ ":" ++ padded 2 (truncReal m.second)

def Moment.unixSeconds (m : Moment) : Int := m.julian.tdiv 1000 - 210866760000

/-- A double written by a `printf` format. -/
def formatReal (format : String) (x : Float) : String :=
  stringOfBytes (printfValue [.ofString format, .real x]).textBytes

/-- One `strftime` conversion of a computed moment; none for a non-conversion letter. -/
def strftimeField (m : Moment) (c : UInt8) : Option String :=
  let dayOfYear := fun (_ : Unit) =>
    let start := { m with hasJulian := false, month := 1, day := 1 }.withJulian
    (m.julian - start.julian + 43200000).tdiv 86400000
  match c with
  | 100 => some (padded 2 m.day)
  | 102 => some (formatReal "%06.3f" (if m.second > 59.999 then 59.999 else m.second))
  | 72 => some (padded 2 m.hour)
  | 106 => some (padded 3 (dayOfYear () + 1))
  | 87 =>
    let wd := ((m.julian + 43200000).tdiv 86400000).tmod 7
    some (padded 2 ((dayOfYear () + 7 - wd).tdiv 7))
  | 74 => some (formatReal "%.16g" (integerToReal m.julian / 86400000.0))
  | 109 => some (padded 2 m.month)
  | 77 => some (padded 2 m.minute)
  | 115 => some (toString m.unixSeconds)
  | 83 => some (padded 2 (truncReal m.second))
  | 119 => some (toString (((m.julian + 129600000).tdiv 86400000).tmod 7))
  | 89 => some (padded 4 m.year)
  | 37 => some "%"
  | _ => none

/-- A `strftime` format filled from a moment, other bytes kept; none at a bad conversion (or a
final `%`). -/
def strftimeText (m : Moment) : List UInt8 → Option (List UInt8)
  | [] => some []
  | 37 :: rest =>
    match rest with
    | c :: more => do
      let field ← strftimeField m c
      let tail ← strftimeText m more
      pure (bytesOf field ++ tail)
    | [] => none
  | b :: rest => (strftimeText m rest).map (b :: ·)

/-- A date function by upper-case name applied to its arguments; the `CURRENT_*` ones take
none. -/
def applyDateFunction (name : String) (args : List SqlValue) : Option SqlValue :=
  let text := fun (f : Moment → String) =>
    some ((readMoment args).elim .null fun m => .ofString (f m))
  match name with
  | "DATE" | "CURRENT_DATE" => text Moment.dateText
  | "TIME" | "CURRENT_TIME" => text Moment.clockText
  | "DATETIME" | "CURRENT_TIMESTAMP" => text fun m => m.dateText ++ " " ++ m.clockText
  | "JULIANDAY" =>
    some ((readMoment args).elim .null fun m => .real (integerToReal m.julian / 86400000.0))
  | "UNIXEPOCH" => some ((readMoment args).elim .null fun m => .integer m.unixSeconds)
  | "STRFTIME" =>
    match args with
    | [] => some .null
    | f :: rest =>
      some (match f.textBytes?, readMoment rest with
        | some fmt, some m =>
          match strftimeText m.withDateClock (beforeNul fmt) with
          | some bs => .text bs
          | none => .null
        | _, _ => .null)
  | _ => none

end PackageRegistry.Sql
