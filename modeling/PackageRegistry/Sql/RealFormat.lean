import PackageRegistry.Sql.Number
/-!
# Writing doubles

The database writes a double by a `printf`-like `%f`, `%e` or `%g` conversion, digits from
extended precision, at most sixteen significant. `realText` is the text a double becomes:
`%!.15g`.
-/

namespace PackageRegistry.Sql

open PackageRegistry.Decimal

/-- The three conversions of a double. -/
inductive RealConversion where
  /-- `%f`: fixed point. -/
  | fixed
  /-- `%e`: one digit, a point, and an exponent. -/
  | exponent
  /-- `%g`: the shorter of the two for the precision. -/
  | general
  deriving Repr, BEq, DecidableEq

/-- A conversion of a double with its precision and flags. -/
structure RealFormat where
  conversion : RealConversion
  precision : Nat := 6
  /-- `#`: keep the point and the trailing zeros. -/
  alternate : Bool := false
  /-- `!`: more digits, and a zero after a bare point. -/
  extended : Bool := false
  /-- `+` or a space written before a value that is not negative. -/
  signChar : Option Char := none
  /-- Whether the exponent is written with `E` rather than `e`. -/
  upperExponent : Bool := false
  deriving Repr, BEq

/-- Half a unit of the last of `precision` decimal places, in double arithmetic. -/
def halfUnit (precision : Nat) : Float :=
  let first := nearestDouble false 5 (-(Int.ofNat (precision % 10) + 1))
  (List.range (precision / 10)).foldl (fun r _ => r * nearestDouble false 1 (-10)) first

/-- The unbiased binary exponent of a double, from its bits. -/
def binaryExponent (x : Float) : Int :=
  Int.ofNat (x.toBits.toNat / Nat.pow 2 52 % 2048) - 1023

/-- Scales a positive value by `factor` while below `bound`, at most `fuel` times, `step` off the
exponent each. -/
def scaleUp (bound factor : Extended) (step : Int) : Nat → Extended × Int → Extended × Int
  | 0, acc => acc
  | fuel + 1, (v, e) => if v.lt bound then scaleUp bound factor step fuel (v.mul factor, e - step) else (v, e)

/-- Grows a scale by `factor` while the value is at least `bound` times it and the exponent at
most 350. -/
def growScale (v bound factor : Extended) (step : Int) : Nat → Extended × Int → Extended × Int
  | 0, acc => acc
  | fuel + 1, (scale, e) =>
    if v.ge (bound.mul scale) && e ≤ 350 then growScale v bound factor step fuel (scale.mul factor, e + step)
    else (scale, e)

/-- A positive value brought to at least one and below ten, with its decimal exponent. -/
def normalize (v : Extended) : Extended × Int :=
  let big := Extended.ofFloat (nearestDouble false 1 100)
  let ten10 := Extended.ofFloat (nearestDouble false 1 10)
  let ten := Extended.ofInt 10
  let one := Extended.ofInt 1
  let (scale, e) := growScale v big big 100 8 (one, 0)
  let (scale, e) := growScale v ten10 ten10 10 40 (scale, e)
  let (scale, e) := growScale v ten ten 1 40 (scale, e)
  let v := v.div scale
  let (v, e) := scaleUp (Extended.ofFloat (nearestDouble false 1 (-8))) (Extended.ofInt (Int.pow 10 8)) 8 60 (v, e)
  scaleUp one ten 1 60 (v, e)

/-- A scaled value's next digit and remainder while significant digits remain; then zero. -/
def nextDigit (v : Extended) (left : Nat) : Char × Extended × Nat :=
  match left with
  | 0 => ('0', v, 0)
  | left + 1 =>
    let d := v.truncate
    let rest := (v.sub (Extended.ofInt d)).mul (Extended.ofInt 10)
    (Char.ofNat (48 + d.toNat), rest, left)

/-- `count` digits of a scaled value. -/
def takeDigits : Nat → Extended → Nat → List Char × Extended × Nat
  | 0, v, left => ([], v, left)
  | count + 1, v, left =>
    let (c, v, left) := nextDigit v left
    let (cs, v, left) := takeDigits count v left
    (c :: cs, v, left)

/-- An exponent: its letter, a sign and at least two digits. -/
def exponentSuffix (letter : Char) (e : Int) : List Char :=
  let n := e.natAbs
  let body := (if n ≥ 100 then [Char.ofNat (48 + n / 100)] else []) ++
    [Char.ofNat (48 + n % 100 / 10), Char.ofNat (48 + n % 10)]
  letter :: (if e < 0 then '-' else '+') :: body

/-- Text with trailing zeros removed, and a bare point after them removed or, with the `!`
flag, given a zero. -/
def dropTrailingZeros (extended : Bool) (cs : List Char) : List Char :=
  let kept := (cs.reverse.dropWhile (· == '0')).reverse
  match kept.getLast? with
  | some '.' => if extended then kept ++ ['0'] else kept.dropLast
  | _ => kept

/-- The largest precision a conversion of a double uses. -/
def maxRealPrecision : Nat := 100000000

/-- A finite double laid out: magnitude scaled to one digit before the point, decimal exponent,
exponent form or not, digits after the point, trailing zeros dropped or not. -/
structure RealLayout where
  value : Extended
  exponent : Int
  useExponent : Bool
  precision : Int
  trim : Bool

/-- A double's layout in a conversion; none for an infinity. Precision capped; rounding uses it
modulo `4096`. -/
def RealFormat.layout (f : RealFormat) (x : Float) : Option RealLayout :=
  let negative := x < 0.0
  match Extended.ofFloat? x with
  | none => none
  | some v =>
    let v := if negative then v.neg else v
    let precision := min f.precision maxRealPrecision
    let precision := if f.conversion == .general && precision > 0 then precision - 1 else precision
    let rounder := halfUnit (precision % 4096)
    let v :=
      if f.conversion == .fixed then
        let widen := precision + (binaryExponent (if negative then -x else x)).tdiv 3 < 15
        let rounder :=
          if widen then
            (Extended.ofFloat rounder |>.add (v.mul (Extended.ofFloat (nearestDouble false 3 (-16))))).toFloat
          else rounder
        v.add (Extended.ofFloat rounder)
      else v
    let (v, e) := if v.isZero then (v, 0) else normalize v
    if e > 350 then none
    else
      let (v, e) :=
        if f.conversion != .fixed then
          let v := v.add (Extended.ofFloat rounder)
          if v.ge (Extended.ofInt 10) then (v.mul (Extended.ofFloat (nearestDouble false 1 (-1))), e + 1) else (v, e)
        else (v, e)
      let (useExponent, precision, trim) : Bool × Int × Bool :=
        match f.conversion with
        | .general =>
          if e < -4 || e > precision then (true, precision, !f.alternate)
          else (false, precision - e, !f.alternate)
        | .exponent => (true, precision, f.extended)
        | .fixed => (false, precision, f.extended)
      some { value := v, exponent := e, useExponent, precision, trim }

/-- A double conversion's working space beyond its width: digits around the point and fifteen;
none if infinite. -/
def RealFormat.workingSpace (f : RealFormat) (x : Float) : Option Nat :=
  (f.layout x).map fun l =>
    (if l.useExponent then 0 else max l.exponent 0).toNat + l.precision.toNat + 15

/-- The text of a double in a conversion, before any field width. -/
def RealFormat.render (f : RealFormat) (x : Float) : String :=
  let negative := x < 0.0
  let prefixText : List Char := if negative then ['-'] else f.signChar.toList
  match f.layout x with
  | none => String.ofList (prefixText ++ "Inf".toList)
  | some l =>
    let v := l.value
    let e := l.exponent
    let precision := l.precision
    let e2 : Int := if l.useExponent then 0 else e
    let significant := if f.extended then 26 else 16
    let withPoint := precision > 0 || f.alternate || f.extended
    let (intPart, v, left) :=
      if e2 < 0 then (['0'], v, significant)
      else takeDigits (e2.toNat + 1) v significant
    let point := if withPoint then ['.'] else []
    let leadingZeros := if e2 < -1 then (-(e2 + 1)).toNat else 0
    let fracCount := (precision - leadingZeros).toNat
    let (fracDigits, _, _) := takeDigits fracCount v left
    let body := intPart ++ point ++ List.replicate leadingZeros '0' ++ fracDigits
    let body := if l.trim && withPoint then dropTrailingZeros f.extended body else body
    let suffix := if l.useExponent then exponentSuffix (if f.upperExponent then 'E' else 'e') e else []
    String.ofList (prefixText ++ body ++ suffix)

/-- A double as text: the general form with fifteen significant digits and the `!` flag
(`0.3`, `1.0e+15`, `-Inf`). -/
def realText (x : Float) : String :=
  ({ conversion := .general, precision := 15, extended := true } : RealFormat).render x

end PackageRegistry.Sql
