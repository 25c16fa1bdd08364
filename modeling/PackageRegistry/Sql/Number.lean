import PackageRegistry.Decimal.Extended
/-!
# Numbers read from text

Database text read as a double (`readReal`) in extended precision, or as an integer
(`readInteger`) saturating at 64 bits, each telling what the text was.
-/

namespace PackageRegistry.Sql

open PackageRegistry.Decimal

/-! ## Bytes of numbers -/

/-- Whether a byte is a blank around numbers: space, tab, line feed, vertical tab, form feed,
carriage return. -/
def isSpaceByte (b : UInt8) : Bool := b == 32 || (9 ≤ b && b ≤ 13)

def isDigitByte (b : UInt8) : Bool := 48 ≤ b && b ≤ 57

def digitValue (b : UInt8) : Nat := b.toNat - 48

/-- The least 64-bit integer. -/
def minInteger : Int := -(Int.pow 2 63)

/-- The greatest 64-bit integer. -/
def maxInteger : Int := Int.pow 2 63 - 1

def fitsInteger (n : Int) : Bool := minInteger ≤ n && n ≤ maxInteger

/-! ## Reading a double -/

/-- Once the significand reaches this, no more digits are gathered into it. -/
def gatherLimit : Nat := 922337203685477579

/-- A positive exponent is absorbed into the significand only while it stays below this. -/
def absorbLimit : Nat := 922337203685477580

/-- Significand, exponent adjustment and digit count after the integer digits, and what
follows. -/
def wholeDigits (s : Nat) (d : Int) (n : Nat) : List UInt8 → Nat × Int × Nat × List UInt8
  | [] => (s, d, n, [])
  | b :: rest =>
    if isDigitByte b then
      let s := s * 10 + digitValue b
      if s ≥ gatherLimit then
        let skipped := rest.takeWhile isDigitByte
        (s, d + skipped.length, n + 1, rest.drop skipped.length)
      else wholeDigits s d (n + 1) rest
    else (s, d, n, b :: rest)

def fractionDigits (s : Nat) (d : Int) (n : Nat) : List UInt8 → Nat × Int × Nat × List UInt8
  | [] => (s, d, n, [])
  | b :: rest =>
    if isDigitByte b then
      if s < gatherLimit then fractionDigits (s * 10 + digitValue b) (d - 1) (n + 1) rest
      else fractionDigits s d n rest
    else (s, d, n, b :: rest)

/-- The value of exponent digits, capped at 10000, the number of digits, and what follows. -/
def exponentDigits (e n : Nat) : List UInt8 → Nat × Nat × List UInt8
  | [] => (e, n, [])
  | b :: rest =>
    if isDigitByte b then exponentDigits (if e < 10000 then e * 10 + digitValue b else 10000) (n + 1) rest
    else (e, n, b :: rest)

/-- A positive exponent absorbed into the significand while the significand stays small enough;
gives the significand and the exponent left. -/
def absorbUp (s : Nat) : Nat → Nat × Nat
  | 0 => (s, 0)
  | e + 1 => if s ≥ absorbLimit then (s, e + 1) else absorbUp (s * 10) e

/-- A negative exponent absorbed by the trailing zeros of the significand. -/
def absorbDown (s : Nat) : Nat → Nat × Nat
  | 0 => (s, 0)
  | e + 1 => if s % 10 != 0 then (s, e + 1) else absorbDown (s / 10) e

/-- `10^k` built up in extended precision by repeated multiplications by ten. -/
def tensScale (scale : Extended) : Nat → Extended
  | 0 => scale
  | k + 1 => tensScale (scale.mul (Extended.ofInt 10)) k

/-- `10^e` (for `e ≤ 307`) as reading builds it: by tens down to a multiple of 22, then by
`10^22`. -/
def powerScale (e : Nat) : Extended :=
  let byTens := tensScale (Extended.ofInt 1) (e % 22)
  (List.range (e / 22)).foldl (fun acc _ => acc.mul (Extended.ofInt (Int.pow 10 22))) byTens

/-- The double `10^308`. -/
def tenTo308 : Float := nearestDouble false 1 308

/-- The double of a signed significand and a power of ten, as the reading brings them
together. -/
def scaledDouble (negative : Bool) (s : Nat) (e : Int) : Float :=
  if s = 0 then (if negative then -0.0 else 0.0)
  else
    let down := e < 0
    let (s, k) := if down then absorbDown s e.natAbs else absorbUp s e.natAbs
    let sig := Extended.round negative s 0
    if k = 0 then sig.toFloat
    else if k > 307 then
      if k < 342 then
        let scale := tensScale (Extended.ofInt 1) (k - 308)
        if down then (sig.div scale).toFloat / tenTo308
        else (sig.mul scale).toFloat * tenTo308
      else if down then (if negative then -0.0 else 0.0)
      else if negative then -(1.0 / 0.0) else 1.0 / 0.0
    else
      let scale := powerScale k
      if down then (sig.div scale).toFloat else (sig.mul scale).toFloat

/-- What reading text as a double found. -/
structure RealScan where
  value : Float
  /-- `1` for a whole integer form, `2` with a point or exponent, `3` with both; `0` when no
  number as a whole, `-1` when it starts with one with a point or exponent. -/
  code : Int

/-- Reads text as a double. -/
def readReal (text : List UInt8) : RealScan :=
  let cs := text.dropWhile isSpaceByte
  if cs.isEmpty then ⟨0.0, 0⟩
  else
    let (negative, cs) := match cs with
      | 45 :: rest => (true, rest)
      | 43 :: rest => (false, rest)
      | _ => (false, cs)
    let (s, d, n, cs) := wholeDigits 0 0 0 cs
    let (kind, s, d, n, cs) := match cs with
      | 46 :: rest =>
        let (s, d, n, rest) := fractionDigits s d n rest
        (2, s, d, n, rest)
      | _ => (1, s, d, n, cs)
    -- an exponent: its value, whether it is well formed, and what follows
    let (kind, expValue, expValid, cs) : Nat × Int × Bool × List UInt8 := match cs with
      | e :: rest =>
        if e == 101 || e == 69 then
          let (expNegative, body) := match rest with
            | 45 :: r => (true, r)
            | 43 :: r => (false, r)
            | _ => (false, rest)
          let (v, count, after) := exponentDigits 0 0 body
          (kind + 1, (if expNegative then -(v : Int) else v), count > 0, after)
        else (kind, 0, true, cs)
      | [] => (kind, 0, true, [])
    let cs := cs.dropWhile isSpaceByte
    let value := scaledDouble negative s (expValue + d)
    let code : Int :=
      if cs.isEmpty && n > 0 && expValid then kind
      else if kind ≥ 2 && (kind == 3 || expValid) && n > 0 then -1
      else 0
    ⟨value, code⟩

/-! ## Reading an integer -/

/-- What reading text as a 64-bit integer found. -/
structure IntegerScan where
  /-- The integer, saturated at the 64-bit bounds. -/
  value : Int
  /-- `0` exact, `1` text after the digits, `-1` no digits, `2` overflow, `3` exactly `2^63`. -/
  code : Int

/-- Reads text as a 64-bit integer. -/
def readInteger (text : List UInt8) : IntegerScan :=
  let cs := text.dropWhile isSpaceByte
  let (negative, cs) := match cs with
    | 45 :: rest => (true, rest)
    | 43 :: rest => (false, rest)
    | _ => (false, cs)
  let zeros := cs.takeWhile (· == 48)
  let cs := cs.drop zeros.length
  let digits := cs.takeWhile isDigitByte
  let after := cs.drop digits.length
  let u := digits.foldl (fun acc b => acc * 10 + digitValue b) 0
  let code : Int :=
    if digits.isEmpty && zeros.isEmpty then -1
    else if after.any (!isSpaceByte ·) then 1
    else 0
  let signed : Int := if negative then -(u : Int) else u
  if u < Nat.pow 2 63 then ⟨signed, code⟩
  else
    let saturated := if negative then minInteger else maxInteger
    if u > Nat.pow 2 63 then ⟨saturated, 2⟩
    else if negative then ⟨saturated, code⟩ else ⟨saturated, 3⟩

/-! ## Doubles and integers -/

/-- The double nearest to an integer. -/
def integerToReal (n : Int) : Float := Extended.doubleOfBinary (n < 0) n.natAbs 0

/-- A double truncated to a 64-bit integer, saturating past `±9223372036854774784`; NaN gives
the least. -/
def realToInteger (x : Float) : Int :=
  let bound := Extended.doubleOfBinary false 9223372036854774784 0
  if x.isNaN then minInteger
  else if x < -bound then minInteger
  else if x > bound then maxInteger
  else (Extended.ofFloat x).truncate

/-- Whether a double stands for the same value as an integer below `2^51` in size. -/
def realSameAsInteger (x : Float) (n : Int) : Bool :=
  x == 0.0 || (integerToReal n).toBits == x.toBits && -2251799813685248 ≤ n && n < 2251799813685248

end PackageRegistry.Sql
