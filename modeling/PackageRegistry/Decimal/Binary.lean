/-!
# Binary floating-point values

A double is a sign, an 11-bit biased exponent and a 52-bit fraction. `nearestDouble` rounds an
exact decimal `m · 10^e` to the nearest double, ties to even, in exact integer arithmetic.
-/

namespace PackageRegistry.Decimal

/-- A finite double as an exact binary value `significand · 2^exponent`. -/
structure BinaryValue where
  negative : Bool
  significand : Nat
  exponent : Int
  /-- The significand is its binade's least above the subnormals: the next smaller double is
  half as far. -/
  narrowBelow : Bool
  deriving Repr, BEq, DecidableEq

/-- The kinds of double. -/
inductive DoubleClass where
  | finite (v : BinaryValue)
  | infinite (negative : Bool)
  | nan
  deriving Repr, BEq, DecidableEq

/-- The exact value of a double, from its bits. -/
def classify (x : Float) : DoubleClass :=
  let b := x.toBits.toNat
  let negative := b / Nat.pow 2 63 % 2 == 1
  let e := b / Nat.pow 2 52 % 2048
  let f := b % Nat.pow 2 52
  if e == 2047 then (if f == 0 then .infinite negative else .nan)
  else if e == 0 then .finite ⟨negative, f, -1074, false⟩
  else .finite ⟨negative, f + Nat.pow 2 52, Int.ofNat e - 1075, f == 0 && e > 1⟩

/-- The double with a sign, a biased exponent and a fraction. -/
def doubleOfFields (negative : Bool) (biased fraction : Nat) : Float :=
  Float.ofBits (UInt64.ofNat ((if negative then Nat.pow 2 63 else 0) + biased * Nat.pow 2 52 + fraction))

/-- The number of decimal digits of a positive number. -/
def decimalLength (n : Nat) : Nat := (Nat.toDigits 10 n).length

/-- The exponent `b` with `2^b ≤ num / den < 2^(b+1)`, for positive `num` and `den`. -/
def binaryMagnitude (num den : Nat) : Int :=
  let b : Int := Int.ofNat (Nat.log2 num) - Int.ofNat (Nat.log2 den)
  -- the estimate is exact or one too high
  if num * Nat.pow 2 (-b).toNat < den * Nat.pow 2 b.toNat then b - 1 else b

/-- `num / den` rounded to an integer, a tie going to the even one. -/
def roundHalfEven (num den : Nat) : Nat :=
  let q := num / den
  let r := num % den
  if 2 * r > den ∨ (2 * r = den ∧ q % 2 = 1) then q + 1 else q

/-- The double nearest to `m · 10^e`, with the given sign. -/
def nearestDouble (negative : Bool) (m : Nat) (e : Int) : Float :=
  if m = 0 then doubleOfFields negative 0 0
  else if Int.ofNat (decimalLength m) + e > 310 then doubleOfFields negative 2047 0
  else if Int.ofNat (decimalLength m) + e < -330 then doubleOfFields negative 0 0
  else
    let num := m * Nat.pow 10 e.toNat
    let den := Nat.pow 10 (-e).toNat
    let b := binaryMagnitude num den
    let s : Int := max (b - 52) (-1074)
    let q := roundHalfEven (num * Nat.pow 2 (-s).toNat) (den * Nat.pow 2 s.toNat)
    -- rounding up may carry into the next binade
    let (q, s) := if q = Nat.pow 2 53 then (Nat.pow 2 52, s + 1) else (q, s)
    if q < Nat.pow 2 52 then doubleOfFields negative 0 q
    else
      let biased := s + 1075
      if biased ≥ 2047 then doubleOfFields negative 2047 0
      else doubleOfFields negative biased.toNat (q - Nat.pow 2 52)

end PackageRegistry.Decimal
