import PackageRegistry.Decimal.Binary
/-!
# Shortest decimal digits of a double

The digits written for a double are the fewest that read back as it: for 1 to 17 digits the two
grid points next to the value are tested, and the first count with one inside the rounding
interval wins, the nearer (even on a tie).
-/

namespace PackageRegistry.Decimal

/-- Compares `a · 2^p` with `b · 10^k`. -/
def compareScaled (a : Nat) (p : Int) (b : Nat) (k : Int) : Ordering :=
  compare (a * Nat.pow 2 p.toNat * Nat.pow 10 (-k).toNat) (b * Nat.pow 10 k.toNat * Nat.pow 2 (-p).toNat)

/-- `⌊significand · 2^exponent / 10^k⌋`. -/
def gridFloor (v : BinaryValue) (k : Int) : Nat :=
  (v.significand * Nat.pow 2 v.exponent.toNat * Nat.pow 10 (-k).toNat) /
    (Nat.pow 2 (-v.exponent).toNat * Nat.pow 10 k.toNat)

/-- Whether `c · 10^k` rounds to the double. -/
def roundsTo (v : BinaryValue) (c : Nat) (k : Int) : Bool :=
  let low := if v.narrowBelow then 4 * v.significand - 1 else 4 * v.significand - 2
  let high := 4 * v.significand + 2
  let even := v.significand % 2 == 0
  let aboveLow := match compareScaled low (v.exponent - 2) c k with
    | .lt => true
    | .eq => even
    | .gt => false
  let belowHigh := match compareScaled high (v.exponent - 2) c k with
    | .gt => true
    | .eq => even
    | .lt => false
  aboveLow && belowHigh

/-- The decimal exponent `E` of a positive value, `10^E ≤ value < 10^(E+1)`, from an
estimate. -/
def decimalMagnitude (v : BinaryValue) : Int :=
  let estimate : Int := (Int.ofNat (Nat.log2 v.significand) + v.exponent) * 30103 / 100000
  let up (e : Int) : Int :=
    if compareScaled v.significand v.exponent 1 (e + 1) != .lt then e + 1 else e
  let down (e : Int) : Int :=
    if compareScaled v.significand v.exponent 1 e == .lt then e - 1 else e
  down (down (up (up estimate)))

/-- A digit string as a number `c` and the exponent `k` of its last digit. -/
structure DecimalDigits where
  coefficient : Nat
  lastExponent : Int
  deriving Repr, BEq, DecidableEq

/-- The digits without trailing zeros. -/
def DecimalDigits.normalize (d : DecimalDigits) (fuel : Nat := 400) : DecimalDigits :=
  match fuel with
  | 0 => d
  | fuel + 1 =>
    if d.coefficient ≠ 0 ∧ d.coefficient % 10 = 0 then
      DecimalDigits.normalize ⟨d.coefficient / 10, d.lastExponent + 1⟩ fuel
    else d

/-- Of two grid points inside the interval, the nearer to the value, the even one on a tie. -/
def nearerOf (v : BinaryValue) (lo : Nat) (k : Int) : Nat :=
  -- compare value - lo·10^k with (lo+1)·10^k - value, i.e. 2·value with (2·lo+1)·10^k
  match compareScaled (2 * v.significand) v.exponent (2 * lo + 1) k with
  | .lt => lo
  | .gt => lo + 1
  | .eq => if lo % 2 = 0 then lo else lo + 1

/-- The shortest digits of a positive finite value, trying digit counts `n` upward. -/
def shortestFrom (v : BinaryValue) (magnitude : Int) : Nat → Nat → DecimalDigits
  | 0, _ => ⟨gridFloor v (magnitude - 16), magnitude - 16⟩
  | fuel + 1, n =>
    let k := magnitude - Int.ofNat n + 1
    let lo := gridFloor v k
    match roundsTo v lo k, roundsTo v (lo + 1) k with
    | true, true => ⟨nearerOf v lo k, k⟩
    | true, false => ⟨lo, k⟩
    | false, true => ⟨lo + 1, k⟩
    | false, false => shortestFrom v magnitude fuel (n + 1)

/-- The shortest digits that read back as a finite double, without trailing zeros; zero for
zero. -/
def shortestDigits (v : BinaryValue) : DecimalDigits :=
  if v.significand = 0 then ⟨0, 0⟩
  else (shortestFrom v (decimalMagnitude v) 17 1).normalize

end PackageRegistry.Decimal
