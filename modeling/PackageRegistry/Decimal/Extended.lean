import PackageRegistry.Decimal.Binary
/-!
# Extended-precision binary arithmetic

Binary floating point with a 64-bit significand, as in the 80-bit extended format: each
operation exact, then rounded to 64 bits, ties to even; the exponent is unbounded.
-/

namespace PackageRegistry.Decimal

/-- A finite extended-precision value `(-1)^negative · significand · 2^exponent`, with a
significand below `2^64`. -/
structure Extended where
  negative : Bool
  significand : Nat
  exponent : Int
  deriving Repr, BEq, DecidableEq, Inhabited

namespace Extended

/-- The number of bits of a natural number, `0` for `0`. -/
def bitLength (n : Nat) : Nat := if n = 0 then 0 else Nat.log2 n + 1

/-- `m / 2^k` rounded to nearest, ties to even; `sticky` says the exact value is a little
above. -/
def shiftRound (m k : Nat) (sticky : Bool) : Nat :=
  if k = 0 then m
  else
    let q := m / Nat.pow 2 k
    let r := m % Nat.pow 2 k
    let half := Nat.pow 2 (k - 1)
    if r > half || (r == half && (sticky || q % 2 == 1)) then q + 1 else q

/-- The exact value `±m · 2^e`, a little more in size when `sticky`, rounded to 64 bits. -/
def round (negative : Bool) (m : Nat) (e : Int) (sticky : Bool := false) : Extended :=
  let len := bitLength m
  if len ≤ 64 then ⟨negative, m, e⟩
  else
    let k := len - 64
    let q := shiftRound m k sticky
    -- rounding up may carry into a 65th bit
    if q = Nat.pow 2 64 then ⟨negative, Nat.pow 2 63, e + k + 1⟩ else ⟨negative, q, e + Int.ofNat k⟩

def zero : Extended := ⟨false, 0, 0⟩

def isZero (a : Extended) : Bool := a.significand == 0

/-- The exact value of a finite double; infinities and NaN have none. -/
def ofFloat? (x : Float) : Option Extended :=
  match classify x with
  | .finite v => some ⟨v.negative, v.significand, v.exponent⟩
  | _ => none

/-- The value of a finite double, zero for the others. -/
def ofFloat (x : Float) : Extended := (ofFloat? x).getD zero

/-- The value of an integer, rounded to 64 bits. -/
def ofInt (n : Int) : Extended := round (n < 0) n.natAbs 0

/-- The value with its sign flipped. -/
def neg (a : Extended) : Extended := { a with negative := !a.negative }

/-- The signed significand of a value over the exponent `e`, which is at most its own. -/
def scaledTo (a : Extended) (e : Int) : Int :=
  let m : Int := a.significand * Int.pow 2 (a.exponent - e).toNat
  if a.negative then -m else m

/-- The sum of two values. -/
def add (a b : Extended) : Extended :=
  if a.isZero then b
  else if b.isZero then a
  else
    let e := min a.exponent b.exponent
    let s := a.scaledTo e + b.scaledTo e
    if s = 0 then zero else round (s < 0) s.natAbs e

/-- The difference of two values. -/
def sub (a b : Extended) : Extended := a.add b.neg

/-- The product of two values. -/
def mul (a b : Extended) : Extended :=
  if a.isZero || b.isZero then zero
  else round (a.negative != b.negative) (a.significand * b.significand) (a.exponent + b.exponent)

/-- The quotient of two values; zero when the divisor is zero. -/
def div (a b : Extended) : Extended :=
  if a.isZero || b.isZero then zero
  else
    -- 130 extra bits leave a quotient of at least 66 bits, enough to round it
    let num := a.significand * Nat.pow 2 130
    let q := num / b.significand
    let sticky := num % b.significand != 0
    round (a.negative != b.negative) q (a.exponent - b.exponent - 130) sticky

/-- Compares two values. -/
def compare (a b : Extended) : Ordering :=
  let e := min a.exponent b.exponent
  Ord.compare (a.scaledTo e) (b.scaledTo e)

/-- Whether `a ≥ b`. -/
def ge (a b : Extended) : Bool := a.compare b != .lt

/-- Whether `a < b`. -/
def lt (a b : Extended) : Bool := a.compare b == .lt

/-- The value truncated toward zero to an integer. -/
def truncate (a : Extended) : Int :=
  let m : Nat :=
    if a.exponent ≥ 0 then a.significand * Nat.pow 2 a.exponent.toNat
    else a.significand / Nat.pow 2 (-a.exponent).toNat
  if a.negative then -(m : Int) else m

/-- The greatest integer not above a value. -/
def floor (a : Extended) : Int :=
  if a.exponent ≥ 0 then a.truncate
  else
    let k := Nat.pow 2 (-a.exponent).toNat
    let q := a.significand / k
    if a.negative then -((q + (if a.significand % k == 0 then 0 else 1) : Nat) : Int) else q

/-- The double nearest `±m · 2^e`, ties to even, infinity beyond the largest. -/
def doubleOfBinary (negative : Bool) (m : Nat) (e : Int) : Float :=
  if m = 0 then doubleOfFields negative 0 0
  else
    let top : Int := Int.ofNat (bitLength m) - 1 + e
    let s : Int := max (top - 52) (-1074)
    let q := if s ≥ e then shiftRound m (s - e).toNat false else m * Nat.pow 2 (e - s).toNat
    let (q, s) := if q = Nat.pow 2 53 then (Nat.pow 2 52, s + 1) else (q, s)
    if q < Nat.pow 2 52 then doubleOfFields negative 0 q
    else
      let biased := s + 1075
      if biased ≥ 2047 then doubleOfFields negative 2047 0
      else doubleOfFields negative biased.toNat (q - Nat.pow 2 52)

/-- The double nearest to a value. -/
def toFloat (a : Extended) : Float := doubleOfBinary a.negative a.significand a.exponent

end Extended

end PackageRegistry.Decimal
