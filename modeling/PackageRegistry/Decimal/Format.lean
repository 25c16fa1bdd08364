import PackageRegistry.Decimal.Shortest
/-!
# Writing doubles

A double is written with its shortest digits: positionally while the point is near them, else
as `d.ddd`, `e`, sign and at least two exponent digits (`1e+16`, `1e-05`).
-/

namespace PackageRegistry.Decimal

/-- How a family of outputs spells the values that have no digits. -/
structure FloatStyle where
  infinity : String
  nan : String
  deriving Repr, BEq, DecidableEq

def FloatStyle.literal : FloatStyle := ⟨"inf", "nan"⟩

def FloatStyle.document : FloatStyle := ⟨"Infinity", "NaN"⟩

/-- The text of a non-negative exponent with at least two digits. -/
def exponentDigits (n : Nat) : String :=
  let ds := Nat.toDigits 10 n
  String.ofList (if ds.length < 2 then '0' :: ds else ds)

/-- Writes digits `d₁…dₙ` whose value is `0.d₁…dₙ · 10^point`. -/
def placeDigits (ds : List Char) (point : Int) : String :=
  let n := Int.ofNat ds.length
  if point ≤ -4 ∨ point > 16 then
    let e := point - 1
    let mantissa := match ds with
      | [d] => [d]
      | d :: rest => d :: '.' :: rest
      | [] => ['0']
    String.ofList mantissa ++ "e" ++ (if e < 0 then "-" else "+") ++ exponentDigits e.natAbs
  else if point ≤ 0 then
    "0." ++ String.ofList (List.replicate (-point).toNat '0') ++ String.ofList ds
  else if point ≥ n then
    String.ofList ds ++ String.ofList (List.replicate (point - n).toNat '0') ++ ".0"
  else
    String.ofList (ds.take point.toNat) ++ "." ++ String.ofList (ds.drop point.toNat)

/-- The text of a double in a style. -/
def formatFloat (style : FloatStyle) (x : Float) : String :=
  match classify x with
  | .nan => style.nan
  | .infinite negative => (if negative then "-" else "") ++ style.infinity
  | .finite v =>
    let sign := if v.negative then "-" else ""
    if v.significand = 0 then sign ++ "0.0"
    else
      let d := shortestDigits v
      let ds := Nat.toDigits 10 d.coefficient
      sign ++ placeDigits ds (d.lastExponent + Int.ofNat ds.length)

end PackageRegistry.Decimal
