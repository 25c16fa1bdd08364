import PackageRegistry.Text.CodeRange
/-!
# Decimal digits

The Unicode decimal digits (general category `Nd`), which come in runs of ten consecutive code
points for the values zero to nine. Numbers in query parameters, port settings and version
components may be written with any of them: `٣` is three and `７` is seven.
-/

namespace PackageRegistry.Text

/-- The first code point, the zero, of every run of ten decimal digits (Unicode 14). -/
def decimalZeroTable : Array CodeRun :=
  (CodeRun.tableOfText "30,660,6f0,7c0,966,9e6,a66,ae6,b66,be6,c66,ce6,d66,de6,e50,ed0,f20,1040,1090,17e0,1810,1946,19d0,1a80,1a90,1b50,1bb0,1c40,1c50,a620,a8d0,a900,a9d0,a9f0,aa50,abf0,ff10,104a0,10d30,11066,110f0,11136,111d0,112f0,11450,114d0,11650,116c0,11730,118e0,11950,11c50,11d50,11da0,16a60,16ac0,16b50,1d7ce,1d7d8,1d7e2,1d7ec,1d7f6,1e140,1e2f0,1e950,1fbf0").map fun r => ⟨r.lo, r.lo + 9⟩

/-- The value of a decimal digit of any script. -/
def decimalValue? (c : Char) : Option Nat :=
  -- below `0x80` these are `0`–`9`, so the table is not searched there
  if c.toNat < 0x80 then (if c.isDigit then some (c.toNat - '0'.toNat) else none)
  else (CodeRun.find? decimalZeroTable c.toNat).map fun r => c.toNat - r.lo

/-- Whether a character is a decimal digit of some script. -/
def isDecimalDigit (c : Char) : Bool :=
  (decimalValue? c).isSome

/-- Whether a character is one of the ASCII digits `0`–`9`. -/
def isAsciiDigit (c : Char) : Bool :=
  '0' ≤ c && c ≤ '9'

end PackageRegistry.Text
