import PackageRegistry.Sql.Value
import PackageRegistry.Sql.Chars
import PackageRegistry.Sql.RealFormat
/-!
# Conversions between values

How the engine reads one kind of value as another: numbers as text, text as numbers, truth
values, the affinity of comparison operands, and casts.
-/

namespace PackageRegistry.Sql

/-- The text of a value as the engine writes it; none for `NULL`. -/
def SqlValue.textBytes? : SqlValue → Option (List UInt8)
  | .null => none
  | .integer n => some (bytesOf (toString n))
  | .real x => some (bytesOf (realText x))
  | .text bs => some bs
  | .blob bs => some bs

def SqlValue.textBytes (v : SqlValue) : List UInt8 := v.textBytes?.getD []

def SqlValue.realValue : SqlValue → Float
  | .null => 0.0
  | .integer n => integerToReal n
  | .real x => x
  | .text bs => (readReal bs).value
  | .blob bs => (readReal bs).value

def SqlValue.integerValue : SqlValue → Int
  | .null => 0
  | .integer n => n
  | .real x => realToInteger x
  | .text bs => (readInteger bs).value
  | .blob bs => (readInteger bs).value

/-- An integer cut to its low 32 bits, as a signed number. -/
def wrap32 (n : Int) : Int :=
  let m := n % Int.pow 2 32
  if m ≥ Int.pow 2 31 then m - Int.pow 2 32 else m

/-- The 32-bit integer of a value. -/
def SqlValue.int32Value (v : SqlValue) : Int := wrap32 v.integerValue

/-- The number of text or blob bytes for arithmetic. -/
def numberOfBytes (bs : List UInt8) : SqlValue :=
  let r := readReal bs
  let i := readInteger bs
  if r.code ≤ 0 then
    if r.code == 0 && i.code ≤ 1 then .integer i.value else .real r.value
  else if r.code == 1 && i.code == 0 then .integer i.value
  else .real r.value

/-- The number of a value for arithmetic, `NULL` for `NULL`. -/
def SqlValue.numeric : SqlValue → SqlValue
  | .text bs => numberOfBytes bs
  | .blob bs => numberOfBytes bs
  | v => v

/-- Whether a value counts as true; none for `NULL`. -/
def SqlValue.truth? : SqlValue → Option Bool
  | .null => none
  | .integer n => some (n != 0)
  | v => some (v.realValue != 0.0)

/-- A double truncated toward zero as a 64-bit integer, the least integer when it lies
outside. -/
def truncateToInteger (x : Float) : Int :=
  let t := (Decimal.Extended.ofFloat x).truncate
  if x.isNaN || !fitsInteger t || x ≥ integerToReal (Int.pow 2 63) || x < -integerToReal (Int.pow 2 63) then
    minInteger
  else t

/-- Text under numeric affinity: the number it reads as, as a whole, or the text itself. -/
def numericAffinityOf (bs : List UInt8) : SqlValue :=
  let r := readReal bs
  if r.code ≤ 0 then .text bs
  else if r.code == 1 then
    let n := realToInteger r.value
    if realSameAsInteger r.value n then .integer n
    else
      let i := readInteger bs
      if i.code == 0 then .integer i.value else .real r.value
  else .real r.value

/-- A value under numeric affinity: text that reads as a number becomes it. -/
def SqlValue.withNumericAffinity : SqlValue → SqlValue
  | .text bs => numericAffinityOf bs
  | v => v

/-- A value under text affinity: numbers become their text. -/
def SqlValue.withTextAffinity : SqlValue → SqlValue
  | .integer n => .text (bytesOf (toString n))
  | .real x => .text (bytesOf (realText x))
  | v => v

/-- Compared sides' affinity: numeric if either is and both have one, blob if both have
another; the only one; none. -/
def comparisonAffinity (a b : Affinity) : Affinity :=
  if a != .none && b != .none then (if a.isNumeric || b.isNumeric then .numeric else .blob)
  else if a == .none then b else a

/-- Prepares two values for comparison under an affinity. -/
def prepareOperands (aff : Affinity) (a b : SqlValue) : SqlValue × SqlValue :=
  if aff.isNumeric then (a.withNumericAffinity, b.withNumericAffinity)
  else if aff == .text then (a.withTextAffinity, b.withTextAffinity)
  else (a, b)

/-- Text or blob bytes read as a number, as a cast to numeric does. -/
def numerifyBytes (bs : List UInt8) : SqlValue :=
  let r := readReal bs
  let i := readInteger bs
  if (r.code == 0 || r.code == 1) && i.code ≤ 1 then .integer i.value
  else
    let n := truncateToInteger r.value
    if realSameAsInteger r.value n then .integer n else .real r.value

def SqlValue.cast (aff : Affinity) (v : SqlValue) : SqlValue :=
  match v, aff with
  | .null, _ => .null
  | _, .integer => .integer v.integerValue
  | _, .real => .real v.realValue
  | .text bs, .numeric => numerifyBytes bs
  | .blob bs, .numeric => numerifyBytes bs
  | _, .numeric => v
  | .blob bs, .text => .text bs
  | _, .text => .text v.textBytes
  | .blob bs, _ => .blob bs
  | _, _ => .blob v.textBytes

end PackageRegistry.Sql
