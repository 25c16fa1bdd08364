import PackageRegistry.Sql.Number
/-!
# SQL values

`NULL`, 64-bit integers, doubles, text and blobs, text kept as its bytes. Values order `NULL`
first, then numbers, texts (by a collation) and blobs. A column or cast prefers a kind of value,
its *affinity*, read off the words of its type name.
-/

namespace PackageRegistry.Sql

/-- A value in the database. -/
inductive SqlValue where
  | null
  | integer (n : Int)
  | real (x : Float)
  /-- Text, as its bytes. -/
  | text (bytes : List UInt8)
  | blob (bytes : List UInt8)
  deriving Repr, Inhabited

/-- Text from a string, as its UTF-8 bytes. -/
def SqlValue.ofString (s : String) : SqlValue := .text s.toUTF8.toList

/-- The preferred kind of value of a column or expression. -/
inductive Affinity where
  | none
  | blob
  | text
  | numeric
  | integer
  | real
  deriving Repr, BEq, DecidableEq, Inhabited

/-- Whether an affinity prefers numbers. -/
def Affinity.isNumeric : Affinity → Bool
  | .numeric | .integer | .real => true
  | _ => false

/-- The affinity of a type name, scanned in lower case: `char`, `clob` or `text` text; `blob`
blob; `real`, `floa` or `doub` real; `int` integer, ending the scan; else numeric. -/
def Affinity.ofTypeName (t : String) : Affinity :=
  let step := fun (acc : Affinity × String × Bool) (c : Char) =>
    let (aff, window, done) := acc
    if done then acc
    else
      let window := (window ++ c.toLower.toString).takeEnd 4 |>.toString
      if window.endsWith "int" then (.integer, window, true)
      else if window == "char" || window == "clob" || window == "text" then (.text, window, false)
      else if window == "blob" && (aff == .numeric || aff == .real) then (.blob, window, false)
      else if (window == "real" || window == "floa" || window == "doub") && aff == .numeric then
        (.real, window, false)
      else (aff, window, false)
  (t.toList.foldl step (.numeric, "", false)).1

/-! ## Order -/

/-- The rank of a value's storage class in the order. -/
def SqlValue.rank : SqlValue → Nat
  | .null => 0
  | .integer _ | .real _ => 1
  | .text _ => 2
  | .blob _ => 3

/-- Compares an integer with a double exactly; an infinity lies beyond every integer. -/
def compareIntReal (n : Int) (x : Float) : Ordering :=
  match Decimal.Extended.ofFloat? x with
  | some v => Decimal.Extended.compare (Decimal.Extended.ofInt n) v
  | none => if x > 0.0 then .lt else .gt

/-- Compares two doubles: less, greater, or else equal. -/
def compareReals (x y : Float) : Ordering :=
  if x < y then .lt else if y < x then .gt else .eq

/-- Compares byte lists: by the first differing byte, then by length. -/
def compareBytes : List UInt8 → List UInt8 → Ordering
  | [], [] => .eq
  | [], _ => .lt
  | _, [] => .gt
  | a :: as, b :: bs => if a < b then .lt else if b < a then .gt else compareBytes as bs

/-- An ASCII upper-case letter byte folded to lower case. -/
def foldByte (b : UInt8) : UInt8 := if 65 ≤ b && b ≤ 90 then b + 32 else b

/-- Compares byte lists with ASCII letters folded to lower case, up to the shorter length (a
zero byte in the first ends the comparison there), then by length. -/
def compareFolded (a b : List UInt8) : Ordering :=
  let rec go : List UInt8 → List UInt8 → Ordering
    | x :: xs, y :: ys =>
      if x == 0 then Ord.compare (foldByte x).toNat (foldByte y).toNat
      else if foldByte x == foldByte y then go xs ys
      else Ord.compare (foldByte x).toNat (foldByte y).toNat
    | _, _ => .eq
  match go a b with
  | .eq => Ord.compare a.length b.length
  | o => o

/-- Bytes without their trailing spaces. -/
def dropTrailingSpaces (bs : List UInt8) : List UInt8 := (bs.reverse.dropWhile (· == 32)).reverse

/-- The collations the engine has, by their upper-case names. -/
inductive Collation where
  | binary
  | nocase
  | rtrim
  deriving Repr, BEq, DecidableEq

def Collation.ofName? (name : String) : Option Collation :=
  match name.toUpper with
  | "BINARY" => some .binary
  | "NOCASE" => some .nocase
  | "RTRIM" => some .rtrim
  | _ => none

/-- Compares two texts under a collation. -/
def Collation.compare : Collation → List UInt8 → List UInt8 → Ordering
  | .binary, a, b => compareBytes a b
  | .nocase, a, b => compareFolded a b
  | .rtrim, a, b => compareBytes (dropTrailingSpaces a) (dropTrailingSpaces b)

/-- The order of two values under a collation for texts. -/
def SqlValue.compareWith (coll : Collation) (a b : SqlValue) : Ordering :=
  match a, b with
  | .integer m, .integer n => Ord.compare m n
  | .integer m, .real y => compareIntReal m y
  | .real x, .integer n => (compareIntReal n x).swap
  | .real x, .real y => compareReals x y
  | .text s, .text t => coll.compare s t
  | .blob p, .blob q => compareBytes p q
  | _, _ => Ord.compare a.rank b.rank

/-- The order of two values, texts by their bytes. -/
def SqlValue.compare (a b : SqlValue) : Ordering := SqlValue.compareWith .binary a b

def SqlValue.isNull : SqlValue → Bool
  | .null => true
  | _ => false

/-- The name of a value's storage class. -/
def SqlValue.typeName : SqlValue → String
  | .null => "null"
  | .integer _ => "integer"
  | .real _ => "real"
  | .text _ => "text"
  | .blob _ => "blob"

end PackageRegistry.Sql
