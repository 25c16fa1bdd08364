/-!
# Sets of code points as sorted runs

A property holding on runs of code points is kept as the sorted array of those runs, membership a
binary search. Tables are written as hexadecimal runs `lo-hi` or `lo`, separated by commas.
-/

namespace PackageRegistry.Text

/-- A run of consecutive code points, both ends included. -/
structure CodeRun where
  lo : Nat
  hi : Nat
  deriving Repr, BEq, Inhabited

/-- The value of a hexadecimal digit, either case. -/
def hexDigitValue? (c : Char) : Option Nat :=
  if '0' ≤ c ∧ c ≤ '9' then some (c.toNat - '0'.toNat)
  else if 'a' ≤ c ∧ c ≤ 'f' then some (c.toNat - 'a'.toNat + 10)
  else if 'A' ≤ c ∧ c ≤ 'F' then some (c.toNat - 'A'.toNat + 10)
  else none

/-- Reads hexadecimal digits, most significant first, onto an accumulated value. -/
def readHexFrom (acc : Nat) : List Char → Option Nat
  | [] => some acc
  | c :: cs => (hexDigitValue? c).bind fun d => readHexFrom (acc * 16 + d) cs

/-- Reads a non-empty run of hexadecimal digits. -/
def readHex? (s : String) : Option Nat :=
  if s.isEmpty then none else readHexFrom 0 s.toList

/-- Reads one run, `lo-hi` or `lo`. -/
def CodeRun.ofText? (s : String) : Option CodeRun :=
  match s.splitOn "-" with
  | [a] => (readHex? a).map fun n => ⟨n, n⟩
  | [a, b] => do
    let lo ← readHex? a
    let hi ← readHex? b
    pure ⟨lo, hi⟩
  | _ => none

/-- Reads a table of runs; a malformed run is left out. -/
def CodeRun.tableOfText (s : String) : Array CodeRun :=
  ((s.splitOn ",").filterMap CodeRun.ofText?).toArray

/-- The run of a sorted, disjoint table that holds a code point, by binary search between the
indices `lo` and `hi`. -/
def CodeRun.searchBetween (table : Array CodeRun) (n : Nat) (lo hi : Nat) : Option CodeRun :=
  if lo < hi then
    let mid := (lo + hi) / 2
    if hm : mid < table.size then
      let r := table[mid]
      if n < r.lo then CodeRun.searchBetween table n lo mid
      else if r.hi < n then CodeRun.searchBetween table n (mid + 1) hi
      else some r
    else none
  else none
termination_by hi - lo

/-- The run of a sorted, disjoint table that holds a code point. -/
def CodeRun.find? (table : Array CodeRun) (n : Nat) : Option CodeRun :=
  CodeRun.searchBetween table n 0 table.size

/-- Whether a code point lies in one of the runs of a sorted, disjoint table. -/
def CodeRun.tableContains (table : Array CodeRun) (n : Nat) : Bool :=
  (CodeRun.find? table n).isSome

end PackageRegistry.Text
