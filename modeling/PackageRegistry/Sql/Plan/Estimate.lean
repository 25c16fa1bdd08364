import PackageRegistry.Sql.Schema
/-!
# Estimates of the query planner

Costs and numbers of rows are kept as logarithms: `v` stands for about `2 ^ (v / 10)`. A table
without statistics is taken to hold about a million rows.
-/

namespace PackageRegistry.Sql

/-! ## Logarithms -/

/-- The corrections of `logEst` by the three binary digits after the leading one. -/
def logEstDigits : List Int := [0, 2, 3, 5, 6, 7, 8, 9]

/-- Ten times a count's base-two logarithm, roughly: `logEst 2 = 10`, `logEst 10 = 33`; zero
below two. -/
def logEst (n : Nat) : Int :=
  if n < 2 then 0
  else if n < 8 then
    let shift := if n < 4 then 2 else 1
    let x := n * Nat.pow 2 shift
    logEstDigits.getD (x % 8) 0 + 30 - 10 * (shift : Int)
  else
    let shift := n.log2 - 3
    let x := n / Nat.pow 2 shift
    logEstDigits.getD (x % 8) 0 + 30 + 10 * (shift : Int)

/-- The corrections of `logEstAdd` by the distance of the two logarithms, up to 31. -/
def logEstSteps : List Int :=
  [10, 10, 9, 9, 8, 8, 7, 7, 7, 6, 6, 6, 5, 5, 5, 4, 4, 4, 4, 3, 3, 3, 3, 3, 3,
   2, 2, 2, 2, 2, 2, 2]

/-- The logarithm of the sum of two counts given by their logarithms. -/
def logEstAdd (a b : Int) : Int :=
  let hi := max a b
  let lo := min a b
  if hi > lo + 49 then hi
  else if hi > lo + 31 then hi + 1
  else hi + logEstSteps.getD (hi - lo).toNat 0

/-- The logarithm of the logarithm of a count given by its logarithm: the cost of one search in
a tree of that many rows; zero for ten or fewer. -/
def estLog (n : Int) : Int :=
  if n ≤ 10 then 0 else logEst n.toNat - 33

/-! ## Sizes -/

/-- The number written at the first digit of a list of characters: the digits from there on. -/
def leadingNumber (cs : List Char) : Nat :=
  ((cs.dropWhile (!·.isDigit)).takeWhile (·.isDigit)).foldl
    (fun n c => 10 * n + (c.toNat - 48)) 0

/-- The scan state of a type name: the affinity so far, the last four characters, where the text
after `char` (or `blob(`) starts, and whether `int` ended it. -/
structure TypeScan where
  affinity : Affinity := .numeric
  window : List Char := []
  lengthAt : Option Nat := none
  done : Bool := false

/-- A column's size in units of about four bytes, from its declared type's length for text or
blob affinity; else one. -/
def declaredSize (declaredType : String) : Nat :=
  let cs := declaredType.toList.map Char.toLower
  let step := fun (acc : TypeScan × Nat) (c : Char) =>
    let (s, i) := acc
    if s.done then (s, i + 1)
    else
      let window := (s.window ++ [c]).drop ((s.window.length + 1) - 4)
      let w := String.ofList window
      let next : TypeScan :=
        if w.endsWith "int" then { s with affinity := .integer, window, done := true }
        else if w == "char" then { s with affinity := .text, window, lengthAt := some (i + 1) }
        else if w == "clob" || w == "text" then { s with affinity := .text, window }
        else if w == "blob" && (s.affinity == .numeric || s.affinity == .real) then
          { s with affinity := .blob, window,
                   lengthAt := if cs[i + 1]? == some '(' then some (i + 1) else s.lengthAt }
        else if (w == "real" || w == "floa" || w == "doub") && s.affinity == .numeric then
          { s with affinity := .real, window }
        else { s with window }
      (next, i + 1)
  let (scan, _) := cs.foldl step ({}, 0)
  if scan.affinity == .text || scan.affinity == .blob then
    let v := match scan.lengthAt with
      | some k => leadingNumber (cs.drop k)
      | none => 16
    min (v / 4 + 1) 255
  else 1

/-- A table's row size as a logarithm: four times the columns' sizes summed, one more when the
row id is not among them. -/
def tableRowSize (columns : List ColumnDecl) (rowidColumn : Option Nat) : Int :=
  let sum := columns.foldl (fun n c => n + declaredSize c.declaredType) 0
  logEst (4 * (sum + (if rowidColumn.isNone then 1 else 0)))

/-- The default row logarithms of an index of `keys` columns: the table's rows, then the rows
sharing each longer prefix; one for all when unique. -/
def defaultRowEstimates (keys : Nat) (unique : Bool) : List Int :=
  let shares := (List.range keys).map fun k => [33, 32, 30, 28, 26].getD k 23
  let shares := if unique then shares.dropLast ++ [0] else shares
  200 :: shares

end PackageRegistry.Sql
