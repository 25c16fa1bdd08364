import PackageRegistry.Search.Clause
import PackageRegistry.Search.Column
import PackageRegistry.Search.Relational
/-!
# Filters of one field

The clause builders: a word filter `column like ?` with `%word%`, an equality `(column = ?)`, and
a comparison or range from a relational value, each checking its column. The `in` filter looks
for each word of the term in the fields an `in:` value lists, joined by `or`.
-/

namespace PackageRegistry.Search

open PackageRegistry.Text

/-- One `column like ?` clause per word of the value, each with the parameter `%word%`. -/
def multiWordClauses (column value : String) : Except SearchError (List (Clause String)) := do
  let c ← checkIdentifier column
  (words value).mapM fun w => Clause.make (c ++ " like ?") ["%" ++ w ++ "%"]

/-- The equality filter `(column = ?)`. -/
def exactClause (column value : String) : Except SearchError (Clause String) := do
  let c ← checkIdentifier column
  Clause.make ("(" ++ c ++ " = ?)") [value]

/-- The filter of a classified relational value on a column. -/
def RelationalValue.clause (c : String) : RelationalValue → Except SearchError (Clause String)
  | .comparison op operand => Clause.make ("(" ++ c ++ " " ++ op.text ++ " ?)") [operand]
  | .range none none => pure Clause.empty
  | .range none (some hi) => Clause.make ("(" ++ c ++ " <= ?)") [hi]
  | .range (some lo) none => Clause.make ("(" ++ c ++ " >= ?)") [lo]
  | .range (some lo) (some hi) =>
    Clause.make ("(" ++ c ++ " >= ? and " ++ c ++ " <= ?)") [lo, hi]

/-- The comparison or range filter that a qualifier value asks for on a column. -/
def relationalClause (column value : String) : Except SearchError (Clause String) := do
  let c ← checkIdentifier column
  (RelationalValue.parse value).clause c

/-- The fields an `in:` value lists that the mapping knows, trimmed and lowercased, in order,
repeats kept. -/
def listedFields (columns : ColumnMapping) (inValue : String) : List String :=
  (inValue.toList.splitOn ',').filterMap fun n =>
    let f := toLower (trim (String.ofList n))
    if !f.isEmpty && columns.contains f then some f else none

/-- The free-text filter: each word of the term against each listed field, joined by `or`. -/
def inClause (columns : ColumnMapping) (term inValue : String) :
    Except SearchError (Clause String) :=
  if isBlankText term then .ok Clause.empty
  else do
    let perField ← (listedFields columns inValue).mapM fun f => do
      let c ← columns.columnFor f
      multiWordClauses c term
    pure (Clause.any perField.flatten)

end PackageRegistry.Search
