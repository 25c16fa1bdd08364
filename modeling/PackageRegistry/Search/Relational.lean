/-!
# Relational values

A qualifier value such as `>=1000`, `2020-01-01..2020-12-31`, `*..2016-07-04` or `5` compares a
column with one or two bounds: a comparison, a range (`*` unbounded), or else an equality.
-/

namespace PackageRegistry.Search

/-- A comparison operator. -/
inductive Comparator where
  | eq
  | gt
  | ge
  | lt
  | le
  deriving Repr, BEq, DecidableEq

/-- The operator as it is written in a filter. -/
def Comparator.text : Comparator → String
  | .eq => "="
  | .gt => ">"
  | .ge => ">="
  | .lt => "<"
  | .le => "<="

/-- A classified qualifier value. -/
inductive RelationalValue where
  /-- The column compared with one operand. -/
  | comparison (op : Comparator) (operand : String)
  /-- The column between two bounds, both included; `none` leaves a side open. -/
  | range (lower upper : Option String)
  deriving Repr, BEq, DecidableEq

/-- The operators that may start a comparison, in the order they are tried. -/
def leadingComparators : List Comparator := [.ge, .gt, .le, .lt]

/-- The operand after an operator: non-empty, no line feed, one final line feed dropped. -/
def comparisonOperand? (rest : List Char) : Option String :=
  if rest ≠ [] ∧ '\n' ∉ rest then some (String.ofList rest)
  else
    match rest.reverse with
    | '\n' :: body =>
      if body ≠ [] ∧ '\n' ∉ body then some (String.ofList body.reverse) else none
    | _ => none

/-- The first leading operator that the value starts with and that leaves a valid operand. -/
def leadingComparison? (cs : List Char) : List Comparator → Option RelationalValue
  | [] => none
  | op :: ops =>
    let sym := op.text.toList
    if sym.isPrefixOf cs then
      match comparisonOperand? (cs.drop sym.length) with
      | some operand => some (.comparison op operand)
      | none => leadingComparison? cs ops
    else leadingComparison? cs ops

def rangeBound (s : String) : Option String :=
  if s = "*" then none else some s

/-- The range that a value of the form `lower..upper` denotes, both sides non-empty and free
of dots. -/
def range? (cs : List Char) : Option RelationalValue :=
  match cs.splitOn '.' with
  | [lo@(_ :: _), [], hi@(_ :: _)] =>
    some (.range (rangeBound (String.ofList lo)) (rangeBound (String.ofList hi)))
  | _ => none

/-- Classifies a qualifier value. -/
def RelationalValue.parse (s : String) : RelationalValue :=
  match leadingComparison? s.toList leadingComparators with
  | some v => v
  | none =>
    match range? s.toList with
    | some v => v
    | none => .comparison .eq s

end PackageRegistry.Search
