import PackageRegistry.Search.Error
/-!
# Filter clauses

A clause is a filter fragment with `?` placeholders and their parameters, as many of each.
Joining drops empty clauses and writes ` and ` between fragments (`Clause.all`) or ` or ` inside
parentheses (`Clause.any`), parameters in the same order.
-/

namespace PackageRegistry.Search

/-- A filter fragment with placeholders, and the parameters bound to them in order. -/
structure Clause (α : Type) where
  fragment : String := ""
  params : List α := []
  deriving Repr, BEq, DecidableEq, Inhabited

/-- The number of `?` placeholders in a fragment. -/
def placeholderCount (fragment : String) : Nat :=
  fragment.toList.count '?'

namespace Clause

variable {α : Type}

/-- The clause that filters nothing. -/
def empty : Clause α := {}

/-- Whether a clause filters something: its fragment is not empty. -/
def isActive (c : Clause α) : Bool := !c.fragment.isEmpty

/-- Whether a clause has one parameter per placeholder. -/
def WellFormed (c : Clause α) : Prop := placeholderCount c.fragment = c.params.length

/-- A clause, refused when its placeholders and parameters are not equally many. -/
def make (fragment : String) (params : List α) : Except SearchError (Clause α) :=
  if placeholderCount fragment = params.length then .ok ⟨fragment, params⟩
  else .error (.clauseMismatch fragment (placeholderCount fragment) params.length)

/-- Active clauses joined by a separator, parenthesized if `group`; empty when none is
active. -/
def join (separator : String) (group : Bool) (clauses : List (Clause α)) : Clause α :=
  match clauses.filter isActive with
  | [] => empty
  | parts =>
    let body := separator.intercalate (parts.map (·.fragment))
    { fragment := if group then "(" ++ body ++ ")" else body
      params := parts.flatMap (·.params) }

/-- The conjunction of clauses. -/
def all (clauses : List (Clause α)) : Clause α := join " and " false clauses

/-- The parenthesized disjunction of clauses. -/
def any (clauses : List (Clause α)) : Clause α := join " or " true clauses

end Clause

/-- The names of `n` binds with a prefix: the prefix followed by `0`, `1`, …. -/
def bindNames (pfx : String) (n : Nat) : List String :=
  (List.range n).map fun i => pfx ++ toString i

/-- A fragment with its `?` placeholders replaced by binds `:<prefix><i>`, with each name's
parameter; refused unless as many of each. -/
def bindNamed {α : Type} (pfx : String) (fragment : String) (params : List α) :
    Except SearchError (String × List (String × α)) :=
  match (fragment.toList.splitOn '?').map String.ofList with
  | [] => .error (.bindMismatch 0 params.length)
  | first :: pieces =>
    if pieces.length = params.length then
      let names := bindNames pfx params.length
      .ok (first ++ String.join ((names.zip pieces).map fun np => ":" ++ np.1 ++ np.2),
        names.zip params)
    else .error (.bindMismatch pieces.length params.length)

end PackageRegistry.Search
