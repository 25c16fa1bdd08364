/-!
# Joins and counts

The views are built from the stored tables as their SQL reads. A join pairs each row with the
rows of another table its `ON` condition picks, in the order they are read; `GROUP BY` with
`COUNT` of a joined column counts, for each group of rows sharing a key, the rows that found a
match.
-/

namespace PackageRegistry.Store

variable {α β κ : Type}

/-- `LEFT JOIN`: each row paired with each row `matching` gives it (the rows of the other table
its `ON` condition holds for, in the order they are read), or with `NULL`s when there are
none. -/
def leftJoin (matching : α → List β) (rows : List α) : List (α × Option β) :=
  rows.flatMap fun a =>
    match matching a with
    | [] => [(a, none)]
    | bs => bs.map fun b => (a, some b)

/-- `INNER JOIN`: each row paired with each row `matching` gives it. -/
def innerJoin (matching : α → List β) (rows : List α) : List (α × β) :=
  rows.flatMap fun a => (matching a).map fun b => (a, b)

/-- The rows of a join whose key is not `k`: those left once the group of `k` is taken. -/
def outsideGroup [BEq κ] (key : α → κ) (k : κ) (rows : List (α × Option β)) :
    List (α × Option β) :=
  rows.filter fun x => !(key x.1 == k)

/-- `GROUP BY key` over a left join, with `COUNT` of a column the joined table never leaves
`NULL`: the groups in the order of their first rows, each as the left part of its first row and
the number of its rows that found a match. -/
def groupCount [BEq κ] (key : α → κ) : List (α × Option β) → List (α × Nat)
  | [] => []
  | (a, b) :: rest =>
    (a, ((b :: (rest.filter fun x => key x.1 == key a).map (·.2)).filter Option.isSome).length) ::
      groupCount key (outsideGroup key (key a) rest)
termination_by rows => rows.length
decreasing_by exact Nat.lt_succ_of_le (List.length_filter_le _ _)

end PackageRegistry.Store
