import PackageRegistry.Sql.Plan.Choice
/-!
# Reading the rows of a plan

A plan is read as nested loops, a joined row holding each table's values where `FROM` places
them; a left join's right side gives the rows its constraint admits, or one row of `NULL`s.
-/

namespace PackageRegistry.Sql

/-- The row id of a stored row of a table. -/
def PlanTable.rowidOf (t : PlanTable) (row : List SqlValue) : Int :=
  let slot := t.rowidColumn.getD t.table.columns.length
  match row[slot]? with
  | some (.integer n) => n
  | _ => 0

def PlanTable.keyValue (t : PlanTable) (row : List SqlValue) : KeyColumn → SqlValue
  | .rowid => .integer (t.rowidOf row)
  | .column j => row.getD j .null

/-- The order of two rows of a table by key columns under their collations, then by row id. -/
def compareByKeys (t : PlanTable) (columns : List (KeyColumn × String)) (a b : List SqlValue) :
    Ordering :=
  let keyed := columns.foldl (fun (o : Ordering) (c, coll) =>
    if o != .eq then o
    else SqlValue.compareWith (collationOfName (some coll)) (t.keyValue a c) (t.keyValue b c)) .eq
  if keyed != .eq then keyed else Ord.compare (t.rowidOf a) (t.rowidOf b)

/-- The rows of a table in a row order; `admits` tells whether an expression holds for a row of
the table within the joined row being built. -/
def RowOrder.arrange (t : PlanTable) (admits : List SqlValue → Expr → Except SqlError Bool) :
    Nat → RowOrder → List (List SqlValue) → Except SqlError (List (List SqlValue))
  | 0, _, rows => pure rows
  | _ + 1, .byRowid reverse, rows =>
    let sorted := rows.mergeSort fun a b => t.rowidOf a ≤ t.rowidOf b
    pure (if reverse then sorted.reverse else sorted)
  | _ + 1, .byKeys columns reverse nullsLast, rows =>
    let sorted := rows.mergeSort fun a b => compareByKeys t columns a b != .gt
    let sorted := if reverse then sorted.reverse else sorted
    match nullsLast.bind (columns[·]?) with
    | some (c, _) =>
      let isNull := fun (r : List SqlValue) =>
        match t.keyValue r c with
        | .null => true
        | _ => false
      pure (sorted.filter (!isNull ·) ++ sorted.filter isNull)
    | none => pure sorted
  | fuel + 1, .byParts parts, rows => do
    let given ← parts.foldlM (fun (acc : List (List SqlValue) × List Int) (e, sub) => do
      let ordered ← RowOrder.arrange t admits fuel sub rows
      ordered.foldlM (fun (acc : List (List SqlValue) × List Int) r => do
        let id := t.rowidOf r
        if acc.2.contains id then return acc
        if ← admits r e then return (acc.1 ++ [r], acc.2 ++ [id]) else return acc) acc) ([], [])
    pure given.1

/-- The joined rows of a plan: each step's table in its row order for each joined row before
it, a left join's right side by `joinOn`. -/
def readPlan (tables : List PlanTable) (width : Nat) (joinOn : Nat → Option Expr)
    (holds : List Tagged → Expr → Except SqlError Bool) (fuel : Nat) :
    List PlanStep → List Tagged → Except SqlError (List (List Tagged))
  | [], row => pure [row]
  | step :: rest, row =>
    match tables[step.table]? with
    | none => pure []
    | some t => do
      let place := fun (r : List SqlValue) =>
        row.take t.offset ++ r.map (fun v => (⟨v, false⟩ : Tagged)) ++ row.drop (t.offset + t.width)
      let admits := fun (r : List SqlValue) (e : Expr) => holds (place r) e
      let ordered ← step.order.arrange t admits fuel (t.table.storedRows)
      let chosen ← if t.outer then do
          let hits ← match joinOn step.table with
            | some on => ordered.filterM fun r => admits r on
            | none => pure ordered
          pure (if hits.isEmpty then [List.replicate t.width SqlValue.null] else hits)
        else pure ordered
      chosen.foldlM (fun (acc : List (List Tagged)) r => do
        let more ← readPlan tables width joinOn holds fuel rest (place r)
        pure (acc ++ more)) []

end PackageRegistry.Sql
