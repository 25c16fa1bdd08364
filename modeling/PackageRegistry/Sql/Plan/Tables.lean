import PackageRegistry.Sql.Shape
import PackageRegistry.Sql.Plan.Estimate
/-!
# The tables a planned query reads

A query is planned when every source is a stored table and no join is right or full; each table
comes with its place in the joined row, its indexes and the columns read.
-/

namespace PackageRegistry.Sql

/-- A column an index holds or a term constrains: the row id, or a column of the table by its
position. -/
inductive KeyColumn where
  | rowid
  | column (index : Nat)
  deriving Repr, BEq, DecidableEq, Inhabited

/-- An index for the planner: name, key columns then row id, uniqueness, whether the table's
tree, and log rows, key prefixes' rows and row size. -/
structure PlanIndex where
  name : String
  columns : List KeyColumn
  keyCount : Nat
  unique : Bool
  uniqueNotNull : Bool
  /-- Whether it is the index of a primary key that is not the row id. -/
  primaryKey : Bool := false
  isRowid : Bool := false
  rowEst : List Int
  size : Int
  deriving Repr, Inhabited

/-- A planned table: `FROM` position, first value, table, row id column, indexes in trial order,
row size, columns read, whether a left join's right side or ordered after the rest, index
hint. -/
structure PlanTable where
  position : Nat
  offset : Nat
  table : Table
  rowidColumn : Option Nat
  indexes : List PlanIndex
  rowSize : Int
  used : List Nat := []
  outer : Bool := false
  fixed : Bool := false
  hint : IndexHint := .free
  deriving Repr

/-- Values in a bound source's row: a table's or function's columns (hidden too), row id apart,
or a subquery's results. -/
def FromItem.width (db : Database) : FromItem → Nat
  | .table schema name _ _ =>
    match db.findIn? schema name with
    | some t => t.width
    | none => ((TableFunction.ofName? name).map fun f => f.columns.length + f.hidden.length + 1).getD 0
  | .function _ name _ _ =>
    ((TableFunction.ofName? name).map fun f => f.columns.length + f.hidden.length + 1).getD 0
  | .subquery q _ => q.resultExprs.length
  | .recursive _ columns _ => columns.length
  | .join .. | .refused _ => 0

/-- The number of values of a row of the table in the joined row. -/
def PlanTable.width (t : PlanTable) : Nat := t.table.width

/-- The column at a row position: the row id for its row id column or the kept row id. -/
def PlanTable.keyAt (t : PlanTable) (j : Nat) : KeyColumn :=
  if t.rowidColumn == some j || j ≥ t.table.columns.length then .rowid else .column j

/-- The table's own tree, ordered by row id, as an index of one unique key. -/
def PlanTable.rowidTree (t : PlanTable) : PlanIndex :=
  { name := t.table.name, columns := [.rowid], keyCount := 1, unique := true,
    uniqueNotNull := true, isRowid := true, rowEst := [200, 0], size := t.rowSize }

/-- Whether a column of the table is declared `NOT NULL` (the row id always is). -/
def PlanTable.notNull (t : PlanTable) : KeyColumn → Bool
  | .rowid => true
  | .column j => (t.table.declared[j]?.map (·.notNull)).getD false

/-- The affinity of a column of the table; the row id's is integer. -/
def PlanTable.affinityOf (t : PlanTable) : KeyColumn → Affinity
  | .rowid => .integer
  | .column j => (t.table.columns[j]?.map (·.affinity)).getD .none

/-- The collation a column of the table compares by in an index; the row id's is `BINARY`. -/
def PlanTable.collationOf (t : PlanTable) : KeyColumn → String
  | .rowid => "BINARY"
  | .column j => ((t.table.columns[j]?.bind (·.collation)).getD "BINARY").toUpper

/-- The table and column a value of the joined row belongs to. -/
def locateColumn (tables : List PlanTable) (index : Nat) : Option (Nat × KeyColumn) :=
  (tables.find? fun t => t.offset ≤ index && index < t.offset + t.width).map fun t =>
    (t.position, t.keyAt (index - t.offset))

def tableBit (position : Nat) : Nat := Nat.pow 2 position

/-- Whether every table of the first set is in the second. -/
def maskWithin (a b : Nat) : Bool := a &&& b == a

/-! ## Columns read -/

mutual

/-- Positions of the query at `depth` outward that a bound expression reads, subqueries too. -/
def Expr.columnsAt : Nat → Nat → Expr → List Nat
  | 0, _, _ => []
  | fuel + 1, depth, e =>
    let all := fun (items : List Expr) => items.flatMap (·.columnsAt fuel depth)
    match e with
    | .column d i _ _ => if d == depth then [i] else []
    | .scalar q | .exists q => q.columnsAt fuel (depth + 1)
    | .inSelect _ a q => a.columnsAt fuel depth ++ q.columnsAt fuel (depth + 1)
    | .unary _ a | .isNull _ a | .cast a _ | .collate a _ | .isTruth _ _ a => all [a]
    | .binary _ a b => all [a, b]
    | .like _ _ subject pattern escape => all (pattern :: subject :: escape.toList)
    | .between _ a lo hi => all [a, lo, hi]
    | .inList _ a items => all (a :: items)
    | .vector items | .call _ items _ => all items
    | .over _ args _ filter w => all (args ++ ((w.map (·.exprs)).getD []) ++ filter.toList)
    | .case operand arms otherwise => all (caseParts operand arms otherwise)
    | _ => []

/-- Positions of the query at `depth` (at least one) outward a bound query reads; subqueries and
arms alike. -/
def Select.columnsAt : Nat → Nat → Select → List Nat
  | 0, _, _ => []
  | fuel + 1, depth, q =>
    let steps := (q.source.map (·.steps)).getD []
    let arguments := steps.flatMap fun step =>
      (match step.item with
      | .function _ _ args _ => args
      | _ => []) ++ step.on.toList
    (q.resultExprs ++ q.filter.toList ++ q.having.toList ++ q.group ++ q.order.map (·.expr) ++
      q.limit.toList ++ q.offset.toList ++ arguments).flatMap (·.columnsAt fuel depth) ++
    steps.flatMap (fun step =>
      match step.item with
      | .subquery sub _ => sub.columnsAt fuel depth
      | _ => []) ++
    q.compound.flatMap fun (_, arm) => arm.columnsAt fuel depth

end

/-- The joined-row positions a bound query's own expressions read. -/
def Select.ownColumns (fuel : Nat) (q : Select) : List Nat :=
  let steps := (q.source.map (·.steps)).getD []
  let constraints := steps.flatMap fun step => step.on.toList
  (q.resultExprs ++ q.filter.toList ++ q.having.toList ++ q.group ++ q.order.map (·.expr) ++
    q.limit.toList ++ q.offset.toList ++ constraints).flatMap (·.columnsAt fuel 0)

/-- The set of tables whose columns a bound expression reads. -/
def usageMask (tables : List PlanTable) (fuel : Nat) (e : Expr) : Nat :=
  (e.columnsAt fuel 0).foldl (fun m i =>
    match locateColumn tables i with
    | some (k, _) => m ||| tableBit k
    | none => m) 0

/-! ## Left joins read as inner joins -/

/-- Whether an expression is decided only for a row whose columns at `[lo, hi)` are not all
`NULL`: reached through comparisons, arithmetic, casts, `NOT`, `AND`, `BETWEEN`; not through
`IS`, `OR`, `IN`, `CASE`, functions, `LIKE` or subqueries. -/
def Expr.reachesColumn (lo hi : Nat) : Nat → Expr → Bool
  | 0, _ => false
  | fuel + 1, e =>
    match e with
    | .column 0 i _ _ => lo ≤ i && i < hi
    | .binary .and a b => a.reachesColumn lo hi fuel && b.reachesColumn lo hi fuel
    | .binary .or _ _ | .binary .is _ _ | .binary .isNot _ _ => false
    | .binary _ a b => a.reachesColumn lo hi fuel || b.reachesColumn lo hi fuel
    | .between _ a _ _ => a.reachesColumn lo hi fuel
    | .unary _ a | .cast a _ | .collate a _ => a.reachesColumn lo hi fuel
    | _ => false

/-- Whether a filter implies the columns at `[lo, hi)` are not all `NULL`, via `IS NOT NULL` or an
`AND` term. -/
def impliesNonNullRow (lo hi : Nat) : Nat → Expr → Bool
  | 0, _ => false
  | fuel + 1, e =>
    match e with
    | .isNull true a => a.reachesColumn lo hi fuel
    | .binary .and a b => impliesNonNullRow lo hi fuel a || impliesNonNullRow lo hi fuel b
    | _ => e.reachesColumn lo hi fuel

/-! ## Building the tables -/

/-- The indexes of a stored table as the planner tries them: the last made first. -/
def planIndexes (t : Table) (d : TableDef) (rowidColumn : Option Nat) : List PlanIndex :=
  let keyOf := fun (name : String) =>
    match t.declared.findIdx? (sameName ·.name name) with
    | some j => if rowidColumn == some j then KeyColumn.rowid else .column j
    | none => .rowid
  let sizeOf := fun (name : String) =>
    ((t.declared.find? (sameName ·.name name)).map (declaredSize ·.declaredType)).getD 1
  let notNull := fun (name : String) =>
    ((t.declared.find? (sameName ·.name name)).map (·.notNull)).getD false
  (d.allIndexes.map fun i =>
    { name := i.name, columns := i.columns.map keyOf ++ [.rowid], keyCount := i.columns.length,
      unique := i.unique, uniqueNotNull := i.unique && i.columns.all notNull,
      primaryKey := i.origin == "pk",
      rowEst := defaultRowEstimates i.columns.length i.unique,
      size := logEst (4 * (i.columns.foldl (fun n c => n + sizeOf c) 0 + 1)) : PlanIndex }).reverse

/-- A bound query's `FROM` tables for the planner, if all stored and no right or full join; a
`NULL`-rejecting left join reads as inner. -/
def planTables (db : Database) (fuel : Nat) (q : Select) : Option (List PlanTable) := do
  let item ← q.source
  let steps := item.steps
  let used := q.ownColumns fuel
  let (tables, _) ← steps.foldlM (fun (acc : List PlanTable × Nat) step => do
    let (done, offset) := acc
    if step.kind == .right || step.kind == .full then none
    match step.item with
    | .table schema name _ hint =>
      let t ← db.findIn? schema name
      let rowidColumn := match t.rowidSlot with
        | .column i => some i
        | _ => none
      let indexes := match db.defs.find? (sameName ·.name t.name) with
        | some d => if schema.any (sameName · "temp") then [] else planIndexes t d rowidColumn
        | none => []
      let width := t.width
      let reads := (used.filter fun i => offset ≤ i && i < offset + width).map (· - offset)
      let reads := (reads.filter fun j => j < t.columns.length && rowidColumn != some j).eraseDups
      let outer := step.kind == .left &&
        !(q.filter.any (impliesNonNullRow offset (offset + width) fuel))
      let entry : PlanTable :=
        { position := done.length, offset, table := t, rowidColumn, indexes,
          rowSize := tableRowSize t.declared rowidColumn, used := reads.mergeSort (· ≤ ·),
          outer, fixed := outer || step.kind == .cross, hint }
      pure (done ++ [entry], offset + width)
    | _ => none) ([], 0)
  pure tables

end PackageRegistry.Sql
