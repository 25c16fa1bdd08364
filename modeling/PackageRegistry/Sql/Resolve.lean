import PackageRegistry.Sql.Schema
import PackageRegistry.Sql.Functions
import PackageRegistry.Sql.TableFunctions
/-!
# Resolving the names of a query

One walk over a query's expressions in written order binds every name, in the scopes around it
innermost first, and checks every call. A name in two sources is ambiguous unless a join merges
it; calls must exist with that arity, and aggregates and windows stand only where allowed.
-/
namespace PackageRegistry.Sql

/-! ## Sources and scopes -/

/-- A `FROM` source placed: the source, its first column's position, and its join's merged
columns and kind. -/
structure Placed where
  source : Source
  offset : Nat := 0
  merged : List String := []
  kind : JoinKind := .inner

/-- The width of a placed source's rows: columns, hidden columns, then any kept row id. -/
def Placed.width (p : Placed) : Nat := p.source.width

/-- A query's names for its expressions: sources, bound `AS` result columns, named windows. -/
structure Scope where
  sources : List Placed := []
  aliases : List (String × Expr) := []
  windows : List (String × WindowSpec) := []

/-- A placed source's row id at `depth`: its column, its value after hidden columns, or `NULL`;
none without. -/
def Placed.rowidAt (p : Placed) (depth : Nat) : Option Expr :=
  match p.source.rowid with
  | .absent => none
  | .column i => some (.column depth (p.offset + i) .integer none)
  | .trailing =>
    some (.column depth (p.offset + p.source.columns.length + p.source.hidden.length) .integer none)
  | .null => some (.literal .null)

def Source.affinityAt (src : Source) (i : Nat) : Affinity :=
  (((src.columns ++ src.hidden).drop i).head?.map (·.affinity)).getD .none

/-- The collation of a column of a source, none for `BINARY`. -/
def Source.collationAt (src : Source) (i : Nat) : Option String :=
  ((src.columns ++ src.hidden).drop i).head?.bind (·.collation)

/-- A join step: the source added on the right, kind, naturalness, constraint; the first source
is one too. -/
structure JoinStep where
  item : FromItem
  kind : JoinKind := .inner
  natural : Bool := false
  on : Option Expr := none
  usingColumns : List String := []

/-- The steps of a `FROM` clause, left to right. -/
def FromItem.steps : FromItem → List JoinStep
  | .join left kind natural right on usingColumns =>
    left.steps ++ [{ item := right, kind, natural, on, usingColumns }]
  | item => [{ item }]

/-- A join's merged columns, checked: a natural join's are the right's visible columns shown
before; `USING` columns must be in both. -/
def mergedColumns (left : List Placed) (step : JoinStep) (right : Source) :
    Except SqlError (List String) :=
  if left.isEmpty then .ok []
  else if step.natural then
    if step.on.isSome || !step.usingColumns.isEmpty then .error .naturalJoinConstraint
    else .ok ((right.columns.filter fun c =>
      left.any fun p => p.source.columns.any (sameName ·.name c.name)).map (·.name))
  else
    step.usingColumns.foldlM (fun (done : List String) n =>
      if (right.indexOf? none n).isSome && left.any (fun p => (p.source.indexOf? none n).isSome) then
        .ok (done ++ [n])
      else .error (.usingColumnMissing n)) []

/-- A `FROM` clause's sources placed side by side in the joined row, merged columns checked. -/
def placeSources (steps : List JoinStep) (sources : List Source) : Except SqlError (List Placed) :=
  (steps.zip sources).foldlM (fun (acc : List Placed) (step, src) => do
    let merged ← mergedColumns acc step src
    let offset := acc.foldl (fun n p => n + p.width) 0
    .ok (acc ++ [{ source := src, offset, merged, kind := step.kind }])) []

/-- A merged column's equality: the first earlier source having (showing, if natural) it equals
the right's. -/
def mergedTerm (placed : List Placed) (k : Nat) (natural : Bool) (n : String) : Option Expr := do
  let right ← placed[k]?
  let j ← right.source.indexOf? none n
  let left ← (placed.take k).find? fun p =>
    if natural then p.source.columns.any (sameName ·.name n) else (p.source.indexOf? none n).isSome
  let i ← left.source.indexOf? none n
  some (.binary .eq (.column 0 (left.offset + i) (left.source.affinityAt i) (left.source.collationAt i))
    (.column 0 (right.offset + j) (right.source.affinityAt j) (right.source.collationAt j)))

/-- Expressions joined by `AND`, in order; none for no expression. -/
def andAll : List Expr → Option Expr
  | [] => none
  | e :: rest => some (rest.foldl (fun acc x => .binary .and acc x) e)

/-! ## Looking up names -/

/-- A name as it is reported: qualified by its table, if it has one. -/
def qualifiedName (table : Option String) (column : String) : String :=
  (table.map (· ++ ".")).getD "" ++ column

/-- The truth value a bare `TRUE` or `FALSE` stands for. -/
def truthWord? (column : String) : Option Bool :=
  if sameName column "true" then some true else if sameName column "false" then some false else none

/-- An expression without the `COLLATE` clauses around it. -/
def Expr.skipCollate : Expr → Expr
  | .collate e _ => e.skipCollate
  | e => e

/-- The number of values an expression stands for: a row value's items, a subquery's result
columns, else one. -/
def Expr.width : Expr → Nat
  | .vector items => items.length
  | .scalar q => q.columns.length
  | _ => 1

/-- Whether a binary operator compares its operands. -/
def BinaryOp.isComparison : BinaryOp → Bool
  | .eq | .ne | .lt | .le | .gt | .ge | .is | .isNot => true
  | _ => false

/-- The `WHEN` and `THEN` expressions of `CASE` arms, in order. -/
def armsFlat : List (Expr × Expr) → List Expr
  | [] => []
  | (w, t) :: rest => w :: t :: armsFlat rest

/-- Arms from their `WHEN` and `THEN` expressions in order. -/
def armsOf : List Expr → List (Expr × Expr)
  | w :: t :: rest => (w, t) :: armsOf rest
  | _ => []

/-- The expressions of a `CASE` in the order they are written. -/
def caseParts (operand : Option Expr) (arms : List (Expr × Expr)) (otherwise : Option Expr) :
    List Expr :=
  operand.toList ++ armsFlat arms ++ otherwise.toList

/-- A `CASE` rebuilt from its expressions in the order they are written. -/
def caseOf (operand : Option Expr) (arms : List (Expr × Expr)) (otherwise : Option Expr)
    (parts : List Expr) : Expr :=
  let (operand, parts) := match operand with
    | some o => (some (parts.headD o), parts.drop 1)
    | none => (none, parts)
  let n := 2 * arms.length
  let otherwise := match otherwise with
    | some x => some ((parts.drop n).headD x)
    | none => none
  .case operand (armsOf (parts.take n)) otherwise

/-- The expressions a window reads: its partition and its order terms. -/
def WindowSpec.exprs (w : WindowSpec) : List Expr := w.partition ++ w.order.map (·.expr)

/-- The result expressions of a bound query. -/
def Select.resultExprs (q : Select) : List Expr :=
  q.columns.filterMap fun
    | .expr e _ => some e
    | .all _ => none

mutual

/-- Depths of queries a bound expression reads, outward from its own (`0`), subqueries too. -/
def Expr.readDepths : Nat → Expr → List Nat
  | 0, _ => []
  | fuel + 1, e =>
    let all := fun (items : List Expr) => items.flatMap (·.readDepths fuel)
    match e with
    | .column d _ _ _ => [d]
    | .scalar q | .exists q => (q.readDepths fuel).map (· - 1)
    | .inSelect _ a q => a.readDepths fuel ++ (q.readDepths fuel).map (· - 1)
    | .unary _ a | .isNull _ a | .cast a _ | .collate a _ | .isTruth _ _ a => all [a]
    | .binary _ a b => all [a, b]
    | .like _ _ subject pattern escape => all (pattern :: subject :: escape.toList)
    | .between _ a lo hi => all [a, lo, hi]
    | .inList _ a items => all (a :: items)
    | .vector items | .call _ items _ => all items
    | .over _ args _ filter w => all (args ++ ((w.map (·.exprs)).getD []) ++ filter.toList)
    | .case operand arms otherwise => all (caseParts operand arms otherwise)
    | _ => []

/-- Depths (at least one) of outer queries a bound query reads; subqueries and arms see the
same outer queries. -/
def Select.readDepths : Nat → Select → List Nat
  | 0, _ => []
  | fuel + 1, q =>
    let steps := (q.source.map (·.steps)).getD []
    let arguments := steps.flatMap fun step =>
      (match step.item with
      | .function _ _ args _ => args
      | _ => []) ++ step.on.toList
    let own := (q.resultExprs ++ q.filter.toList ++ q.having.toList ++ q.group ++
      q.order.map (·.expr) ++ q.limit.toList ++ q.offset.toList ++ arguments).flatMap
        (·.readDepths fuel)
    own.filter (· ≥ 1) ++
      steps.flatMap (fun step =>
        match step.item with
        | .subquery sub _ => sub.readDepths fuel
        | _ => []) ++
      q.compound.flatMap fun (_, arm) => arm.readDepths fuel

end

/-- The query an aggregate over these computes for, counted outward: its own if they read its
columns or none, else the nearest read. -/
def aggregateHome (fuel : Nat) (parts : List Expr) : Nat :=
  let depths := parts.flatMap (·.readDepths fuel)
  if depths.contains 0 then 0 else depths.foldl min (depths.headD 0)

/-- An expression's aggregates for its own query, by name, outside subqueries and aggregate
arguments. -/
def Expr.aggregates : Nat → Expr → List String
  | 0, _ => []
  | fuel + 1, e =>
    match e with
    | .call f args _ =>
      if callKind f args.length == .aggregate then
        if aggregateHome fuel args == 0 then [f] else []
      else args.flatMap (·.aggregates fuel)
    | .over f args _ filter none =>
      if callKind f args.length == .aggregate then
        if aggregateHome fuel (args ++ filter.toList) == 0 then [f] else []
      else (args ++ filter.toList).flatMap (·.aggregates fuel)
    | .over _ args _ filter (some w) => (args ++ w.exprs ++ filter.toList).flatMap (·.aggregates fuel)
    | .unary _ a | .isNull _ a | .cast a _ | .collate a _ | .isTruth _ _ a => a.aggregates fuel
    | .inSelect _ a _ => a.aggregates fuel
    | .binary _ a b => a.aggregates fuel ++ b.aggregates fuel
    | .like _ op subject pattern escape =>
      if callKind op (2 + escape.toList.length) == .aggregate then [op]
      else pattern.aggregates fuel ++ subject.aggregates fuel ++ escape.toList.flatMap (·.aggregates fuel)
    | .between _ a lo hi => a.aggregates fuel ++ lo.aggregates fuel ++ hi.aggregates fuel
    | .inList _ a items => a.aggregates fuel ++ items.flatMap (·.aggregates fuel)
    | .vector items => items.flatMap (·.aggregates fuel)
    | .case operand arms otherwise => (caseParts operand arms otherwise).flatMap (·.aggregates fuel)
    | _ => []

/-- Whether an expression calls a function over a window, outside subqueries. `fuel` bounds
the depth. -/
def Expr.hasWindow : Nat → Expr → Bool
  | 0, _ => false
  | fuel + 1, e =>
    let any := fun (items : List Expr) => items.any (·.hasWindow fuel)
    match e with
    | .over _ _ _ _ (some _) => true
    | .over _ args _ filter none => any (args ++ filter.toList)
    | .call _ args _ | .vector args => any args
    | .unary _ a | .isNull _ a | .cast a _ | .collate a _ | .isTruth _ _ a | .inSelect _ a _ => any [a]
    | .binary _ a b => any [a, b]
    | .like _ _ subject pattern escape => any (pattern :: subject :: escape.toList)
    | .between _ a lo hi => any [a, lo, hi]
    | .inList _ a items => any (a :: items)
    | .case operand arms otherwise => any (caseParts operand arms otherwise)
    | _ => false

/-- The column a name finds among a scope's sources at `depth`, and whether ambiguous; merged
columns from the kept side. -/
def findColumn (depth : Nat) (table : Option String) (column : String) :
    List Placed → Option Expr → Bool → Option Expr × Bool
  | [], found, ambiguous => (found, ambiguous)
  | p :: rest, found, ambiguous =>
    let next := fun (f : Option Expr) (a : Bool) => findColumn depth table column rest f a
    if table.any (!sameName · p.source.table) then next found ambiguous
    else match p.source.indexOf? none column with
      | none => next found ambiguous
      | some j =>
        let here := Expr.column depth (p.offset + j) (p.source.affinityAt j) (p.source.collationAt j)
        match found with
        | none => next (some here) ambiguous
        | some before =>
          if !p.merged.any (sameName · column) then next (some here) true
          else match p.kind with
            | .inner | .cross | .left => next found ambiguous
            | .right => next (some here) false
            | .full => next (some (.call "coalesce" [before, here] false)) ambiguous

/-- What a name stands for, innermost scope first from `depth`: a column of the first scope with
it; else the one source's row id; else the innermost `AS` result column, unless an aggregate,
window or row value is forbidden there. -/
def lookupNameFrom (fuel : Nat) (agg win : Bool) : List Scope → Nat → Nat → Option String →
    String → Except SqlError (Option Expr)
  | [], _, _, _, _ => .ok none
  | s :: rest, depth, counted, table, column =>
    match findColumn depth table column s.sources none false with
    | (_, true) => .error (.ambiguousColumn (qualifiedName table column))
    | (some e, false) => .ok (some e)
    | (none, false) =>
      let withRowid := s.sources.filter fun p =>
        p.source.rowid != .absent && table.all (sameName · p.source.table)
      let counted := counted + withRowid.length
      let byRowid := match withRowid with
        | [p] => if counted == 1 && isRowidName column then p.rowidAt depth else none
        | _ => none
      let byAlias :=
        if table.isNone && depth == 0 then s.aliases.find? (sameName ·.1 column) else none
      match byRowid, byAlias with
      | some e, _ => .ok (some e)
      | none, some (n, e) =>
        if !agg && !(e.aggregates fuel).isEmpty then .error (.aliasedAggregate n)
        else if !win && e.hasWindow fuel then .error (.aliasedWindow n)
        else if e.width != 1 then .error .rowValueMisused
        else .ok (some e)
      | none, none => lookupNameFrom fuel agg win rest (depth + 1) counted table column

/-- The expression a name stands for in the scopes from `depth`, as `lookupNameFrom` finds it. -/
def lookupName (fuel : Nat) (agg win : Bool) (scopes : List Scope) (depth : Nat)
    (table : Option String) (column : String) : Except SqlError (Option Expr) :=
  lookupNameFrom fuel agg win scopes depth 0 table column

/-- A `schema.table.column` name from `depth`: a stored table's column, main schema. -/
def lookupSchemaName : List Scope → Nat → String → String → String → Option Expr
  | [], _, _, _, _ => none
  | s :: rest, depth, schema, table, column =>
    let found :=
      if sameName schema "main" then
        s.sources.findSome? fun p =>
          if p.source.stored then
            (p.source.indexOf? (some table) column).map fun i =>
              Expr.column depth (p.offset + i) (p.source.affinityAt i) (p.source.collationAt i)
          else none
      else none
    match found with
    | some e => some e
    | none => lookupSchemaName rest (depth + 1) schema table column

/-- Whether the second argument of `likelihood` is a probability written as a literal. -/
def isProbabilityLiteral : Expr → Bool
  | .literal (.real r) => r ≤ 1.0
  | _ => false

/-- A call's failure before its arguments: `likelihood` without a literal, unknown function,
wrong arity, misplaced aggregate. -/
def callFailure (name : String) (args : List Expr) (aggregates : Bool) : Option SqlError :=
  match callKind name args.length with
  | .aggregate => if aggregates then none else some (.misusedAggregate name)
  | .window => some (.misusedWindow name)
  | .unknown => some (.noSuchFunction name)
  | .wrongCount => some (.wrongArgumentCount name)
  | .scalar =>
    match name.toUpper, args with
    | "LIKELIHOOD", [_, p] => if isProbabilityLiteral p then none else some (.likelihoodArgument name)
    | _, _ => none

/-- The failure of a call with a filter alone: as a call's, but the filter needs an aggregate. -/
def filterCallFailure (name : String) (args : List Expr) (aggregates : Bool) : Option SqlError :=
  match callKind name args.length with
  | .aggregate => if aggregates then none else some (.misusedAggregate name)
  | .window => some (.misusedWindow name)
  | .unknown => some (.noSuchFunction name)
  | .wrongCount => some (.wrongArgumentCount name)
  | .scalar => some (.filterNonAggregate name)

/-- Whether an upper-case function name is an aggregate or window function of some arity. -/
def isWindowCapable (name : String) : Bool :=
  ["COUNT", "SUM", "AVG", "TOTAL", "GROUP_CONCAT", "JSON_GROUP_ARRAY", "JSON_GROUP_OBJECT", "MIN",
    "MAX", "ROW_NUMBER", "RANK", "DENSE_RANK", "PERCENT_RANK", "CUME_DIST", "NTILE",
    "FIRST_VALUE", "LAST_VALUE", "NTH_VALUE", "LAG", "LEAD"].contains name

/-- A window call's failure: unknown function, neither aggregate nor window, wrong arity, or a
window not allowed here. -/
def windowCallFailure (name : String) (args : List Expr) (allowed : Bool) : Option SqlError :=
  match callKind name args.length with
  | .unknown => some (.noSuchFunction name)
  | .scalar => some (.notWindowFunction name)
  | .wrongCount =>
    if isWindowCapable name.toUpper then some (.wrongArgumentCount name)
    else some (.notWindowFunction name)
  | _ => if allowed then none else some (.misusedWindow name)

def FrameBound.hasOffset : FrameBound → Bool
  | .preceding _ | .following _ => true
  | _ => false

/-- A window completed from the named windows, with the failure: a name alone copies; one built
on it takes its partition and order, unless it sets a partition, reorders, or that has a
frame. -/
def completeWindow (defs : List (String × WindowSpec)) (f : String) (argCount : Nat)
    (filter : Option Expr) (spec : WindowSpec) : Option SqlError × WindowSpec :=
  let find := fun (n : String) => (defs.reverse.find? (sameName ·.1 n)).map (·.2)
  let (failure, spec) : Option SqlError × WindowSpec :=
    match spec.base with
    | none => (none, spec)
    | some n =>
      match find n, spec.named with
      | none, _ => (some (.noSuchWindow n), spec)
      | some d, true => (none, { d with base := none, named := false })
      | some d, false =>
        if !spec.partition.isEmpty then (some (.windowOverride "PARTITION clause" n), spec)
        else if !d.order.isEmpty && !spec.order.isEmpty then
          (some (.windowOverride "ORDER BY clause" n), spec)
        else if d.frame.isSome then (some (.windowOverride "frame specification" n), spec)
        else (none, { spec with base := none, partition := d.partition,
                                order := if d.order.isEmpty then spec.order else d.order })
  if spec.named && failure.isSome then (failure, spec)
  else
    let rangeOffset := match spec.frame with
      | some fr => fr.unit == .range && (fr.start.hasOffset || fr.finish.hasOffset)
      | none => false
    if rangeOffset && spec.order.length != 1 then (some .rangeOffsetOrder, spec)
    else if callKind f argCount == .window && filter.isSome then (some .filterNotAggregate, spec)
    else (failure, spec)

/-! ## Expanding result columns -/

/-- The bound columns of a placed source that `*` reads: visible ones, less merged ones when
`skipMerged`. -/
def Placed.starColumns (p : Placed) (skipMerged : Bool) : List (Expr × Option String) :=
  (p.source.columns.zipIdx.filter fun (c, _) =>
    !(skipMerged && p.merged.any (sameName · c.name))).map fun (_, j) =>
      (Expr.column 0 (p.offset + j) (p.source.affinityAt j) (p.source.collationAt j), none)

/-- The names of the columns of a placed source that `*` reads. -/
def Placed.starNames (p : Placed) (skipMerged : Bool) : List String :=
  (p.source.columns.filter fun c => !(skipMerged && p.merged.any (sameName · c.name))).map (·.name)

/-- Result columns with `*` expanded (merged ones once) and `t.*` to sources called `t`. -/
def expandColumns (sources : List Placed) : List ResultColumn →
    Except SqlError (List (Expr × Option String))
  | [] => .ok []
  | .expr e asName :: rest => do
    let rest ← expandColumns sources rest
    .ok ((e, asName) :: rest)
  | .all table :: rest => do
    let columns ← match table with
      | none =>
        if sources.isEmpty then .error .noTablesSpecified
        else .ok (sources.zipIdx.flatMap fun (p, k) => p.starColumns (k > 0))
      | some t =>
        let matching := sources.filter (sameName t ·.source.table)
        if matching.isEmpty then .error (.noSuchTable t)
        else .ok (matching.flatMap (·.starColumns false))
    let rest ← expandColumns sources rest
    .ok (columns ++ rest)

/-- The affinity of a bound expression. `fuel` bounds the depth. -/
def Expr.affinity : Nat → Expr → Affinity
  | 0, _ => .none
  | fuel + 1, e =>
    match e with
    | .column _ _ aff _ => aff
    | .cast _ t => Affinity.ofTypeName t
    | .collate a _ => a.affinity fuel
    | .scalar q => match q.resultExprs with
      | x :: _ => x.affinity fuel
      | [] => .none
    | .vector (x :: _) => x.affinity fuel
    | _ => .none

/-- The arms of a query, left to right: itself and the arms of its compound. -/
def Select.arms (q : Select) : List Select := q :: q.compound.map (·.2)

/-- A table's source by name: a table in the named schema, else an argument-less table-valued
function. -/
def tableSource? (db : Database) (schema : Option String) (name : String) (asName : Option String) :
    Option Source :=
  match db.findIn? schema name with
  | some t => some (t.sourceAs asName)
  | none => (TableFunction.ofName? name).map (·.source asName)

/-- A table's name as a failure reports it: after its schema, if one is written. -/
def schemaQualified (schema : Option String) (name : String) : String :=
  (schema.map (· ++ ".")).getD "" ++ name

/-- Why a table cannot be read as its `INDEXED BY` asks: the index is not one of the table's. -/
def hintFailure (db : Database) (schema : Option String) (name : String) : IndexHint → Option SqlError
  | .indexedBy i =>
    let own : Bool := match db.findIn? schema name with
      | some t => ((db.defs.find? (sameName ·.name t.name)).map fun d =>
          d.allIndexes.any (sameName ·.name i)).getD false
      | none => false
    if own then none else some (.noSuchIndex i)
  | _ => none

/-- Why a name neither table nor function cannot be read: `fts4aux` needs arguments; any other
is no table. -/
def missingSource (schema : Option String) (name : String) : SqlError :=
  if sameName name "fts4aux" then .moduleArguments "fts4aux"
  else .noSuchTable (schemaQualified schema name)

mutual

/-- A query's first missing table, arms from the right, into subqueries: no table or function,
or a table called. -/
def Select.missingTable (db : Database) : Nat → Select → Option SqlError
  | 0, _ => none
  | fuel + 1, q =>
    q.arms.reverse.foldl (fun found arm =>
      found.orElse fun _ => FromItem.missingTable db fuel arm.source) none

/-- The missing table of a source, as `Select.missingTable` finds it, the sources of a join
from the left. -/
def FromItem.missingTable (db : Database) : Nat → Option FromItem → Option SqlError
  | _, none => none
  | _, some (.table schema name asName hint) =>
    if (tableSource? db schema name asName).isSome then (hintFailure db schema name hint)
    else some (missingSource schema name)
  | _, some (.function schema name _ _) =>
    if (db.findIn? schema name).isSome then some (.notFunction name)
    else if (TableFunction.ofName? name).isSome then none
    else some (missingSource schema name)
  | _, some (.recursive ..) => none
  | _, some (.refused err) => some err
  | 0, some (.subquery _ _) | 0, some (.join ..) => none
  | fuel + 1, some (.subquery q _) => q.missingTable db fuel
  | fuel + 1, some (.join left _ _ right _ _) =>
    (FromItem.missingTable db fuel (some left)).orElse fun _ =>
      FromItem.missingTable db fuel (some right)

end

/-- A name made distinct, ignoring case: a taken one gets `:1`, `:2`, … (its own such end
dropped). -/
def freshName (taken : List String) (n : String) : String :=
  let isTaken := fun (m : String) => taken.any (sameName · m)
  if !isTaken n then n
  else
    let digits := n.toList.reverse.takeWhile Char.isDigit
    let stem := n.toList.take (n.length - digits.length)
    let base := match stem.getLast? with
      | some ':' => if digits.isEmpty then n else String.ofList stem.dropLast
      | _ => n
    let candidates := (List.range (taken.length + 1)).map fun k => base ++ ":" ++ toString (k + 1)
    (candidates.find? (!isTaken ·)).getD n

/-- Names made distinct in order, as `freshName` does. -/
def distinctNames (names : List String) : List String :=
  names.foldl (fun acc n => acc ++ [freshName acc n]) []

/-- A `FROM` subquery's column names: `*` columns, an `AS` name, the column read, or by position;
made distinct. -/
def resultNames (sources : List Placed) (columns : List ResultColumn) : List String :=
  distinctNames (columns.foldl (fun (acc : List String) c =>
    match c with
    | .all none => acc ++ sources.zipIdx.flatMap fun (p, k) => p.starNames (k > 0)
    | .all (some t) =>
      acc ++ (sources.filter (sameName t ·.source.table)).flatMap (·.starNames false)
    | .expr _ (some n) => acc ++ [n]
    | .expr (.name _ column _) none => acc ++ [column]
    | .expr (.collate (.name _ column _) _) none => acc ++ [column]
    | .expr _ none => acc ++ ["column" ++ toString (acc.length + 1)]) [])

mutual

/-- A query's sources before resolution, side by side; tables exist, merged columns checked. -/
def sourcesOf (db : Database) : Nat → Option FromItem → Except SqlError (List Placed)
  | _, none => .ok []
  | 0, some _ => .ok []
  | fuel + 1, some item => do
    let steps := item.steps
    let sources ← steps.mapM fun step => itemSource db fuel step.item
    placeSources steps sources

/-- The source one step of a `FROM` clause reads. -/
def itemSource (db : Database) : Nat → FromItem → Except SqlError Source
  | _, .table schema name asName hint =>
    match tableSource? db schema name asName, hintFailure db schema name hint with
    | some _, some err => .error err
    | some src, none => .ok src
    | none, _ => .error (missingSource schema name)
  | _, .function schema name _ asName =>
    match TableFunction.ofName? name with
    | some f => .ok (f.source asName)
    | none => .error (missingSource schema name)
  | _, .recursive name columns asName =>
    .ok { table := asName.getD name, columns := columns.map fun n => { name := n, affinity := .none },
          rowid := .null }
  | _, .refused err => .error err
  | 0, _ => .ok { table := "", columns := [] }
  | fuel + 1, .subquery q asName => do
    let names ← q.resultNamesOf db fuel
    let names := if q.names.isEmpty then names else q.names
    .ok { table := asName.getD "", columns := names.map fun n => { name := n, affinity := .none },
          rowid := .null }
  | _ + 1, .join .. => .ok { table := "", columns := [] }

/-- A query's result column names after every arm's `*` is expanded: the first arm's. -/
def Select.resultNamesOf (db : Database) : Nat → Select → Except SqlError (List String)
  | 0, _ => .ok []
  | fuel + 1, q => do
    let named ← q.arms.reverse.mapM fun arm => do
      let sources ← sourcesOf db fuel arm.source
      let _ ← expandColumns sources arm.columns
      .ok (resultNames sources arm.columns)
    .ok (named.getLast?.getD [])

end

/-- Whether a bound expression holds a `COLLATE` outside its subqueries. -/
def Expr.hasCollate : Nat → Expr → Bool
  | 0, _ => false
  | fuel + 1, e =>
    match e with
    | .collate _ _ => true
    | .unary _ a | .isNull _ a | .cast a _ | .isTruth _ _ a | .inSelect _ a _ => a.hasCollate fuel
    | .binary _ a b => a.hasCollate fuel || b.hasCollate fuel
    | .like _ _ subject pattern escape =>
      (pattern :: subject :: escape.toList).any (·.hasCollate fuel)
    | .between _ a lo hi => a.hasCollate fuel || lo.hasCollate fuel || hi.hasCollate fuel
    | .inList _ a items => a.hasCollate fuel || items.any (·.hasCollate fuel)
    | .vector items | .call _ items _ | .over _ items _ _ _ => items.any (·.hasCollate fuel)
    | .case operand arms otherwise => (caseParts operand arms otherwise).any (·.hasCollate fuel)
    | _ => false

/-- The collation a bound expression compares by: a column's own, a `COLLATE` reached through
operands, or none. -/
def Expr.collationName : Nat → Expr → Option String
  | 0, _ => none
  | fuel + 1, e =>
    let firstOf := fun (items : List Expr) =>
      (items.find? (·.hasCollate fuel)).bind (·.collationName fuel)
    match e with
    | .column _ _ _ c => some (c.getD "BINARY")
    | .collate _ c => some c
    | .cast a _ | .unary .plus a => a.collationName fuel
    | .vector (x :: _) => x.collationName fuel
    | _ =>
      if !e.hasCollate (fuel + 1) then none
      else match e with
        | .unary _ a | .isNull _ a | .isTruth _ _ a | .inSelect _ a _ => a.collationName fuel
        | .binary _ a b => if a.hasCollate fuel then a.collationName fuel else b.collationName fuel
        | .between _ a lo hi => if a.hasCollate fuel then a.collationName fuel else firstOf [lo, hi]
        | .inList _ a items => if a.hasCollate fuel then a.collationName fuel else firstOf items
        | .case (some o) arms otherwise =>
          if o.hasCollate fuel then o.collationName fuel else firstOf (caseParts none arms otherwise)
        | .case none arms otherwise => firstOf (caseParts none arms otherwise)
        | .call _ args _ | .over _ args _ _ _ => firstOf args
        | .like _ _ subject pattern escape => firstOf (pattern :: subject :: escape.toList)
        | _ => none

/-- A resolved `FROM` subquery's source: columns take its results' affinities and collations. -/
def Source.withAffinities (fuel : Nat) (src : Source) (q : Select) : Source :=
  { src with columns := (src.columns.zip q.resultExprs).map fun (c, e) =>
      { c with affinity := e.affinity fuel, collation := e.collationName fuel } }

/-- A `FROM` clause's placed sources once its subqueries are resolved, with their affinities. -/
def withSubqueryAffinities (fuel : Nat) (item : Option FromItem) (placed : List Placed) :
    List Placed :=
  let items : List FromItem := (item.map (·.steps.map (·.item))).getD []
  placed.zipIdx.map fun (p, k) =>
    match items[k]? with
    | some (.subquery q _) => { p with source := p.source.withAffinities fuel q }
    | _ => p

/-- The integer an order term is written as, possibly signed: a literal of 32 bits. -/
def constantInteger? : Expr → Option Int
  | .literal (.integer n) => if 0 ≤ n && n < Int.pow 2 31 then some n else none
  | .unary .negate e => (constantInteger? e).map (- ·)
  | .unary .plus e => constantInteger? e
  | _ => none

/-- An order term standing for the result column at a position, keeping the term's outermost
`COLLATE`. -/
def placeTerm (columns : List Expr) (t : OrderTerm) (n : Nat) : OrderTerm :=
  let column := (columns.drop (n - 1)).headD (.literal .null)
  { t with expr := match t.expr with
    | .collate _ c => .collate column c
    | _ => column }

/-! ## Resolving a query's clauses -/

/-- A resolved part: the last failure so far, whether the walk stops, the bound part. -/
structure Resolved (α : Type) where
  failure : Option SqlError
  stop : Bool
  value : α

/-- Resolves expressions in order by a step, stopping at the first that stops the walk. -/
def resolveAll (step : Option SqlError → Expr → Resolved Expr) (failure : Option SqlError) :
    List Expr → Resolved (List Expr)
  | [] => ⟨failure, false, []⟩
  | e :: rest =>
    let r := step failure e
    if r.stop then ⟨r.failure, true, r.value :: rest⟩
    else
      let rs := resolveAll step r.failure rest
      ⟨rs.failure, rs.stop, r.value :: rs.value⟩

/-- Binds expressions by a step that stands alone, failing at the first failure. -/
def bindAll (step : Expr → Resolved Expr) (es : List Expr) : Except SqlError (List Expr) :=
  let r := resolveAll (fun _ e => step e) none es
  match r.failure with
  | some err => .error err
  | none => .ok r.value

/-- Join constraints bound from the left; inner joins' join the filter, outer joins' stay. -/
def bindJoins (bind : Expr → Except SqlError Expr) (placed : List Placed) :
    FromItem → Except SqlError (FromItem × List Expr)
  | .join left kind natural right on usingColumns => do
    let (left, terms) ← bindJoins bind placed left
    let k := left.steps.length
    let constraint ← match on with
      | some e => (fun x => [x]) <$> bind e
      | none => pure (((placed[k]?.map (·.merged)).getD []).filterMap (mergedTerm placed k natural))
    if kind == .inner || kind == .cross then
      .ok (.join left kind natural right none usingColumns, terms ++ constraint)
    else .ok (.join left kind natural right (andAll constraint) usingColumns, terms)
  | item => .ok (item, [])

/-- The arguments of the functions a `FROM` clause reads, bound by `bind`, left to right. -/
def bindArguments (bind : List Expr → Except SqlError (List Expr)) :
    FromItem → Except SqlError FromItem
  | .join left kind natural right on usingColumns => do
    let left ← bindArguments bind left
    let right ← bindArguments bind right
    .ok (.join left kind natural right on usingColumns)
  | .function schema f args asName => (.function schema f · asName) <$> bind args
  | item => .ok item

/-- An order over bound result columns: an integer `1`..`65535` or an `AS` name is that column;
others by `bind`. -/
def bindOrder (bind : Expr → Resolved Expr) (columns : List (Expr × Option String))
    (bound : List Expr) (order : List OrderTerm) : Except SqlError (List OrderTerm) := do
  let count := columns.length
  let first ← order.zipIdx.foldlM (fun (done : List (OrderTerm × Option Nat)) (t, k) =>
    let inner := t.expr.skipCollate
    let byAlias := match inner with
      | .name none n _ => columns.findIdx? fun (_, asName) => asName.any (sameName · n)
      | _ => none
    match byAlias, constantInteger? inner with
    | some i, _ => .ok (done ++ [(t, some (i + 1))])
    | none, some n =>
      if n < 1 || n > 65535 then .error (.orderTermOutOfRange (k + 1) count)
      else .ok (done ++ [(t, some n.toNat)])
    | none, none =>
      let r := bind t.expr
      match r.failure with
      | some err => .error err
      | none => .ok (done ++ [({ t with expr := r.value }, none)])) []
  first.zipIdx.foldlM (fun (done : List OrderTerm) ((t, pos), k) =>
    match pos with
    | some n =>
      if n > count then .error (.orderTermOutOfRange (k + 1) count)
      else .ok (done ++ [placeTerm bound t n])
    | none => .ok (done ++ [t])) []

/-- `GROUP BY` terms as the order, but an `AS` name alone is no column; no aggregates. -/
def bindGroup (fuel : Nat) (bind : Expr → Resolved Expr) (bound : List Expr) (group : List Expr) :
    Except SqlError (List Expr) := do
  let count := bound.length
  let first ← group.zipIdx.foldlM (fun (done : List (Expr × Option Nat)) (e, k) =>
    match constantInteger? e.skipCollate with
    | some n =>
      if n < 1 || n > 65535 then .error (.groupTermOutOfRange (k + 1) count)
      else .ok (done ++ [(e, some n.toNat)])
    | none =>
      let r := bind e
      match r.failure with
      | some err => .error err
      | none => .ok (done ++ [(r.value, none)])) []
  let placed ← first.zipIdx.foldlM (fun (done : List Expr) ((e, pos), k) =>
    match pos with
    | some n =>
      if n > count then .error (.groupTermOutOfRange (k + 1) count)
      else .ok (done ++ [(placeTerm bound { expr := e } n).expr])
    | none => .ok (done ++ [e])) []
  if placed.any fun e => !(e.aggregates fuel).isEmpty then .error .aggregateInGroup
  else .ok placed

/-- Binds a name: a column or result column, a double-quoted string, `1`/`0` for bare
`TRUE`/`FALSE`; else the failure. -/
def resolveName (fuel : Nat) (agg win : Bool) (scopes : List Scope) (failure : Option SqlError)
    (table : Option String) (column : String) (style : NameStyle) : Resolved Expr :=
  let e := Expr.name table column style
  match lookupName fuel agg win scopes 0 table column with
  | .error err => ⟨some err, true, e⟩
  | .ok (some bound) => ⟨failure, false, bound⟩
  | .ok none =>
    if table.isNone && style == .doubleQuoted then ⟨failure, false, .literal (.ofString column)⟩
    else match table, style, truthWord? column with
      | none, .bare, some t => ⟨failure, false, .literal (.integer (if t then 1 else 0))⟩
      | _, _, _ => ⟨some (.noSuchColumn (qualifiedName table column)), true, e⟩

/-- The truth value of `IS`'s right side: a bare `TRUE` or `FALSE` (any `COLLATE`) no column. -/
def truthSide? (fuel : Nat) (scopes : List Scope) (b : Expr) : Option Bool :=
  match b.skipCollate with
  | .name none column .bare =>
    match lookupName fuel true true scopes 0 none column with
    | .ok none => truthWord? column
    | _ => none
  | _ => none

/-! ## Heights while resolving -/

/-- The height once `height` more is entered after `base`; past the greatest, resolution
fails. -/
def enterHeight (base height : Nat) : Except SqlError Nat :=
  if base + height > maxExprHeight then .error .expressionTooDeep else .ok (base + height)

/-- `AND` on heights, flagged when the integer `0`: no left gives the right, a `0` side the leaf
`0`, else one higher. -/
def andHeight : Option (Nat × Bool) → Nat × Bool → Option (Nat × Bool)
  | none, b => some b
  | some (ha, za), (hb, zb) => if za || zb then some (1, true) else some (max ha hb + 1, false)

/-- A filter's height once join constraints join it by `AND`; none without either. -/
def joinedFilterHeight (filter : Option Expr) (steps : List JoinStep) (placed : List Placed) :
    Option Nat :=
  let start := filter.map fun f => (f.height heightFuel, f.isZeroConstant)
  let terms := steps.zipIdx.flatMap fun (step, k) =>
    if k == 0 then []
    else match step.on with
      | some e =>
        [(e.height heightFuel, (step.kind == .inner || step.kind == .cross) && e.isZeroConstant)]
      | none => ((placed[k]?.map (·.merged)).getD []).map fun _ => (2, false)
  (terms.foldl andHeight start).map (·.1)

/-- A window of rows' height: one above the higher of `LIMIT` and `OFFSET`; none without. -/
def windowHeight (q : Select) : Option Nat :=
  q.limit.map fun l => max (l.height heightFuel) ((q.offset.map (·.height heightFuel)).getD 0) + 1

mutual

/-- Resolves an expression after the failure so far; `agg`/`win` allow aggregate or window calls;
`base` is the height around it. -/
def resolveExpr (db : Database) : Nat → Nat → List Scope → Bool → Bool → Option SqlError → Expr →
    Resolved Expr
  | 0, _, _, _, _, failure, e => ⟨failure, true, e⟩
  | fuel + 1, base, scopes, agg, win, failure, e =>
    let walk := fun (a w : Bool) (f : Option SqlError) (x : Expr) =>
      resolveExpr db fuel base scopes a w f x
    let stopped : Resolved Expr := ⟨failure, true, e⟩
    match e with
    | .literal _ | .hexLiteral _ | .variable _ | .column .. | .raise | .windowValue _ =>
      ⟨failure, failure.isSome, e⟩
    | .name table column style => resolveName fuel agg win scopes failure table column style
    | .schemaName schema table column =>
      match lookupSchemaName scopes 0 schema table column with
      | some bound => ⟨failure, false, bound⟩
      | none => ⟨some (.noSuchColumn (schema ++ "." ++ table ++ "." ++ column)), true, e⟩
    | .call f args distinct =>
      let isAggregate := callKind f args.length == .aggregate
      let proper := isAggregate && agg
      let failure := (callFailure f args agg).orElse fun _ => failure
      let r := resolveAll (walk (agg && !isAggregate) (win && !proper)) failure args
      ⟨r.failure, false, .call f r.value distinct⟩
    | .over f args distinct filter none =>
      let own := filterCallFailure f args agg
      let proper := own.isNone
      let failure := own.orElse fun _ => failure
      let r := resolveAll (walk (agg && !proper) (win && !proper)) failure args
      match filter, proper with
      | some c, true =>
        let rc := walk false false r.failure c
        ⟨rc.failure, false, .over f r.value distinct (some rc.value) none⟩
      | _, _ => ⟨r.failure, false, .over f r.value distinct filter none⟩
    | .over f args _ filter (some spec) =>
      let own := windowCallFailure f args (agg && win)
      let proper := own.isNone
      let failure := own.orElse fun _ => failure
      let r := resolveAll (walk agg (win && !proper)) failure args
      if !proper then ⟨r.failure, false, e⟩
      else
        let defs := (scopes.head?.map (·.windows)).getD []
        let (own, spec) := completeWindow defs f args.length filter spec
        let failure := own.orElse fun _ => r.failure
        let rp := resolveAll (walk agg false) failure spec.partition
        let ro := resolveAll (walk agg false) rp.failure (spec.order.map (·.expr))
        let rf := filter.map (walk agg false ro.failure)
        let failure := (rf.map (·.failure)).getD ro.failure
        let bound := fun (b : FrameBound) =>
          match b with
          | .preceding x => FrameBound.preceding (resolveExpr db fuel base [] false false none x).value
          | .following x => .following (resolveExpr db fuel base [] false false none x).value
          | other => other
        let frame := spec.frame.map fun fr => { fr with start := bound fr.start, finish := bound fr.finish }
        let order := (spec.order.zip ro.value).map fun (t, x) => { t with expr := x }
        ⟨failure, false, .over f r.value false (rf.map (·.value))
          (some { spec with partition := rp.value, order, frame })⟩
    | .like negated op subject pattern escape =>
      if negated && failure.isSome then stopped
      else
        let args := pattern :: subject :: escape.toList
        let isAggregate := callKind op args.length == .aggregate
        let failure := (callFailure op args agg).orElse fun _ => failure
        let r := resolveAll (walk agg (win && !(isAggregate && agg))) failure args
        let escape := match escape with
          | some x => some ((r.value.drop 2).headD x)
          | none => none
        ⟨r.failure, false,
          .like negated op (r.value.drop 1 |>.headD subject) (r.value.headD pattern) escape⟩
    | .isNull negated a =>
      let r := walk agg win failure a
      ⟨r.failure, false, .isNull negated r.value⟩
    | .binary op a b =>
      let first : Option (Resolved Expr) :=
        if op == .is || op == .isNot then
          match b.skipCollate with
          | .name none column style => some (resolveName fuel agg win scopes failure none column style)
          | _ => none
        else none
      let compare := fun (failure : Option SqlError) =>
        let failure :=
          if op.isComparison && a.width != b.width then some .rowValueMisused else failure
        if failure.isSome then (⟨failure, true, e⟩ : Resolved Expr)
        else
          let rs := resolveAll (walk agg win) none [a, b]
          ⟨rs.failure, rs.stop, .binary op (rs.value.headD a) ((rs.value.drop 1).headD b)⟩
      match first with
      | none => compare failure
      | some r =>
        -- the right side of `IS` is looked up first, whatever failed before
        if r.stop then ⟨r.failure, true, e⟩
        else match truthSide? fuel scopes b with
          | some t =>
            let ra := walk agg win r.failure a
            ⟨ra.failure, ra.stop || ra.failure.isSome, .isTruth (op == .isNot) t ra.value⟩
          | none => compare r.failure
    | .between negated a lo hi =>
      if negated && failure.isSome then stopped
      else
        let right := if lo.width == a.width then hi.width else lo.width
        let failure := if a.width != right then some .rowValueMisused else failure
        if failure.isSome then ⟨failure, true, e⟩
        else
          let rs := resolveAll (walk agg win) none [a, lo, hi]
          ⟨rs.failure, rs.stop,
            .between negated (rs.value.headD a) ((rs.value.drop 1).headD lo) ((rs.value.drop 2).headD hi)⟩
    | .inList negated a items =>
      if failure.isSome then stopped
      else
        let rs := resolveAll (walk agg win) none (a :: items)
        ⟨rs.failure, rs.stop, .inList negated (rs.value.headD a) (rs.value.drop 1)⟩
    | .inSelect negated a q =>
      if negated && failure.isSome then stopped
      else
        let rq := resolveSubquery db fuel base scopes failure q
        if rq.failure.isSome then ⟨rq.failure, true, e⟩
        else
          let ra := walk agg win none a
          ⟨ra.failure, ra.stop, .inSelect negated ra.value rq.value⟩
    | .exists q =>
      let rq := resolveSubquery db fuel base scopes failure q
      ⟨rq.failure, rq.failure.isSome, .exists rq.value⟩
    | .scalar q =>
      let rq := resolveSubquery db fuel base scopes failure q
      ⟨rq.failure, rq.failure.isSome, .scalar rq.value⟩
    | .vector items =>
      if failure.isSome then stopped
      else
        let rs := resolveAll (walk agg win) none items
        ⟨rs.failure, rs.stop, .vector rs.value⟩
    | .case operand arms otherwise =>
      if failure.isSome then stopped
      else
        let rs := resolveAll (walk agg win) none (caseParts operand arms otherwise)
        ⟨rs.failure, rs.stop, caseOf operand arms otherwise rs.value⟩
    | .unary op a =>
      if failure.isSome then stopped
      else
        let r := walk agg win none a
        ⟨r.failure, r.stop, .unary op r.value⟩
    | .cast a t =>
      if failure.isSome then stopped
      else
        let r := walk agg win none a
        ⟨r.failure, r.stop, .cast r.value t⟩
    | .collate a c =>
      if failure.isSome then stopped
      else
        let r := walk agg win none a
        ⟨r.failure, r.stop, .collate r.value c⟩
    | .isTruth negated t a =>
      if failure.isSome then stopped
      else
        let r := walk agg win none a
        ⟨r.failure, r.stop, .isTruth negated t r.value⟩

/-- A subquery inside expressions of height `base`: tables looked up regardless, the rest if
nothing failed. -/
def resolveSubquery (db : Database) : Nat → Nat → List Scope → Option SqlError → Select →
    Resolved Select
  | 0, _, _, failure, q => ⟨failure, true, q⟩
  | fuel + 1, base, outer, failure, q =>
    match q.missingTable db fuel with
    | some err => ⟨some err, true, q⟩
    | none => if failure.isSome then ⟨failure, true, q⟩ else resolveQuery db fuel base outer q

/-- A query with existing tables, in scopes and inside height `base`: its arm, or arm by
arm. -/
def resolveQuery (db : Database) : Nat → Nat → List Scope → Select → Resolved Select
  | 0, _, _, q => ⟨none, true, q⟩
  | fuel + 1, base, outer, q =>
    if q.compound.isEmpty then
      match sourcesOf db fuel q.source with
      | .error err => ⟨some err, true, q⟩
      | .ok sources => resolveSelectFrom db fuel base outer sources q
    else resolveCompound db fuel base outer q

/-- Resolves a `FROM` clause's subqueries left to right, in the scopes around, from `base`. -/
def resolveFromItem (db : Database) : Nat → Nat → List Scope → FromItem → Resolved FromItem
  | 0, _, _, item => ⟨none, false, item⟩
  | fuel + 1, base, outer, item =>
    match item with
    | .subquery sub asName =>
      let r := resolveQuery db fuel base outer sub
      ⟨r.failure, r.stop, .subquery r.value asName⟩
    | .join left kind natural right on usingColumns =>
      let l := resolveFromItem db fuel base outer left
      if l.failure.isSome then ⟨l.failure, true, item⟩
      else
        let r := resolveFromItem db fuel base outer right
        ⟨r.failure, r.stop, .join l.value kind natural r.value on usingColumns⟩
    | other => ⟨none, false, other⟩

/-- A compound: `*` expanded; the window; arms from the right, as wide as the next; the order by
positions or result names. -/
def resolveCompound (db : Database) : Nat → Nat → List Scope → Select → Resolved Select
  | 0, _, _, q => ⟨none, true, q⟩
  | fuel + 1, base, outer, q =>
    let fail := fun (err : Option SqlError) => (⟨err, true, q⟩ : Resolved Select)
    match q.resultNamesOf db fuel with
    | .error err => fail (some err)
    | .ok _ =>
      let window : Resolved (List Expr) := match windowHeight q with
        | none => ⟨none, false, []⟩
        | some h =>
          match enterHeight base h with
          | .error err => ⟨some err, true, []⟩
          | .ok b => resolveAll (resolveExpr db fuel b [] false false) none (q.limit.toList ++ q.offset.toList)
      if window.failure.isSome then fail window.failure
      else
        let core := fun (arm : Select) => { arm with compound := [], order := [], limit := none, offset := none }
        let ops := q.compound.map (·.1)
        let step : Except SqlError (List Select) → Select × Option CompoundOp →
            Except SqlError (List Select) := fun acc armOp =>
          match acc with
          | .error err => .error err
          | .ok done =>
            let (arm, op) := armOp
            let r := resolveQuery db fuel base outer (core arm)
            match r.failure with
            | some err => .error err
            | none =>
              match op, done.head? with
              | some op, some right =>
                if r.value.columns.length != right.columns.length then
                  .error (if right.isValues then .valuesWidth else .compoundColumns op)
                else .ok (r.value :: done)
              | _, _ => .ok (r.value :: done)
        let arms := q.arms.zip ((ops.map some) ++ [none])
        match arms.reverse.foldl step (.ok []) with
        | .error err => fail (some err)
        | .ok resolved =>
          let count := (resolved.head?.map (·.columns.length)).getD 0
          let named := fun (n : String) => resolved.findSome? fun arm =>
            arm.columns.findIdx? fun
              | .expr _ (some a) => sameName a n
              | _ => false
          let written := fun (n : String) => q.arms.findSome? fun arm =>
            arm.columns.findIdx? fun
              | .expr (.name _ c _) none => sameName c n
              | _ => false
          let first := resolved.headD q
          let placed := q.order.zipIdx.foldl (fun (acc : Except SqlError (List OrderTerm)) (t, k) =>
            match acc with
            | .error err => .error err
            | .ok done =>
              let inner := t.expr.skipCollate
              let position := match constantInteger? inner with
                | some n =>
                  if n < 1 || n > count then Except.error (SqlError.orderTermOutOfRange (k + 1) count)
                  else .ok n.toNat
                | none =>
                  match inner with
                  | .name none n _ =>
                    match (named n).orElse fun _ => written n with
                    | some i => .ok (i + 1)
                    | none => .error (.orderTermNoMatch (k + 1))
                  | _ => .error (.orderTermNoMatch (k + 1))
              match position with
              | .error err => .error err
              | .ok n =>
                let e := ((first.resultExprs.drop (n - 1)).head?).getD (.literal .null)
                let coll := resolved.findSome? fun arm =>
                  (arm.resultExprs.drop (n - 1)).head?.bind (·.collationName fuel)
                let column := Expr.column 0 (n - 1) (e.affinity fuel) coll
                .ok (done ++ [{ t with expr := match t.expr with
                  | .collate _ c => .collate column c
                  | _ => column }])) (.ok [])
          match placed with
          | .error err => fail (some err)
          | .ok order =>
            let limit := q.limit.map fun l => window.value.headD l
            let offset := q.offset.map fun o => (window.value.drop q.limit.toList.length).headD o
            match resolved with
            | head :: rest =>
              ⟨none, false, { head with compound := q.compound.zip rest |>.map fun ((op, _), arm) => (op, arm),
                                        order, limit, offset }⟩
            | [] => fail none

/-- A query over placed sources, each part stopping at its first failure, outermost expressions
adding their height. -/
def resolveSelectFrom (db : Database) : Nat → Nat → List Scope → List Placed → Select →
    Resolved Select
  | 0, _, _, _, q => ⟨none, true, q⟩
  | fuel + 1, base, outer, sources, q =>
    let attempt : Except SqlError Select := do
      let _ ← expandColumns sources q.columns
      let window ← match windowHeight q with
        | none => pure (⟨none, false, []⟩ : Resolved (List Expr))
        | some h => do
          let b ← enterHeight base h
          pure (resolveAll (resolveExpr db fuel b [] false false) none (q.limit.toList ++ q.offset.toList))
      if let some err := window.failure then throw err
      let source ← match q.source with
        | some item =>
          let r := resolveFromItem db fuel base outer item
          match r.failure with
          | some err => throw err
          | none => pure (some r.value)
        | none => pure none
      let sources := withSubqueryAffinities fuel source sources
      let columns ← expandColumns sources q.columns
      let limit := q.limit.map fun l => window.value.headD l
      let offset := q.offset.map fun o => (window.value.drop q.limit.toList.length).headD o
      let own : Scope := { sources, windows := q.windows }
      -- an outermost expression, its height entered first
      let outermost := fun (scopes : List Scope) (a w : Bool) (x : Expr) =>
        match enterHeight base (x.height heightFuel) with
        | .error err => (⟨some err, true, x⟩ : Resolved Expr)
        | .ok b => resolveExpr db fuel b scopes a w none x
      let results := columns.map fun (e, _) => outermost (own :: outer) true true e
      if let some r := results.find? (·.failure.isSome) then throw (r.failure.getD .noTablesSpecified)
      let bound := results.map (·.value)
      let isAggregate := !q.group.isEmpty || bound.any fun e => !(e.aggregates fuel).isEmpty
      let aliases := (columns.zip bound).filterMap fun ((_, asName), e) => asName.map (·, e)
      let named : Scope := { own with aliases }
      let failed := fun (r : Resolved Expr) =>
        match r.failure with
        | some err => Except.error err
        | none => .ok r.value
      let having ← match q.having with
        | none => pure none
        | some h =>
          if !isAggregate then throw .havingWithoutAggregate
          else some <$> failed (outermost (named :: outer) true false h)
      -- the filter and the join constraints are one expression, its height entered once
      let steps := (q.source.map (·.steps)).getD []
      let filterBase ← match joinedFilterHeight q.filter steps sources with
        | some h => enterHeight base h
        | none => pure base
      let inFilter := fun (x : Expr) => resolveExpr db fuel filterBase (named :: outer) isAggregate false none x
      let filter ← match q.filter with
        | some f => some <$> failed (inFilter f)
        | none => pure none
      let (source, joinTerms) ← match source with
        | some item => do
          let (item, terms) ← bindJoins (fun x => failed (inFilter x)) sources item
          pure (some item, terms)
        | none => pure (none, [])
      let filter := andAll (filter.toList ++ joinTerms)
      let source ← match source with
        | some item => some <$> bindArguments (bindAll (outermost (named :: outer) false false)) item
        | none => pure none
      let order ← bindOrder (outermost [named] true true) columns bound q.order
      let group ← bindGroup fuel (outermost [named] true false) bound q.group
      let columns := (columns.zip bound).map fun ((_, asName), e) => ResultColumn.expr e asName
      pure { q with columns, source, filter, having, group, order, limit, offset }
    match attempt with
    | .ok value => ⟨none, false, value⟩
    | .error err => ⟨some err, true, q⟩

end

end PackageRegistry.Sql
