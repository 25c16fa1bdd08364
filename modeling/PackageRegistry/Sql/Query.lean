import PackageRegistry.Sql.Eval
import PackageRegistry.Sql.CommonTable
import PackageRegistry.Sql.Binds
/-!
# Running a query over a relation

A query reads a relation and applies what follows `FROM`: the filter, distinct rows, the order,
and the `LIMIT`/`OFFSET` window. It is parsed, resolved and planned first; a second statement is
refused, and the values must match the variables.
-/

namespace PackageRegistry.Sql

/-- A relation a query reads. -/
structure Relation where
  source : Source
  /-- The names of the columns a query returns. -/
  result : List String
  distinct : Bool
  rows : List (List SqlValue)
  /-- The height of the relation's defining filter: read in place under one more `AND`, which
  must stay within the greatest height. -/
  innerFilter : Option Nat := none

/-- A value supplied for a variable, before the engine takes it. -/
inductive Parameter where
  | null
  | integer (n : Int)
  | real (x : Float)
  | text (s : String)
  | blob (bytes : List UInt8)
  /-- A value of a kind the engine cannot hold, such as a list. -/
  | unsupported
  deriving Repr, BEq

/-- Why a query fails. -/
inductive QueryError where
  /-- The database refuses the query. -/
  | operational (error : SqlError)
  /-- A named bind has no value. -/
  | valueRequired (name : String)
  /-- The text holds more than one statement. -/
  | multipleStatements
  /-- The variables take `needed` values but `supplied` are given. -/
  | bindingCount (needed supplied : Nat)
  /-- The value at this position (from zero) is of a kind the engine cannot hold. -/
  | unsupportedParameter (position : Nat)
  /-- An integer value lies outside the 64-bit range. -/
  | integerTooLarge
  deriving Repr, BEq, DecidableEq

/-- The text of a failure. -/
def QueryError.message : QueryError → String
  | .operational e => e.message
  | .valueRequired n => "A value is required for bind parameter '" ++ n ++ "'"
  | .multipleStatements => "You can only execute one statement at a time."
  | .bindingCount n k =>
    "Incorrect number of bindings supplied. The current statement uses " ++ toString n ++
      ", and there are " ++ toString k ++ " supplied."
  | .unsupportedParameter i =>
    "Error binding parameter " ++ toString i ++ " - probably unsupported type."
  | .integerTooLarge => "Python int too large to convert to SQLite INTEGER"

/-- The values the engine holds for supplied values, from position `i`. -/
def takeParameters (i : Nat) : List Parameter → Except QueryError (List SqlValue)
  | [] => .ok []
  | p :: ps => do
    let v ← match p with
      | .null => .ok SqlValue.null
      | .integer n => if fitsInteger n then .ok (.integer n) else .error .integerTooLarge
      | .real x => .ok (.real x)
      | .text s => .ok (.ofString s)
      | .blob bs => .ok (.blob bs)
      | .unsupported => .error (.unsupportedParameter i)
    let vs ← takeParameters (i + 1) ps
    .ok (v :: vs)

/-- A relation's query for what follows `FROM`: its returned columns, rows once if the relation
says so. -/
def Relation.select (rel : Relation) (tail : QueryTail) : Select :=
  { distinct := rel.distinct,
    columns := rel.result.map fun n => .expr (.name none n .bare) none,
    filter := tail.filter, order := tail.order, limit := tail.limit, offset := tail.offset }

/-- The planning failure reported: the last, except `RAISE` outside a trigger wins. -/
def reportedPlanFailure (failures : List SqlError) : Option SqlError :=
  let others := failures.filter (· != .raiseOutsideTrigger)
  if failures.contains .raiseOutsideTrigger && others.all (· == .rowValueMisused) then
    some .raiseOutsideTrigger
  else others.getLast?

/-- Runs what follows `FROM` over a relation with numbered values: the selected rows' returned
columns. -/
def runQuery (db : Database) (rel : Relation) (tail : String) (params : List Parameter) :
    Except QueryError (List (List SqlValue)) := do
  let tokens := numberVariables 0 [] (tokenize tail)
  let parsed ← (readQueryTail tokens).mapError .operational
  let fuel := exprFuel tokens
  let written := parsed.filter.map (·.height heightFuel)
  let inline := fun (e : Expr) => e.inlineTables db fuel [] []
  let parsed := { parsed with filter := parsed.filter.map inline,
                              order := parsed.order.map fun t => { t with expr := inline t.expr },
                              limit := parsed.limit.map inline, offset := parsed.offset.map inline }
  let resolved := resolveSelectFrom db fuel 0 [] [{ source := rel.source }] (rel.select parsed)
  if let some f := resolved.failure then throw (.operational f)
  if let (some inner, some outer) := (rel.innerFilter, written) then
    if max inner outer + 1 > maxExprHeight then throw (.operational .expressionTooDeep)
  if let some f := reportedPlanFailure (resolved.value.planFailures fuel) then
    throw (.operational f)
  if parsed.trailing then throw .multipleStatements
  let needed := variableCount tokens
  if needed != params.length then throw (.bindingCount needed params.length)
  let binds ← takeParameters 0 params
  let rows ← (runSelect { db, binds } fuel true (rel.rows.map (·.map plain)) resolved.value).mapError .operational
  .ok (rows.map (·.map (·.value)))

/-! ## Modules of pragma tables -/

mutual

/-- Tables a query names, with schemas, in lookup order: per arm from the last, `FROM`,
expressions, subqueries. -/
def Select.tableNames : Nat → Select → List (Option String × String)
  | 0, _ => []
  | fuel + 1, q =>
    let arms : List Select := q.compound.reverse.map (·.2) ++ [{ q with compound := [] }]
    arms.flatMap fun arm =>
      let ex := fun (e : Expr) => Expr.tableNames fuel e
      let steps := (arm.source.map (·.steps)).getD []
      let own := steps.filterMap fun step =>
        match step.item with
        | .table schema name _ _ | .function schema name _ _ => some (schema, name)
        | _ => none
      let exprs := arm.columns.filterMap (fun
          | .expr e _ => some e
          | _ => none) ++
        arm.filter.toList ++ steps.filterMap (·.on) ++ arm.group ++ arm.having.toList ++
        arm.order.map (·.expr) ++ arm.limit.toList ++ arm.offset.toList
      let inner := steps.flatMap fun step =>
        match step.item with
        | .subquery sub _ => Select.tableNames fuel sub
        | .function _ _ args _ => args.flatMap ex
        | _ => []
      own ++ exprs.flatMap ex ++ inner

/-- The tables the subqueries of an expression name, in order. -/
def Expr.tableNames : Nat → Expr → List (Option String × String)
  | 0, _ => []
  | fuel + 1, e =>
    let ex := fun (x : Expr) => Expr.tableNames fuel x
    let sub := fun (q : Select) => Select.tableNames fuel q
    match e with
    | .unary _ a | .isNull _ a | .cast a _ | .collate a _ | .isTruth _ _ a => ex a
    | .binary _ a b => ex a ++ ex b
    | .like _ _ subject pattern escape => ex subject ++ ex pattern ++ escape.toList.flatMap ex
    | .between _ a lo hi => ex a ++ ex lo ++ ex hi
    | .inList _ a items => ex a ++ items.flatMap ex
    | .inSelect _ a q => ex a ++ sub q
    | .exists q | .scalar q => sub q
    | .vector items | .call _ items _ => items.flatMap ex
    | .case operand arms otherwise =>
      operand.toList.flatMap ex ++ arms.flatMap (fun (w, t) => ex w ++ ex t) ++
        otherwise.toList.flatMap ex
    | .over _ args _ filter w =>
      args.flatMap ex ++ filter.toList.flatMap ex ++
        w.toList.flatMap fun w => w.partition.flatMap ex ++ w.order.flatMap (ex ·.expr)
    | _ => []

end

/-- Pragma tables a query names, in lookup order: no table but `pragma_` and a row-returning
pragma. Preparing adds their modules; an unparsable query names none. -/
def pragmaTablesNamed (db : Database) (text : String) : List String :=
  let tokens := numberVariables 0 [] (tokenize text)
  match readQueryTail tokens with
  | .error _ => []
  | .ok parsed =>
    let fuel := exprFuel tokens
    let exprs := parsed.filter.toList ++ parsed.order.map (·.expr) ++ parsed.limit.toList ++
      parsed.offset.toList
    let names := exprs.flatMap fun e => (e.inlineTables db fuel [] []).tableNames fuel
    names.filterMap fun (schema, name) =>
      if (db.findIn? schema name).isNone && (pragmaOfTable? name).isSome then some name else none

/-- The database with modules of these names added in order, unless one of that name in any
case exists. -/
def Database.withModules (db : Database) (names : List String) : Database :=
  { db with modules := names.foldl (fun ms n => if ms.any (sameName · n) then ms else ms ++ [n]) db.modules }

/-- Runs a query with named binds on a connection first adding the modules of its pragma tables,
unless a name has no value; gives the database too. -/
def runNamed (db : Database) (rel : Relation) (tail : String) (values : List (String × Parameter)) :
    Database × Except QueryError (List (List SqlValue)) :=
  let (text, names) := positionalBinds tail
  match bindValues values names with
  | .error name => (db, .error (.valueRequired name))
  | .ok params =>
    let db := db.withModules (pragmaTablesNamed db text)
    (db, runQuery db rel text params)

end PackageRegistry.Sql
