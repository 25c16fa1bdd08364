import PackageRegistry.Sql.Plan.Solver
/-!
# The plan of a query

The plan of a query over stored tables is its tables in reading order, each with the order its
rows come in, chosen against the order the query wants.
-/

namespace PackageRegistry.Sql

/-! ## Comparing expressions -/

def SqlValue.sameLiteral : SqlValue → SqlValue → Bool
  | .null, .null => true
  | .integer a, .integer b => a == b
  | .real a, .real b => a == b
  | .text a, .text b => a == b
  | .blob a, .blob b => a == b
  | _, _ => false

/-- Whether two bound expressions are written alike: same columns, literals, variables,
operators and calls on the same operands. -/
def Expr.sameAs : Nat → Expr → Expr → Bool
  | 0, _, _ => false
  | fuel + 1, a, b =>
    let all := fun (xs ys : List Expr) =>
      xs.length == ys.length && (xs.zip ys).all fun (x, y) => x.sameAs fuel y
    match a, b with
    | .literal x, .literal y => x.sameLiteral y
    | .variable i, .variable j => i == j
    | .column d i _ _, .column e j _ _ => d == e && i == j
    | .unary o x, .unary p y => o == p && x.sameAs fuel y
    | .binary o x1 x2, .binary p y1 y2 => o == p && all [x1, x2] [y1, y2]
    | .isNull m x, .isNull n y => m == n && x.sameAs fuel y
    | .collate x c, .collate y d => c.toUpper == d.toUpper && x.sameAs fuel y
    | .cast x s, .cast y r => s.toUpper == r.toUpper && x.sameAs fuel y
    | .call f xs d, .call g ys e => f.toUpper == g.toUpper && d == e && all xs ys
    | _, _ => false

/-- An expression's aggregate calls for its own query, with arguments, `DISTINCT`, and
`FILTER`. -/
def Expr.aggregateUses : Nat → Expr → List (String × List Expr × Bool × Bool)
  | 0, _ => []
  | fuel + 1, e =>
    let inner := fun (x : Expr) => x.aggregateUses fuel
    match e with
    | .call f args distinct =>
      if callKind f args.length == .aggregate then
        if aggregateHome fuel args == 0 then [(f, args, distinct, false)] else []
      else args.flatMap inner
    | .over f args distinct filter none =>
      if callKind f args.length == .aggregate then
        if aggregateHome fuel (args ++ filter.toList) == 0 then [(f, args, distinct, filter.isSome)]
        else []
      else (args ++ filter.toList).flatMap inner
    | .over _ args _ filter (some w) => (args ++ w.exprs ++ filter.toList).flatMap inner
    | .unary _ a | .isNull _ a | .cast a _ | .collate a _ | .isTruth _ _ a | .inSelect _ a _ => inner a
    | .binary _ a b => inner a ++ inner b
    | .like _ _ subject pattern escape => (pattern :: subject :: escape.toList).flatMap inner
    | .between _ a lo hi => inner a ++ inner lo ++ inner hi
    | .inList _ a items => inner a ++ items.flatMap inner
    | .vector items => items.flatMap inner
    | .case operand arms otherwise => (caseParts operand arms otherwise).flatMap inner
    | _ => []

/-- Whether an expression reads a column of its own query outside the arguments of aggregates. -/
def Expr.readsBareColumn : Nat → Expr → Bool
  | 0, _ => false
  | fuel + 1, e =>
    let any := fun (items : List Expr) => items.any (·.readsBareColumn fuel)
    match e with
    | .column 0 _ _ _ => true
    | .call f args _ => if callKind f args.length == .aggregate then false else any args
    | .over f args _ filter w =>
      if callKind f args.length == .aggregate && w.isNone then false
      else any (args ++ filter.toList ++ ((w.map (·.exprs)).getD []))
    | .unary _ a | .isNull _ a | .cast a _ | .collate a _ | .isTruth _ _ a | .inSelect _ a _ => any [a]
    | .binary _ a b => any [a, b]
    | .like _ _ subject pattern escape => any (pattern :: subject :: escape.toList)
    | .between _ a lo hi => any [a, lo, hi]
    | .inList _ a items => any (a :: items)
    | .vector items => any items
    | .case operand arms otherwise => any (caseParts operand arms otherwise)
    | _ => false

/-- Whether an expression holds a subquery. -/
def Expr.holdsQuery : Nat → Expr → Bool
  | 0, _ => false
  | fuel + 1, e =>
    let any := fun (items : List Expr) => items.any (·.holdsQuery fuel)
    match e with
    | .scalar _ | .exists _ | .inSelect .. => true
    | .unary _ a | .isNull _ a | .cast a _ | .collate a _ | .isTruth _ _ a => any [a]
    | .binary _ a b => any [a, b]
    | .like _ _ subject pattern escape => any (pattern :: subject :: escape.toList)
    | .between _ a lo hi => any [a, lo, hi]
    | .inList _ a items => any (a :: items)
    | .vector items | .call _ items _ => any items
    | .over _ args _ filter w => any (args ++ filter.toList ++ ((w.map (·.exprs)).getD []))
    | .case operand arms otherwise => any (caseParts operand arms otherwise)
    | _ => false

/-! ## What the query wants -/

/-- The window of an expression's first window call, in computing order: operands left to
right, a pattern before its text. -/
def Expr.firstWindow : Nat → Expr → Option WindowSpec
  | 0, _ => none
  | fuel + 1, e =>
    let first := fun (items : List Expr) => items.findSome? (·.firstWindow fuel)
    match e with
    | .over _ _ _ _ (some w) => some w
    | .call _ args _ | .vector args => first args
    | .unary _ a | .isNull _ a | .cast a _ | .collate a _ | .isTruth _ _ a | .inSelect _ a _ =>
      first [a]
    | .binary _ a b => first [a, b]
    | .like _ _ subject pattern escape => first (pattern :: subject :: escape.toList)
    | .between _ a lo hi => first [a, lo, hi]
    | .inList _ a items => first (a :: items)
    | .case operand arms otherwise => first (caseParts operand arms otherwise)
    | _ => none

/-- A term of `ORDER BY` as the planner reads it: `NULL` sorts last when so written against
its direction's default. -/
def OrderTerm.toPlan (t : OrderTerm) : PlanOrder :=
  { expr := t.expr, descending := t.descending,
    bigNull := match t.nullsFirst with
      | some first => first == t.descending
      | none => false }

/-- Whether `DISTINCT` cannot matter for a one-table query: a result column is the row id, or a
unique index's keys are `NOT NULL` results or fixed by constants. -/
def distinctRedundant (ctx : TermContext) (main : Clause) (results : List Expr) : Bool :=
  match ctx.tables with
  | [t] =>
    results.any (fun e => ctx.columnAt? e == some (t.position, .rowid)) ||
    t.indexes.any fun p => p.unique &&
      (p.columns.take p.keyCount).all fun c =>
        let check := match c with
          | .column j => some (t.affinityOf (.column j), t.collationOf (.column j))
          | .rowid => none
        (scanColumn ctx [main] t.position c opEq check).any (fun (_, u) => u.prereqRight == 0) ||
        (t.notNull c && results.any fun e =>
          ctx.columnAt? e == some (t.position, c) &&
            sameName ((e.collationName ctx.fuel).getD "BINARY") (t.collationOf c))
  | _ => false

/-- What a query of one arm wants of its plan (see the solver). -/
def planGoal (ctx : TermContext) (main : Clause) (q : Select) : PlanGoal :=
  let fuel := ctx.fuel
  let results := q.resultExprs
  let columns := results.length
  let isAggregate := !q.group.isEmpty || results.any fun x => !(x.aggregates fuel).isEmpty
  let windowed := (results ++ q.order.map (·.expr)).any (·.hasWindow fuel)
  if windowed then
    let window := if isAggregate then none
      else (results ++ q.order.map (·.expr)).findSome? (·.firstWindow fuel)
    match window with
    | some w =>
      { order := w.partition.map (fun e => ({ expr := e } : PlanOrder)) ++ w.order.map (·.toPlan),
        columns }
    | none => { columns }
  else if isAggregate then
    let uses := (results ++ q.order.map (·.expr) ++ q.having.toList).flatMap (·.aggregateUses fuel)
    let calls := uses.foldl (fun (acc : List (String × List Expr × Bool × Bool)) c =>
      if acc.any fun (f, args, d, _) => f.toUpper == c.1.toUpper && d == c.2.2.1 &&
          Expr.sameAs fuel (.call f args d) (.call c.1 c.2.1 c.2.2.1) then acc
      else acc ++ [c]) []
    let distinctCall := match calls with
      | [(_, _, true, _)] => true
      | _ => false
    if !q.group.isEmpty then
      let matched := q.order.length == q.group.length
      let order := q.group.zipIdx.map fun (e, i) =>
        ({ expr := e, descending := matched && ((q.order[i]?).map (·.descending)).getD false } : PlanOrder)
      let groupSorts := matched && (q.group.zip q.order).all fun (e, t) =>
        Expr.sameAs fuel e t.expr && (t.toPlan).bigNull == false
      { order, flags := { group := true }, distinct := distinctCall, columns, groupSorts }
    else
      match calls with
      | [(f, [arg], false, false)] =>
        if q.having.isNone && (f.toUpper == "MIN" || f.toUpper == "MAX") then
          let isMax := f.toUpper == "MAX"
          { order := [{ expr := arg, descending := isMax,
                        bigNull := !isMax && ctx.canBeNull arg }],
            flags := { withIn := true }, columns }
        else { columns }
      | [(_, args, true, _)] =>
        let bare := (results ++ q.order.map (·.expr) ++ q.having.toList).any (·.readsBareColumn fuel)
        if !bare && !distinctRedundant ctx main args then
          { order := args.map fun e => { expr := e }, flags := { distinct := true }, distinct := true,
            columns }
        else { columns }
      | _ => { columns }
  else
    let limit := match q.limit.bind (·.smallInteger?) with
      | some n => if n ≥ 0 then some (logEst n.toNat) else none
      | none => none
    if !q.order.isEmpty then
      let byResults := q.distinct && q.order.length == columns &&
        (q.order.zip results).all fun (t, e) =>
          !t.descending && t.nullsFirst.isNone && Expr.sameAs fuel t.expr e
      if byResults then
        { order := results.map fun e => { expr := e }, flags := { distinct := true }, columns,
          groupSorts := true }
      else { order := q.order.map (·.toPlan), distinct := q.distinct, limit, columns }
    else if q.distinct && !distinctRedundant ctx main results then
      { order := results.map fun e => { expr := e }, flags := { distinct := true }, distinct := true,
        limit, columns }
    else { distinct := q.distinct, limit, columns }

/-! ## Row orders -/

/-- A table's row order for one row of the tables before: by row id; by key columns then row id;
or per disjunct, each row once; each maybe backward. -/
inductive RowOrder where
  | byRowid (reverse : Bool)
  | byKeys (columns : List (KeyColumn × String)) (reverse : Bool) (nullsLast : Option Nat)
  | byParts (parts : List (Expr × RowOrder))
  deriving Inhabited

/-- A table of a plan and the order of its rows. -/
structure PlanStep where
  table : Nat
  order : RowOrder
  deriving Inhabited

/-- An automatic index's columns after `ready`: its equalities' columns once each, collated;
then the others read. -/
def automaticKeys (main : Clause) (t : PlanTable) (ready : Nat) : List (KeyColumn × String) :=
  let driven := main.entries.foldl (fun (acc : List (KeyColumn × String)) (_, u) =>
    if drivesIndex t u && maskWithin u.prereqRight ready then
      match u.target? with
      | some (_, c) => if acc.any (·.1 == c) then acc else acc ++ [(c, u.collation)]
      | none => acc
    else acc) []
  driven ++ ((t.used.filter fun j => !driven.any (·.1 == .column j)).map fun j => (.column j, "BINARY"))

/-- Filter terms planned with a disjunct: written terms `ready` leaves open, indexable, without
subquery. -/
def branchCompanions (ctx : TermContext) (main : Clause) (position : Nat) (ready : Nat) :
    List Term :=
  if main.entries.length ≤ 1 then []
  else (main.entries.filter fun (pos, u) =>
    pos != position && !u.virtual && !maskWithin u.prereqAll ready && u.ops != 0 &&
      !u.expr.holdsQuery ctx.fuel).map (·.2)

mutual

/-- A loop's row order, tables `ready` before and `later` after; backward if `reverse`, `NULL`
last if `nullsLast`. -/
def loopOrder (ctx : TermContext) (main : Clause) : Nat → Loop → Nat → List PlanTable → Bool →
    Bool → RowOrder
  | 0, _, _, _, reverse, _ => .byRowid reverse
  | fuel + 1, l, ready, later, reverse, nullsLast =>
    match ctx.tables[l.table]? with
    | none => .byRowid reverse
    | some t =>
      if l.rowid then .byRowid reverse
      else if l.automatic then .byKeys (automaticKeys main t ready) false none
      else if l.disjunction then
        match l.terms.head? with
        | some (ref, u) => .byParts (branchOrders ctx main fuel t u ref.position ready later)
        | none => .byRowid reverse
      else
        match l.index with
        | some p =>
          .byKeys ((p.columns.take p.keyCount).map fun c => (c, t.collationOf c)) reverse
            (if nullsLast then some l.eqCount else none)
        | none => .byRowid reverse

/-- The disjuncts at `position`, each with its own plan's row order, planned for the table alone
with its companion terms. -/
def branchOrders (ctx : TermContext) (main : Clause) : Nat → PlanTable → Term → Nat → Nat →
    List PlanTable → List (Expr × RowOrder)
  | 0, _, _, _, _, _ => []
  | fuel + 1, t, u, position, ready, later =>
    let companions := branchCompanions ctx main position ready
    let here : PlanTable := { t with position := 0 }
    let after := later.zipIdx.map fun (x, k) => { x with position := k + 1 }
    let renumber := fun (j : Option Nat) => j.bind fun k =>
      if k == t.position then some 0
      else (later.findIdx? (·.position == k)).map (· + 1)
    let sub : TermContext := { ctx with tables := here :: after }
    u.clause.filterMap fun s =>
      if hasOp s.ops opAnd || s.table? == some t.position then
        let base := (s.expr.andTerms ctx.fuel).map (·, renumber s.joinTable) ++
          companions.map fun c => (c.expr, renumber c.joinTable)
        let terms := analyzeClause sub ctx.fuel true base
        let subMain := Clause.ofTerms [] terms.toList base.length
        let lc : LoopContext := { terms := sub, main := subMain, branch := true }
        let loops := buildLoops lc [here]
        match solvePaths sub subMain {} loops 1 0 with
        | some path =>
          match path.loops.head? with
          | some l => some (s.expr, loopOrder sub subMain fuel l 0 after false false)
          | none => none
        | none => none
      else none

end

/-! ## Planning -/

/-- Whether a one-table query reads at most one row: its filter fixes the row id or a unique
index's keys. -/
def readsOneRow (ctx : TermContext) (main : Clause) (t : PlanTable) : Bool :=
  t.hint == .free &&
    ((scanColumn ctx [main] t.position .rowid (opEq ||| opIs) none).any (·.2.prereqRight == 0) ||
     t.indexes.any fun p => p.unique &&
       (p.columns.take p.keyCount).all fun c =>
         let check := match c with
           | .column j => some (t.affinityOf (.column j), t.collationOf (.column j))
           | .rowid => none
         let opMask := if p.uniqueNotNull then opEq ||| opIs else opEq
         (scanColumn ctx [main] t.position c opMask check).any (·.2.prereqRight == 0))

/-- The planner's filter terms: `WHERE` and inner joins, then left joins' constraints, marked
with their table. -/
def filterTerms (tables : List PlanTable) (fuel : Nat) (q : Select) : List (Expr × Option Nat) :=
  let steps := (q.source.map (·.steps)).getD []
  let own := (q.filter.toList.flatMap (·.andTerms fuel)).map (·, none)
  let joins := (steps.zip tables).flatMap fun (step, t) =>
    if step.kind == .left then
      (step.on.toList.flatMap (·.andTerms fuel)).map (·, if t.outer then some t.position else none)
    else []
  own ++ joins

/-- A one-arm query's plan over stored tables: tables in reading order with row orders; none if
unplannable. -/
def planQuery (db : Database) (binds : List SqlValue) (fuel : Nat) (q : Select) :
    Option (List PlanTable × List PlanStep) := do
  let tables ← planTables db fuel q
  let ctx : TermContext := { tables, binds, fuel }
  let base := filterTerms tables fuel q
  let terms := analyzeClause ctx fuel true base
  let main := Clause.ofTerms [] terms.toList base.length
  let g := planGoal ctx main q
  match tables with
  | [t] =>
    if readsOneRow ctx main t then return (tables, [{ table := 0, order := .byRowid false }])
  | _ => pure ()
  let lc : LoopContext := { terms := ctx, main, order := g.order }
  let loops := buildLoops lc tables
  let count := tables.length
  let first ← solvePaths ctx main g loops count 0
  let path ← if g.order.isEmpty then pure first else solvePaths ctx main g loops count (first.nRow + 1)
  let n := g.order.length
  let front := path.loops.dropLast
  let lastLoop := path.loops.getLastD default
  let rev :=
    if g.order.isEmpty || g.flags.distinct then 0
    else if path.ordered ≤ 0 then
      if !lastLoop.oneRow && !(lastLoop.rowid && lastLoop.columnIn) then
        let r := satisfiesOrder ctx main g.order { lastOnly := true, withIn := true } front lastLoop
        if r.ordered == n then r.rev else path.rev
      else path.rev
    else path.rev
  let rev :=
    if g.groupSorts && path.ordered == n && n > 0 then
      let r := satisfiesOrder ctx main g.order {} front lastLoop
      if r.ordered == n then r.rev else rev
    else rev
  let bigNull := if g.order.isEmpty then [] else
    (satisfiesOrder ctx main g.order g.flags front lastLoop).bigNull
  let (steps, _) := path.loops.zipIdx.foldl (fun (acc : List PlanStep × Nat) (l, i) =>
    let (done, ready) := acc
    let later := (path.loops.drop (i + 1)).filterMap fun x => tables[x.table]?
    let order := loopOrder ctx main fuel l ready later (rev &&& orderBit i != 0)
      (bigNull.contains l.table)
    (done ++ [{ table := l.table, order }], ready ||| l.self)) ([], 0)
  return (tables, steps)

end PackageRegistry.Sql
