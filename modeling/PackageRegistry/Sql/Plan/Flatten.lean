import PackageRegistry.Sql.Plan.Choice
/-!
# Subqueries planned with the query around them

A query whose only source is a plain-selection subquery is planned as one query when their
aggregates, windows, limits, orders and filters agree; otherwise the subquery may still take the
outer terms constraining its rows alone.
-/

namespace PackageRegistry.Sql

/-- An expression with each column `i` of its row replaced by `f i` of it; subqueries left
alone. -/
def Expr.mapRow (f : Nat → Expr → Expr) : Nat → Expr → Expr
  | 0, e => e
  | fuel + 1, e =>
    let s := Expr.mapRow f fuel
    match e with
    | .column 0 i _ _ => f i e
    | .unary op a => .unary op (s a)
    | .binary op a b => .binary op (s a) (s b)
    | .isNull n a => .isNull n (s a)
    | .like n op a p esc => .like n op (s a) (s p) (esc.map s)
    | .between n a lo hi => .between n (s a) (s lo) (s hi)
    | .inList n a items => .inList n (s a) (items.map s)
    | .inSelect n a q => .inSelect n (s a) q
    | .vector items => .vector (items.map s)
    | .case operand arms otherwise =>
      .case (operand.map s) (arms.map fun (w, t) => (s w, s t)) (otherwise.map s)
    | .cast a ty => .cast (s a) ty
    | .call f args d => .call f (args.map s) d
    | .collate a c => .collate (s a) c
    | .isTruth n t a => .isTruth n t (s a)
    | .over f args d filter w => .over f (args.map s) d (filter.map s) w
    | _ => e

/-- An outer expression with each subquery column replaced by the subquery's expression for it
(`NULL` past its columns). -/
def Expr.substResults (results : List Expr) (fuel : Nat) (e : Expr) : Expr :=
  e.mapRow (fun i _ => results.getD i (.literal .null)) fuel

/-- Whether an expression holds a subquery that reads the row of the query around it. -/
def Expr.queryReadsRow : Nat → Expr → Bool
  | 0, _ => false
  | fuel + 1, e =>
    let any := fun (items : List Expr) => items.any (·.queryReadsRow fuel)
    match e with
    | .scalar q | .exists q => !(q.columnsAt fuel 1).isEmpty
    | .inSelect _ a q => !(q.columnsAt fuel 1).isEmpty || any [a]
    | .unary _ a | .isNull _ a | .cast a _ | .collate a _ | .isTruth _ _ a => any [a]
    | .binary _ a b => any [a, b]
    | .like _ _ subject pattern escape => any (pattern :: subject :: escape.toList)
    | .between _ a lo hi => any [a, lo, hi]
    | .inList _ a items => any (a :: items)
    | .vector items | .call _ items _ => any items
    | .over _ args _ filter w => any (args ++ filter.toList ++ ((w.map (·.exprs)).getD []))
    | .case operand arms otherwise => any (caseParts operand arms otherwise)
    | _ => false

/-- Whether an expression calls a function (`LIKE` and `GLOB` among them) or holds a subquery. -/
def Expr.isComplex : Nat → Expr → Bool
  | 0, _ => false
  | fuel + 1, e =>
    let any := fun (items : List Expr) => items.any (·.isComplex fuel)
    match e with
    | .call .. | .over .. | .like .. | .scalar _ | .exists _ | .inSelect .. => true
    | .unary _ a | .isNull _ a | .cast a _ | .collate a _ | .isTruth _ _ a => any [a]
    | .binary _ a b => any [a, b]
    | .between _ a lo hi => any [a, lo, hi]
    | .inList _ a items => any (a :: items)
    | .vector items => any items
    | .case operand arms otherwise => any (caseParts operand arms otherwise)
    | _ => false

/-- Whether a bound query computes aggregates for its rows. -/
def Select.aggregates (fuel : Nat) (q : Select) : Bool :=
  !q.group.isEmpty || q.having.isSome || q.resultExprs.any fun x => !(x.aggregates fuel).isEmpty

/-- For a query over one subquery planned with it: the query to plan (the subquery's sources
under both filters) and the subquery to read, its pointless order dropped. -/
def flattenedView (fuel : Nat) (outer : Select) : Option (Select × Select) := do
  let sub ← match outer.source with
    | some (.subquery sub _) => some sub
    | _ => none
  let results := outer.resultExprs
  let outerExprs := results ++ outer.order.map (·.expr) ++ outer.filter.toList ++ outer.group ++
    outer.having.toList
  let outerAgg := !outer.group.isEmpty || results.any fun x => !(x.aggregates fuel).isEmpty
  let windowed := fun (q : Select) => (q.resultExprs ++ q.order.map (·.expr)).any (·.hasWindow fuel)
  if sub.aggregates fuel || sub.distinct || !sub.compound.isEmpty || sub.recursion.isSome ||
      sub.source.isNone || windowed outer || windowed sub then none
  let sub := if !sub.order.isEmpty && !outer.order.isEmpty && sub.limit.isNone then
      { sub with order := [] } else sub
  if sub.limit.isSome && (outer.limit.isSome || sub.offset.isSome || outerAgg ||
      outer.filter.isSome || outer.distinct) then none
  if !sub.order.isEmpty && (!outer.order.isEmpty || outerAgg || results.any (·.isComplex fuel)) then
    none
  if outerExprs.any (·.queryReadsRow fuel) then none
  let subst := Expr.substResults sub.resultExprs fuel
  let view : Select :=
    { sub with
      columns := outer.columns.map fun
        | .expr e n => .expr (subst e) n
        | c => c,
      filter := andAll (sub.filter.toList ++ (outer.filter.map subst).toList),
      group := outer.group.map subst,
      having := outer.having.map subst,
      order := if outer.order.isEmpty then sub.order
        else outer.order.map fun t => { t with expr := subst t.expr },
      limit := outer.limit.orElse fun _ => sub.limit,
      offset := outer.offset.orElse fun _ => sub.offset,
      distinct := outer.distinct,
      windows := [] }
  pure (view, sub)

/-! ## Filters pushed into subqueries -/

/-- Whether a term constrains only the source at `[lo, hi)`: no other column, no subquery, no
varying function. -/
def Expr.constrainsOnly (lo hi : Nat) : Nat → Expr → Bool
  | 0, _ => false
  | fuel + 1, e =>
    let all := fun (items : List Expr) => items.all (·.constrainsOnly lo hi fuel)
    match e with
    | .literal _ | .hexLiteral _ | .variable _ => true
    | .column 0 i _ _ => lo ≤ i && i < hi
    | .unary _ a | .isNull _ a | .cast a _ | .collate a _ | .isTruth _ _ a => all [a]
    | .binary _ a b => all [a, b]
    | .like _ _ subject pattern escape => all (pattern :: subject :: escape.toList)
    | .between _ a x y => all [a, x, y]
    | .inList _ a items => all (a :: items)
    | .vector items => all items
    | .case operand arms otherwise => all (caseParts operand arms otherwise)
    | .call f args _ => !isVolatile f.toUpper && all args
    | _ => false

/-- Whether a subquery takes terms pushed into it: it has no `LIMIT`, is not recursive, and
calls no window function. -/
def Select.takesPushed (fuel : Nat) (q : Select) : Bool :=
  q.limit.isNone && q.recursion.isNone &&
    !q.arms.any fun arm => (arm.resultExprs ++ arm.order.map (·.expr)).any (·.hasWindow fuel)

/-- A subquery at `lo` with terms pushed in, columns replaced by the arm's expressions, into
`HAVING` if aggregating. -/
def Select.pushTerms (fuel lo : Nat) (terms : List Expr) (q : Select) : Select :=
  let onArm := fun (arm : Select) =>
    let moved := terms.reverse.map fun t =>
      t.mapRow (fun i _ => arm.resultExprs.getD (i - lo) (.literal .null)) fuel
    if arm.aggregates fuel then { arm with having := andAll (arm.having.toList ++ moved) }
    else { arm with filter := andAll (arm.filter.toList ++ moved) }
  { onArm q with compound := q.compound.map fun (op, arm) => (op, onArm arm) }

/-- Sources with the filter's terms pushed into the subqueries they alone constrain, a left
join's into its right side; none past a right or full join. -/
def FromItem.pushDown (db : Database) (fuel : Nat) (filter : Option Expr) (source : FromItem) :
    FromItem :=
  let steps := source.steps
  if steps.any fun s => s.kind == .right || s.kind == .full then source
  else
    let terms := filter.toList.flatMap (·.andTerms fuel)
    let pushed := (steps.foldl (fun (acc : List JoinStep × Nat) step =>
      let width := step.item.width db
      let step := match step.item with
        | .subquery sub asName =>
          let offered := if step.kind == .left then step.on.toList.flatMap (·.andTerms fuel)
            else terms
          let taken := offered.filter (·.constrainsOnly acc.2 (acc.2 + width) fuel)
          if taken.isEmpty || !sub.takesPushed fuel then step
          else { step with item := .subquery (sub.pushTerms fuel acc.2 taken) asName }
        | _ => step
      (acc.1 ++ [step], acc.2 + width)) ([], 0)).1
    match pushed with
    | [] => source
    | first :: rest => rest.foldl (fun (left : FromItem) step =>
        .join left step.kind step.natural step.item step.on step.usingColumns) first.item

end PackageRegistry.Sql
