import PackageRegistry.Sql.Resolve
import PackageRegistry.Sql.Window
/-!
# What a bound expression is before it runs

Affinities and collations of bound expressions, and the checks planning makes: a row value where
one value is wanted, a subquery of the wrong width, an unknown collation or a misplaced
aggregate is refused.
-/

namespace PackageRegistry.Sql

/-- Whether a bound expression calls a window function outside its subqueries. -/
def Expr.holdsWindow : Nat → Expr → Bool
  | 0, _ => false
  | fuel + 1, e =>
    match e with
    | .over _ _ _ _ (some _) => true
    | .unary _ a | .isNull _ a | .cast a _ | .isTruth _ _ a | .inSelect _ a _ | .collate a _ =>
      a.holdsWindow fuel
    | .binary _ a b => a.holdsWindow fuel || b.holdsWindow fuel
    | .like _ _ subject pattern escape =>
      (pattern :: subject :: escape.toList).any (·.holdsWindow fuel)
    | .between _ a lo hi => a.holdsWindow fuel || lo.holdsWindow fuel || hi.holdsWindow fuel
    | .inList _ a items => a.holdsWindow fuel || items.any (·.holdsWindow fuel)
    | .vector items | .call _ items _ | .over _ items _ _ none => items.any (·.holdsWindow fuel)
    | .case operand arms otherwise => (caseParts operand arms otherwise).any (·.holdsWindow fuel)
    | _ => false

/-- A compound's collation for a result column: the first arm's whose expression there has
one. -/
def compoundCollationName (fuel : Nat) (q : Select) (i : Nat) : Option String :=
  q.arms.findSome? fun arm => (arm.resultExprs.drop i).head?.bind (·.collationName fuel)

/-- The collation comparing two bound operands: the left one's `COLLATE`, else the right one's,
else either's own. -/
def comparisonCollationName (fuel : Nat) (a b : Expr) : Option String :=
  if a.hasCollate fuel then a.collationName fuel
  else if b.hasCollate fuel then b.collationName fuel
  else (a.collationName fuel).orElse fun _ => b.collationName fuel

/-- The collation of a name, `BINARY` for none or one the engine lacks. -/
def collationOfName (name : Option String) : Collation :=
  (name.bind Collation.ofName?).getD .binary

/-- The failure of looking up a collation by name. -/
def collationLookup : Option String → List SqlError
  | some c => if (Collation.ofName? c).isSome then [] else [.noSuchCollation c]
  | none => []

/-- Collations a comparison looks up: the left's, then the right's, each with `COLLATE`. -/
def comparisonLookups (fuel : Nat) (a b : Expr) : List SqlError :=
  (if a.hasCollate fuel then collationLookup (a.collationName fuel) else []) ++
    (if b.hasCollate fuel then collationLookup (b.collationName fuel) else [])

/-- The items of a row value, the result columns of a subquery, or the expression itself. -/
def Expr.rowItems : Expr → List Expr
  | .vector items => items
  | .scalar q => q.resultExprs
  | e => [e]

/-- A bound expression's truth known while planning: a 32-bit integer literal's (as bound
`TRUE`/`FALSE`). -/
def Expr.knownTruth? : Expr → Option Bool
  | .literal (.integer n) => if 0 ≤ n && n < Int.ofNat (Nat.pow 2 31) then some (n != 0) else none
  | _ => none

/-- An `AND` or `OR` reduced by its sides of known truth, each reduced first. -/
def Expr.reducedTruth : Nat → Expr → Expr
  | 0, e => e
  | fuel + 1, e =>
    let reduce := fun (isAnd : Bool) (a b : Expr) =>
      let r := b.reducedTruth fuel
      let l := a.reducedTruth fuel
      if l.knownTruth? == some true || r.knownTruth? == some false then (if isAnd then r else l)
      else if r.knownTruth? == some true || l.knownTruth? == some false then (if isAnd then l else r)
      else e
    match e with
    | .binary .and a b => reduce true a b
    | .binary .or a b => reduce false a b
    | _ => e

/-- Whether a bound expression is a signed non-`NULL` literal: its `IS NULL` test folds. -/
def Expr.isLiteralNotNull : Expr → Bool
  | .unary .plus a | .unary .negate a => a.isLiteralNotNull
  | .literal .null => false
  | .literal _ | .hexLiteral _ => true
  | _ => false

/-- Failures of coding a hex literal: past sixteen digits no integer; negated, too wide or the
least integer neither. -/
def hexFailures (negated : Bool) (text : String) : List SqlError :=
  if negated then [.hexTooBig ("-" ++ text)]
  else if significantHexDigits text > 16 then [.hexTooBig text]
  else []

/-- Whether a function, by its upper-case name, looks up the collation of its arguments. -/
def needsCollation (name : String) : Bool :=
  name == "MIN" || name == "MAX" || name == "NULLIF"

mutual

/-- Failures of planning an expression for one value, in order; `aggregates` if its query
aggregates here. -/
def Expr.planFailures : Nat → Bool → Expr → List SqlError
  | 0, _, _ => []
  | fuel + 1, agg, e =>
    let plan := fun (x : Expr) => x.planFailures fuel agg
    -- the operand of a comparison: a row value's items, a subquery planned as a whole
    let side := fun (x : Expr) =>
      match x with
      | .vector items => items.flatMap plan
      | .scalar q => q.codeFailures fuel true
      | _ => plan x
    let compare := fun (a b : Expr) =>
      if a.width > 1 then
        if a.width != b.width then [.rowValueMisused]
        else side a ++ side b ++
          ((a.rowItems.zip b.rowItems).flatMap fun (x, y) => comparisonLookups fuel x y)
      else plan a ++ plan b ++ comparisonLookups fuel a b
    match e with
    | .literal _ | .variable _ | .column .. | .name .. | .schemaName .. | .windowValue _ => []
    | .hexLiteral text => hexFailures false text
    | .unary .negate (.hexLiteral text) => hexFailures true text
    | .isNull _ a => if a.isLiteralNotNull then [] else plan a
    | .raise => [.raiseOutsideTrigger]
    | .vector _ => [.rowValueMisused]
    | .scalar q =>
      let n := q.resultExprs.length
      if n != 1 then [.subqueryColumns n 1] else q.codeFailures fuel true
    | .exists q => q.codeFailures fuel !q.compound.isEmpty
    | .unary _ a | .cast a _ | .collate a _ | .isTruth _ _ a => plan a
    | .binary op a b => if op.isComparison then compare a b else plan a ++ plan b
    | .between _ a lo hi =>
      if a.width != lo.width || a.width != hi.width then [.rowValueMisused]
      else
        let lookups := fun (b : Expr) =>
          (a.rowItems.zip b.rowItems).flatMap fun (x, y) => comparisonLookups fuel x y
        side a ++ side lo ++ lookups lo ++ side hi ++ lookups hi
    | .inList _ a items =>
      if a.width != 1 then
        match a with
        | .scalar q => [.subqueryColumns q.resultExprs.length 1]
        | _ => [.rowValueMisused]
      else plan a ++ items.flatMap plan ++
        (if a.hasCollate fuel then collationLookup (a.collationName fuel) else [])
    | .inSelect _ a q =>
      let n := q.resultExprs.length
      if n != a.width then [.subqueryColumns n a.width]
      else q.codeFailures fuel true ++
        ((a.rowItems.zip q.resultExprs).flatMap fun (x, y) => comparisonLookups fuel x y) ++ side a
    | .case operand arms otherwise =>
      let whens := match operand with
        | some o =>
          side o ++ arms.flatMap fun (w, t) =>
            (if w.width != o.width then [.rowValueMisused] else side w ++ comparisonLookups fuel o w) ++
              plan t
        | none => arms.flatMap fun (w, t) => w.jumpFailures fuel agg ++ plan t
      whens ++ otherwise.toList.flatMap plan
    | .like _ _ subject pattern escape => (pattern :: subject :: escape.toList).flatMap plan
    | .call f args _ =>
      if callKind f args.length == .aggregate then
        if agg && aggregateHome fuel args == 0 then [] else [.aggregateInOrder f]
      else
        let lookups := if needsCollation f.toUpper then
            match args.find? fun x => (x.collationName fuel).isSome with
            | some x => collationLookup (x.collationName fuel)
            | none => []
          else []
        match f.toUpper, args with
        | "IIF", [c, a, b] => c.jumpFailures fuel agg ++ plan a ++ plan b
        | _, _ => lookups ++ args.flatMap plan
    | .over f args _ filter none =>
      if callKind f args.length == .aggregate then
        if agg && aggregateHome fuel (args ++ filter.toList) == 0 then [] else [.aggregateInOrder f]
      else (args ++ filter.toList).flatMap plan
    | .over _ args _ filter (some w) => (args ++ w.exprs ++ filter.toList).flatMap plan

/-- Failures of planning a jump's expression: `AND`, `OR` as reduced, `NOT`, `IS TRUE` through
operands, else as a value. -/
def Expr.jumpFailures : Nat → Bool → Expr → List SqlError
  | 0, _, _ => []
  | fuel + 1, agg, e =>
    match e.reducedTruth fuel with
    | .binary .and a b | .binary .or a b => a.jumpFailures fuel agg ++ b.jumpFailures fuel agg
    | .unary .not a | .isTruth _ _ a => a.jumpFailures fuel agg
    | r => r.planFailures fuel agg

/-- Failures of planning a bound query in order; `values` if its values are wanted (not
`EXISTS`). -/
def Select.codeFailures : Nat → Bool → Select → List SqlError
  | 0, _, _ => []
  | fuel + 1, values, q =>
    let results := q.resultExprs
    let aggregates := results.flatMap (·.aggregates fuel)
    let isAggregate := !aggregates.isEmpty || !q.group.isEmpty
    let order := if values then q.order else []
    let computed := if values then results else []
    let orderLookups := order.flatMap fun t =>
      if t.expr.hasCollate fuel then collationLookup (t.expr.collationName fuel) else []
    let distinctLookups := if q.distinct then
        computed.flatMap fun x => if x.hasCollate fuel then collationLookup (x.collationName fuel) else []
      else []
    if !(orderLookups ++ distinctLookups).isEmpty then orderLookups ++ distinctLookups
    else
      let window := (q.limit.toList ++ q.offset.toList).flatMap (·.planFailures fuel false)
      let filter := q.filter.toList.flatMap (·.jumpFailures fuel false)
      let aggregateCalls :=
        (results ++ q.having.toList ++ order.map (·.expr)).flatMap (·.aggregateCalls fuel)
      let calls := if isAggregate then aggregateCalls else []
      let distinctFailures := calls.flatMap fun (_, args, distinct) =>
        if distinct && args.length != 1 then [SqlError.distinctArguments] else []
      let accumulate := calls.flatMap fun (f, args, _) =>
        (if needsCollation f.toUpper then
          match args.find? fun x => (x.collationName fuel).isSome with
          | some x => collationLookup (x.collationName fuel)
          | none => []
        else []) ++ args.flatMap (·.planFailures fuel false)
      let steps := (q.source.map (·.steps)).getD []
      let source := steps.flatMap fun step =>
        (match step.item with
        | .subquery sub _ => sub.codeFailures fuel true
        | .function _ name args _ =>
          match TableFunction.ofName? name with
          | some f =>
            (if args.length > f.hidden.length then
              [SqlError.tooManyTableArguments f.name f.hidden.length] else []) ++
              args.flatMap (·.planFailures fuel false)
          | none => []
        | _ => []) ++ step.on.toList.flatMap (·.jumpFailures fuel false)
      let grouping := q.group.flatMap (·.planFailures fuel isAggregate) ++
        q.having.toList.flatMap (·.jumpFailures fuel isAggregate)
      let own := source ++ window ++ distinctFailures ++ filter ++ grouping ++ accumulate ++
        computed.flatMap (·.planFailures fuel isAggregate) ++
        order.flatMap (·.expr.planFailures fuel isAggregate)
      match q.recursion with
      | some k =>
        let last := (q.compound.getLast?.map (·.2)).getD q
        let recursive := q.compound.drop (k - 1)
        let aggregated := recursive.any fun (_, arm) =>
          !arm.group.isEmpty || arm.resultExprs.any fun x => !(x.aggregates fuel).isEmpty
        if (last.resultExprs ++ last.order.map (·.expr)).any (·.holdsWindow fuel) then
          [.recursiveWindow]
        else if aggregated then
          own ++ (q.compound.take (k - 1)).flatMap (fun (_, arm) => arm.codeFailures fuel true) ++
            [.recursiveAggregate]
        else own ++ q.compound.flatMap fun (_, arm) => arm.codeFailures fuel true
      | none => own ++ q.compound.flatMap fun (_, arm) => arm.codeFailures fuel true

/-- An expression's aggregate calls for its own query (`aggregateHome`), with arguments and
`DISTINCT`. -/
def Expr.aggregateCalls : Nat → Expr → List (String × List Expr × Bool)
  | 0, _ => []
  | fuel + 1, e =>
    let inner := fun (x : Expr) => x.aggregateCalls fuel
    match e with
    | .call f args distinct =>
      if callKind f args.length == .aggregate then
        if aggregateHome fuel args == 0 then [(f, args, distinct)] else []
      else args.flatMap inner
    | .over f args distinct filter none =>
      if callKind f args.length == .aggregate then
        if aggregateHome fuel (args ++ filter.toList) == 0 then [(f, args, distinct)] else []
      else (args ++ filter.toList).flatMap inner
    | .over _ args _ filter (some w) => (args ++ w.exprs ++ filter.toList).flatMap inner
    | .unary _ a | .isNull _ a | .cast a _ | .collate a _ | .isTruth _ _ a | .inSelect _ a _ => inner a
    | .binary _ a b => inner a ++ inner b
    | .like _ _ subject pattern escape => (pattern :: subject :: escape.toList).flatMap inner
    | .between _ a lo hi => inner a ++ inner lo ++ inner hi
    | .inList _ a items => inner a ++ items.flatMap inner
    | .vector items => items.flatMap inner
    | .case operand arms otherwise => (caseParts operand arms otherwise).flatMap inner
    | _ => []

end

/-- The failures of planning a bound query whose rows are wanted, in the order they arise. -/
def Select.planFailures (fuel : Nat) (q : Select) : List SqlError :=
  q.codeFailures fuel true

/-! ## Which filter terms are constant -/

/-- The terms of a filter joined by `AND`, in order. `fuel` bounds the depth. -/
def Expr.andTerms : Nat → Expr → List Expr
  | 0, e => [e]
  | fuel + 1, e =>
    match e with
    | .binary .and a b => a.andTerms fuel ++ b.andTerms fuel
    | _ => [e]

/-- Whether a function, by upper-case name, may give another value for the same arguments (or
reads the connection). -/
def isVolatile (name : String) : Bool :=
  ["RANDOM", "RANDOMBLOB", "CHANGES", "TOTAL_CHANGES", "LAST_INSERT_ROWID", "LOAD_EXTENSION",
   "FTS3_TOKENIZER", "FTS5", "RTREENODE", "RTREEDEPTH", "RTREECHECK", "MATCHINFO", "SNIPPET",
   "OFFSETS", "OPTIMIZE", "HIGHLIGHT", "BM25"].contains name

/-- Whether a bound expression reads no column at `depth` outward, no subquery, no varying
function. -/
def Expr.isConstantTerm : Nat → Nat → Expr → Bool
  | 0, _, _ => false
  | fuel + 1, depth, e =>
    let all := fun (items : List Expr) => items.all (·.isConstantTerm fuel depth)
    match e with
    | .literal _ | .hexLiteral _ | .variable _ | .name .. | .schemaName .. | .raise => true
    | .column d _ _ _ => d != depth
    | .scalar _ | .exists _ | .inSelect .. => false
    | .unary _ a | .isNull _ a | .cast a _ | .collate a _ | .isTruth _ _ a => all [a]
    | .binary _ a b => all [a, b]
    | .like _ _ subject pattern escape => all (pattern :: subject :: escape.toList)
    | .between _ a lo hi => all [a, lo, hi]
    | .inList _ a items => all (a :: items)
    | .vector items => all items
    | .case operand arms otherwise => all (caseParts operand arms otherwise)
    | .call f args _ => !isVolatile f.toUpper && all args
    | .over .. | .windowValue _ => false

mutual

/-- Whether a bound expression reads a column at `depth` outward, subqueries too. -/
def Expr.reads : Nat → Nat → Expr → Bool
  | 0, _, _ => false
  | fuel + 1, depth, e =>
    let any := fun (items : List Expr) => items.any (·.reads fuel depth)
    match e with
    | .column d _ _ _ => d == depth
    | .scalar q | .exists q => q.reads fuel (depth + 1)
    | .inSelect _ a q => a.reads fuel depth || q.reads fuel (depth + 1)
    | .unary _ a | .isNull _ a | .cast a _ | .collate a _ | .isTruth _ _ a => any [a]
    | .binary _ a b => any [a, b]
    | .like _ _ subject pattern escape => any (pattern :: subject :: escape.toList)
    | .between _ a lo hi => any [a, lo, hi]
    | .inList _ a items => any (a :: items)
    | .vector items | .call _ items _ => any items
    | .over _ args _ filter w => any (args ++ ((w.map (·.exprs)).getD []) ++ filter.toList)
    | .case operand arms otherwise => any (caseParts operand arms otherwise)
    | _ => false

/-- Whether a bound query reads a column at `depth` (at least one) outward; subqueries and arms
alike. -/
def Select.reads : Nat → Nat → Select → Bool
  | 0, _, _ => false
  | fuel + 1, depth, q =>
    let steps := (q.source.map (·.steps)).getD []
    let arguments := steps.flatMap fun step =>
      (match step.item with
      | .function _ _ args _ => args
      | _ => []) ++ step.on.toList
    (q.resultExprs ++ q.filter.toList ++ q.having.toList ++ q.group ++ q.order.map (·.expr) ++
      q.limit.toList ++ q.offset.toList ++ arguments).any (·.reads fuel depth) ||
    steps.any (fun step =>
      match step.item with
      | .subquery sub _ => sub.reads fuel depth
      | _ => false) ||
    q.compound.any fun (_, arm) => arm.reads fuel depth

end

/-- Whether a bound filter term holds a subquery that reads the query the term filters. -/
def Expr.readsInSubquery : Nat → Expr → Bool
  | 0, _ => false
  | fuel + 1, e =>
    let any := fun (items : List Expr) => items.any (·.readsInSubquery fuel)
    match e with
    | .scalar q | .exists q => q.reads fuel 1
    | .inSelect _ a q => a.readsInSubquery fuel || q.reads fuel 1
    | .unary _ a | .isNull _ a | .cast a _ | .collate a _ | .isTruth _ _ a => any [a]
    | .binary _ a b => any [a, b]
    | .like _ _ subject pattern escape => any (pattern :: subject :: escape.toList)
    | .between _ a lo hi => any [a, lo, hi]
    | .inList _ a items => any (a :: items)
    | .vector items | .call _ items _ => any items
    | .over _ args _ filter w => any (args ++ ((w.map (·.exprs)).getD []) ++ filter.toList)
    | .case operand arms otherwise => any (caseParts operand arms otherwise)
    | _ => false

end PackageRegistry.Sql
