import PackageRegistry.Sql.Plan.Tables
/-!
# The terms of a planned query's filter

The filter is cut into terms joined by `AND`, each read for what an index could do: constrain a
column, give a range, or split as an `OR`'s parts.
-/

namespace PackageRegistry.Sql

/-! ## Operators -/

/-- The operator bit of `IN`. -/
def opIn : Nat := 1
/-- The operator bit of `=`. -/
def opEq : Nat := 2
/-- The operator bit of `<`. -/
def opLt : Nat := 4
/-- The operator bit of `<=`. -/
def opLe : Nat := 8
/-- The operator bit of `>`. -/
def opGt : Nat := 16
/-- The operator bit of `>=`. -/
def opGe : Nat := 32
/-- The operator bit of `IS`. -/
def opIs : Nat := 128
def opIsNull : Nat := 256
/-- The bit of a disjunction. -/
def opOr : Nat := 512
/-- The bit of a conjunction inside a disjunction. -/
def opAnd : Nat := 1024
/-- The bit of an equivalence of two columns. -/
def opEquiv : Nat := 2048
/-- Every operator bit. -/
def opAll : Nat := 16383
/-- The operator bits of terms on one column. -/
def opSingle : Nat := 511

/-- Whether a set of operator bits holds one of a mask. -/
def hasOp (ops mask : Nat) : Bool := ops &&& mask != 0

def comparisonBit : BinaryOp → Nat
  | .eq => opEq
  | .lt => opLt
  | .le => opLe
  | .gt => opGt
  | .ge => opGe
  | .is => opIs
  | _ => 0

/-- A comparison with its sides swapped. -/
def swapComparison : BinaryOp → BinaryOp
  | .lt => .gt
  | .gt => .lt
  | .le => .ge
  | .ge => .le
  | op => op

/-! ## Terms -/

/-- A comparison side: a column of the query's tables, of an enclosing query, or else. -/
inductive TermSide where
  | table (table : Nat) (column : KeyColumn)
  | outer
  | other
  deriving Repr, BEq, Inhabited

/-- A planner term: expression and operator bits, constrained column and operand, other side,
tables read, origin, `LIKE` range bound, left join, affinity and collation, and for a
disjunction its parts and the tables an index serves in each. -/
structure Term where
  expr : Expr
  ops : Nat := 0
  side : TermSide := .other
  subject : Option Expr := none
  value : Option Expr := none
  items : Option (List Expr) := none
  query : Bool := false
  prereqRight : Nat := 0
  prereqAll : Nat := 0
  parent : Option Nat := none
  virtual : Bool := false
  copied : Bool := false
  likeBound : Bool := false
  joinTable : Option Nat := none
  affinity : Affinity := .none
  collation : String := "BINARY"
  clause : List Term := []
  indexable : Nat := 0
  deriving Inhabited

/-- The table of the query whose column a term constrains. -/
def Term.table? (t : Term) : Option Nat :=
  match t.side with
  | .table k _ => some k
  | _ => none

/-- The column a term constrains, with its table. -/
def Term.target? (t : Term) : Option (Nat × KeyColumn) :=
  match t.side with
  | .table k c => some (k, c)
  | _ => none

/-- The context of reading a filter: the query's tables, bound values, and fuel. -/
structure TermContext where
  tables : List PlanTable
  binds : List SqlValue
  fuel : Nat

/-- The side a bound operand is, under any `COLLATE`. -/
def TermContext.sideOf (ctx : TermContext) (e : Expr) : TermSide :=
  match e.skipCollate with
  | .column 0 i _ _ =>
    match locateColumn ctx.tables i with
    | some (k, c) => .table k c
    | none => .other
  | .column _ _ _ _ => .outer
  | _ => .other

/-- The set of tables an expression reads. -/
def TermContext.mask (ctx : TermContext) (e : Expr) : Nat := usageMask ctx.tables ctx.fuel e

/-- The set of tables a subquery reads from the query around it. -/
def TermContext.queryMask (ctx : TermContext) (q : Select) : Nat :=
  (q.columnsAt ctx.fuel 1).foldl (fun m i =>
    match locateColumn ctx.tables i with
    | some (k, _) => m ||| tableBit k
    | none => m) 0

/-- Whether an expression reads no column or subquery and calls no varying function. -/
def Expr.isPlainConstant : Nat → Expr → Bool
  | 0, _ => false
  | fuel + 1, e =>
    let all := fun (items : List Expr) => items.all (·.isPlainConstant fuel)
    match e with
    | .literal _ | .hexLiteral _ | .variable _ => true
    | .unary _ a | .isNull _ a | .cast a _ | .collate a _ | .isTruth _ _ a => all [a]
    | .binary _ a b => all [a, b]
    | .like _ _ subject pattern escape => all (pattern :: subject :: escape.toList)
    | .between _ a lo hi => all [a, lo, hi]
    | .inList _ a items => all (a :: items)
    | .vector items => all items
    | .case operand arms otherwise => all (caseParts operand arms otherwise)
    | .call f args _ => !isVolatile f.toUpper && all args
    | _ => false

/-- The 32-bit integer a literal stands for, under unary `+` and `-`. -/
def Expr.smallInteger? : Expr → Option Int
  | .literal (.integer n) => if -2147483648 ≤ n && n ≤ 2147483647 then some n else none
  | .unary .plus a => a.smallInteger?
  | .unary .negate a => a.smallInteger?.map (- ·)
  | _ => none

/-- Whether an operand may be `NULL`: a column unless `NOT NULL` or a row id off a left join's
right; a `NULL`. -/
def TermContext.canBeNull (ctx : TermContext) (e : Expr) : Bool :=
  match ctx.sideOf e with
  | .table k c =>
    match ctx.tables[k]? with
    | some t => t.outer || !t.notNull c
    | none => true
  | _ =>
    match e.skipCollate with
    | .literal .null => true
    | .literal _ | .hexLiteral _ => false
    | _ => true

/-- Whether an equality makes operands equivalent: `=` or `IS` outside a left join's constraint,
matching affinity and collation. -/
def TermContext.isEquivalence (ctx : TermContext) (op : BinaryOp) (a b : Expr)
    (joinTable : Option Nat) : Bool :=
  let fuel := ctx.fuel
  let affA := a.affinity fuel
  let affB := b.affinity fuel
  (op == .eq || op == .is) && joinTable.isNone &&
    (affA == affB || (affA.isNumeric && affB.isNumeric)) &&
    (let coll := (comparisonCollationName fuel a b).getD "BINARY"
     sameName coll "BINARY" ||
       ((a.collationName fuel).getD "BINARY").toUpper == ((b.collationName fuel).getD "BINARY").toUpper)

/-- The operands of `OR`, left to right, nested ones taken apart. -/
def Expr.orTerms : Nat → Expr → List Expr
  | 0, e => [e]
  | fuel + 1, e =>
    match e with
    | .binary .or a b => a.orTerms fuel ++ b.orTerms fuel
    | _ => [e]

/-- Whether an expression's operator is one a term on a column may have. -/
def Expr.isConstraintShape : Expr → Bool
  | .binary op _ _ => comparisonBit op != 0
  | .isNull false _ | .inList false _ _ | .inSelect false _ _ => true
  | _ => false

/-! ## Patterns -/

/-- A `LIKE`/`GLOB` pattern's unescaped prefix before the first wildcard, and whether a lone
match-all follows; none if empty, ending in 255 or an escape. -/
def patternPrefix (glob : Bool) (escape : Option UInt8) (pattern : List UInt8) :
    Option (List UInt8 × Bool) :=
  let wild : List UInt8 := if glob then [42, 63, 91] else [37, 95]
  let esc := escape.getD 0
  let rec count : Nat → List UInt8 → Nat × List UInt8 × Option UInt8
    | 0, _ => (0, [], none)
    | _, [] => (0, [], none)
    | fuel + 1, c :: rest =>
      if wild.contains c then (0, [], some c)
      else if escape.isSome && c == esc && !rest.isEmpty then
        let (n, out, stop) := count fuel (rest.drop 1)
        (n + 2, rest.take 1 ++ out, stop)
      else
        let (n, out, stop) := count fuel rest
        (n + 1, c :: out, stop)
  let (cnt, lead, stop) := count (pattern.length + 1) pattern
  let lastRaw := pattern[cnt - 1]?
  if (cnt > 1 || (cnt > 0 && pattern.head? != some esc)) && lastRaw != some 255 && !lead.isEmpty then
    let complete := stop == some (wild.headD 0) && pattern.length == cnt + 1
    some (lead, complete)
  else none

/-- Whether a text could be read as a number as a whole, or once its last byte is raised, or is
a minus sign alone. -/
def leadLooksNumeric (lead : List UInt8) : Bool :=
  (readReal lead).code > 0 || lead == [45] ||
    (readReal (lead.dropLast ++ [lead.getLastD 0 + 1])).code > 0

/-- The bounds of the texts a `LIKE` or `GLOB` prefix selects, and whether the range alone
decides the pattern. -/
def leadBounds (noCase : Bool) (lead : List UInt8) (complete : Bool) :
    List UInt8 × List UInt8 × Bool :=
  let lower := if noCase then lead.map upperAscii else lead
  let upperBase := if noCase then lead.map foldByte else lead
  let last := upperBase.getLastD 0
  let complete := complete && !(noCase && lead.getLastD 0 == 64)
  (lower, upperBase.dropLast ++ [last + 1], complete)

/-! ## Reading the terms -/

/-- Appends a term to a clause, giving its position. -/
def pushTerm (terms : Array Term) (t : Term) : Array Term × Nat := (terms.push t, terms.size)

/-- Reads `a op b` at `i`: constrains `a` when a column, and `b` when one (a copy if `a` is
too, else swapped). -/
def compareTerm (ctx : TermContext) (terms : Array Term) (i : Nat) (op : BinaryOp) (a b : Expr)
    (prereqLeft extraRight : Nat) : Array Term :=
  let t := terms.getD i default
  let fuel := ctx.fuel
  let opMask := if t.prereqRight &&& prereqLeft == 0 then opAll else opEquiv
  let affinity := comparisonAffinity (a.affinity fuel) (b.affinity fuel)
  let collation := (comparisonCollationName fuel a b).getD "BINARY"
  let leftSide := ctx.sideOf a
  let rightSide := ctx.sideOf b
  let t := { t with affinity, collation, value := some b, subject := some a }
  let t := match leftSide with
    | .other => t
    | s => { t with side := s, ops := comparisonBit op &&& opMask }
  match rightSide with
  | .other => terms.set! i t
  | rs =>
    match leftSide with
    | .other =>
      terms.set! i { t with side := rs, subject := some b, value := some a,
                            prereqRight := prereqLeft ||| extraRight,
                            ops := comparisonBit (swapComparison op) &&& opMask }
    | _ =>
      let equiv := ctx.isEquivalence op a b t.joinTable
      let t := { t with copied := true, ops := t.ops ||| (if equiv then opEquiv else 0) }
      let copy : Term :=
        { t with side := rs, subject := some b, value := some a, virtual := true,
                 copied := false, parent := some i, prereqRight := prereqLeft ||| extraRight,
                 ops := (comparisonBit (swapComparison op) + (if equiv then opEquiv else 0)) &&& opMask }
      (terms.set! i t).push copy

/-- Reads `a IN (…)` at position `i`: a list's items, or a subquery (`items` none). -/
def inTerm (ctx : TermContext) (terms : Array Term) (i : Nat) (a : Expr)
    (items : Option (List Expr)) (prereqLeft prereqRight : Nat) : Array Term :=
  let t := terms.getD i default
  let fuel := ctx.fuel
  let opMask := if prereqRight &&& prereqLeft == 0 then opAll else opEquiv
  let affinity := match t.expr with
    | .inSelect _ _ q =>
      comparisonAffinity (((q.resultExprs.head?).map (·.affinity fuel)).getD .none) (a.affinity fuel)
    | _ => a.affinity fuel
  let collation := (a.collationName fuel).getD "BINARY"
  let t := { t with affinity, collation, subject := some a, items, query := items.isNone }
  let t := match ctx.sideOf a with
    | .other => t
    | s => { t with side := s, ops := opIn &&& opMask }
  terms.set! i t

/-- The `IN` term of a disjunction of equalities: the first part's column, if every later part
on its table fixes it by a fitting value; else retried past that table. -/
def inFromDisjunction (ctx : TermContext) (parts : List Term) (tables : Nat) :
    Option (Expr × List Expr) :=
  let fuel := ctx.fuel
  let inTables := fun (u : Term) =>
    match u.table? with
    | some k => tableBit k &&& tables != 0
    | none => false
  let attempt := fun (skip : Option Nat) =>
    match parts.findIdx? (fun u => inTables u && (skip.isNone || u.table? != skip)) with
    | none => none
    | some s =>
      let rest := parts.drop s
      match (parts.getD s default).target? with
      | none => none
      | some (table, column) =>
        let fits := rest.all fun u =>
          match u.target? with
          | some (k, c) =>
            k != table || (c == column &&
              (let affRight := (u.value.map (·.affinity fuel)).getD .none
               let affLeft := (u.subject.map (·.affinity fuel)).getD .none
               affRight == .none || affRight == affLeft))
          | none => true
        if !fits then none
        else
          let chosen := rest.filter fun u => u.table? == some table
          (chosen.getLast?.bind (·.subject)).map fun subject => (subject, chosen.filterMap (·.value))
  match attempt none with
  | some r => some r
  | none =>
    match parts.find? inTables with
    | some u => attempt u.table?
    | none => none

mutual

/-- Reads a clause joined by `AND` (`isAnd`) or `OR`: each operand a term, last to first, the
terms they give after. -/
def analyzeClause (ctx : TermContext) : Nat → Bool → List (Expr × Option Nat) → Array Term
  | 0, _, base => (base.map fun (e, j) => ({ expr := e, joinTable := j } : Term)).toArray
  | fuel + 1, isAnd, base =>
    let terms := (base.map fun (e, j) => ({ expr := e, joinTable := j } : Term)).toArray
    (List.range base.length).reverse.foldl (fun acc i => analyzeTerm ctx fuel isAnd acc i) terms

/-- Reads the term at position `i` of a clause, adding the terms made from it. -/
def analyzeTerm (ctx : TermContext) : Nat → Bool → Array Term → Nat → Array Term
  | 0, _, terms, _ => terms
  | fuel + 1, isAnd, terms, i =>
    let t := terms.getD i default
    let e := t.expr
    let left? : Option Expr := match e with
      | .binary op a _ => if comparisonBit op != 0 then some a else none
      | .isNull false a | .inList false a _ | .inSelect false a _ => some a
      | _ => none
    let prereqLeft := (left?.map ctx.mask).getD 0
    let prereqRight := match e with
      | .binary op _ b => if comparisonBit op != 0 then ctx.mask b else 0
      | .inList false _ items => items.foldl (fun m x => m ||| ctx.mask x) 0
      | .inSelect false _ q => ctx.queryMask q
      | _ => 0
    let prereqAll := ctx.mask e
    let (prereqAll, extraRight) := match t.joinTable with
      | some x => (prereqAll ||| tableBit x, tableBit x - 1)
      | none => (prereqAll, 0)
    let t := { t with prereqRight, prereqAll, ops := 0, side := .other }
    let terms := terms.set! i t
    let terms := match e with
      | .binary op a b =>
        if comparisonBit op != 0 then compareTerm ctx terms i op a b prereqLeft extraRight
        else if op == .or && isAnd then orTerm ctx fuel terms i
        else terms
      | .isNull false a =>
        let opMask := if prereqRight &&& prereqLeft == 0 then opAll else opEquiv
        if t.joinTable.isNone && !ctx.canBeNull a then
          terms.modify i fun t => { t with prereqAll := 0, ops := 0 }
        else
          let ops := match ctx.sideOf a with
            | .other => 0
            | _ => opIsNull &&& opMask
          terms.modify i fun t => { t with side := ctx.sideOf a, subject := some a, ops }
      | .inList false a [item] =>
        if item.isPlainConstant ctx.fuel then
          compareTerm ctx terms i .eq a (.unary .plus item) prereqLeft extraRight
        else inTerm ctx terms i a (some [item]) prereqLeft prereqRight
      | .inList false a items =>
        if items.isEmpty then terms else inTerm ctx terms i a (some items) prereqLeft prereqRight
      | .inSelect false a _ => inTerm ctx terms i a none prereqLeft prereqRight
      | .between false a lo hi =>
        if isAnd then
          [(BinaryOp.ge, lo), (BinaryOp.le, hi)].foldl (fun acc (op, bound) =>
            let (acc, k) := pushTerm acc
              { expr := .binary op a bound, virtual := true, parent := some i,
                joinTable := t.joinTable }
            analyzeTerm ctx fuel isAnd acc k) terms
        else terms
      | _ => terms
    let terms := if isAnd then likeTerms ctx fuel terms i else terms
    terms.modify i fun t => { t with prereqRight := t.prereqRight ||| extraRight }

/-- Reads a disjunction: its parts, the tables an index serves in every part, and the `IN` term
for one-column equalities. -/
def orTerm (ctx : TermContext) : Nat → Array Term → Nat → Array Term
  | 0, terms, _ => terms
  | fuel + 1, terms, i =>
    let t := terms.getD i default
    let parts := (t.expr.orTerms ctx.fuel).map (·, t.joinTable)
    let clause := analyzeClause ctx fuel false parts
    let all := tableBit ctx.tables.length - 1
    let (clause, indexable, chngToIn) := (List.range clause.size).foldl
      (fun (acc : Array Term × Nat × Nat) k =>
        let (clause, indexable, chng) := acc
        if indexable == 0 then acc
        else
          let u := clause.getD k default
          if u.ops &&& opSingle == 0 then
            let conj := (analyzeClause ctx fuel true ((u.expr.andTerms ctx.fuel).map
              (·, u.joinTable))).toList
            let b := conj.foldl (fun m c =>
              if c.expr.isConstraintShape then
                match c.table? with
                | some k => m ||| tableBit k
                | none => m
              else m) 0
            (clause.set! k { u with ops := opAnd, side := .other, clause := conj },
              indexable &&& b, 0)
          else if u.copied then acc
          else
            let bit := fun (x : Term) => (x.table?.map tableBit).getD 0
            let b := bit u ||| (if u.virtual then
              (u.parent.map fun p => bit (clause.getD p default)).getD 0 else 0)
            (clause, indexable &&& b, if hasOp u.ops opEq then chng &&& b else 0))
      (clause, all, all)
    let terms := terms.set! i { t with ops := opOr, side := .other, clause := clause.toList,
                                       indexable }
    if chngToIn == 0 then terms else
    match inFromDisjunction ctx clause.toList chngToIn with
    | some (subject, values) =>
      let (terms, k) := pushTerm terms
        { expr := .inList false subject values, virtual := true, parent := some i,
          joinTable := t.joinTable }
      analyzeTerm ctx fuel true terms k
    | none => terms

/-- Adds the range terms of a `LIKE` or `GLOB` at position `i` whose pattern starts with text. -/
def likeTerms (ctx : TermContext) : Nat → Array Term → Nat → Array Term
  | 0, terms, _ => terms
  | fuel + 1, terms, i =>
    let t := terms.getD i default
    match t.expr with
    | .like false op subject pattern escape =>
      let glob := op.toUpper == "GLOB"
      let isLike := op.toUpper == "LIKE"
      let escapeByte : Option (Option UInt8) := match escape with
        | none => some none
        | some (.literal (.text [b])) =>
          if (isLike && (b == 37 || b == 95)) then none else some (some b)
        | some _ => none
      let text? : Option (List UInt8) := match pattern.skipCollate with
        | .literal (.text bs) => some bs
        | .variable k =>
          match ctx.binds[k - 1]? with
          | some (.text bs) => some bs
          | _ => none
        | _ => none
      match escapeByte, text? with
      | some esc, some bs =>
        if !(glob || isLike) || (glob && esc.isSome) then terms else
        match patternPrefix glob esc bs with
        | none => terms
        | some (lead, complete) =>
          let textColumn := match subject with
            | .column 0 _ aff _ => aff == .text
            | _ => false
          if !textColumn && leadLooksNumeric lead then terms else
          let (lower, upper, complete) := leadBounds isLike lead complete
          let coll := if isLike then "NOCASE" else "BINARY"
          let bound := fun (op : BinaryOp) (bs : List UInt8) (acc : Array Term) =>
            let (acc, k) := pushTerm acc
              { expr := .binary op (.collate subject coll) (.literal (.text bs)), virtual := true,
                likeBound := true, parent := if complete then some i else none,
                joinTable := t.joinTable }
            analyzeTerm ctx fuel true acc k
          bound .lt upper (bound .ge lower terms)
      | _, _ => terms
    | _ => terms

end

end PackageRegistry.Sql
