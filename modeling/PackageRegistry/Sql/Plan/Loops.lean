import PackageRegistry.Sql.Plan.Terms
/-!
# The ways of reading one table

For each table the planner lists *loops* with their costs, rows per run and prerequisite tables:
scans, index lookups, automatic indexes and disjunctions. Of two loops alike, one no cheaper in
every measure is dropped.
-/

namespace PackageRegistry.Sql

/-! ## Terms and clauses -/

/-- A term by clause and position: the filter's in `[]`, disjunct `i` of clause `c` in `c ++ [i]`,
and so on down. -/
structure TermRef where
  clause : List Nat
  position : Nat
  deriving BEq, Repr, Inhabited

/-- A clause of terms the planner searches: name, positioned terms, how many were written, and
where it starts in its parent. -/
structure Clause where
  id : List Nat
  entries : List (Nat × Term)
  written : Nat
  base : Nat := 0

/-- The clause of a list of terms, each at its own position. -/
def Clause.ofTerms (id : List Nat) (terms : List Term) (written : Nat) : Clause :=
  { id, entries := terms.zipIdx.map fun (t, i) => (i, t), written }

/-- The term a reference names among clauses, if one of them holds it. -/
def findTermIn (chain : List Clause) (r : TermRef) : Option Term :=
  (chain.find? (·.id == r.clause)).bind fun c =>
    (c.entries.find? (·.1 == r.position)).map (·.2)

/-- A term of the wanted row order: expression, direction, and whether `NULL` sorts last. -/
structure PlanOrder where
  expr : Expr
  descending : Bool := false
  bigNull : Bool := false

/-! ## Loops -/

/-- A way of reading one table: the table, tables needed first, logarithmic set-up and run
costs and rows, order index kept, terms used, index and fixed columns, how it reads, the kinds
of terms used, and whether it yields at most one row. -/
structure Loop where
  table : Nat
  prereq : Nat := 0
  setup : Int := 0
  run : Int := 0
  out : Int := 0
  sortIdx : Nat := 0
  terms : List (TermRef × Term) := []
  index : Option PlanIndex := none
  eqCount : Nat := 0
  rowid : Bool := false
  indexed : Bool := false
  indexOnly : Bool := false
  automatic : Bool := false
  disjunction : Bool := false
  columnEq : Bool := false
  columnIn : Bool := false
  columnNull : Bool := false
  columnRange : Bool := false
  lower : Bool := false
  upper : Bool := false
  oneRow : Bool := false
  deriving Inhabited

/-- The bit of a loop's table. -/
def Loop.self (l : Loop) : Nat := tableBit l.table

/-- A set of tables without those of another. -/
def withoutBits (x m : Nat) : Nat := x - (x &&& m)

/-- A disjunct's costs: tables needed first, cost of a run, rows yielded. -/
structure OrCost where
  prereq : Nat
  run : Int
  out : Int
  deriving Inhabited

/-- Adds costs to a set of at most three, replacing or dropped by one no costlier needing no
more tables; when full, replaces the cheapest if cheaper. -/
def orInsert (set : List OrCost) (c : OrCost) : List OrCost :=
  let merge := fun (p : OrCost) => ({ prereq := c.prereq, run := c.run, out := min p.out c.out } : OrCost)
  let better := fun (p : OrCost) => c.run ≤ p.run && maskWithin c.prereq p.prereq
  let worse := fun (p : OrCost) => p.run ≤ c.run && maskWithin p.prereq c.prereq
  match set.findIdx? (fun p => better p || worse p) with
  | some i =>
    let p := set.getD i default
    if better p then set.set i (merge p) else set
  | none =>
    if set.length < 3 then set ++ [c]
    else
      let cheapest := set.zipIdx.foldl (fun (best : Nat × Int) (p, k) =>
        if best.2 > p.run then (k, p.run) else best) (0, (set.getD 0 default).run)
      let p := set.getD cheapest.1 default
      if p.run ≤ c.run then set else set.set cheapest.1 (merge p)

/-- Whether `x` uses a proper subset of `y`'s terms, costs no more in both measures, and reads
its index alone only if `y` does. -/
def cheaperSubset (x y : Loop) : Bool :=
  x.terms.length < y.terms.length && !(x.run > y.run && x.out > y.out) &&
    x.terms.all (fun (r, _) => y.terms.any (·.1 == r)) && !(x.indexOnly && !y.indexOnly)

/-- An index loop's cost raised to one using a subset of its terms, lowered to one using a
superset. -/
def adjustCost (loops : List Loop) (t : Loop) : Loop :=
  if !t.indexed then t
  else loops.foldl (fun t p =>
    if p.table != t.table || !p.indexed then t
    else if cheaperSubset p t then { t with run := min p.run t.run, out := min (p.out - 1) t.out }
    else if cheaperSubset t p then { t with run := max p.run t.run, out := max (p.out + 1) t.out }
    else t) t

/-- A new loop's fate: dropped, put in place of the one at a position, or added at the end. -/
inductive Placement where
  | discard
  | replace (i : Nat)
  | append

/-- Where a new loop goes: by the first loop of the same table and order it replaces or is made
useless by; an index equality lookup replaces an automatic index. -/
def findPlacement (loops : List Loop) (t : Loop) : Placement :=
  let overAuto := fun (p : Loop) => p.automatic && t.indexed && t.columnEq && maskWithin t.prereq p.prereq
  let useless := fun (p : Loop) => maskWithin p.prereq t.prereq && p.setup ≤ t.setup &&
    p.run ≤ t.run && p.out ≤ t.out
  let replaces := fun (p : Loop) => maskWithin t.prereq p.prereq && p.run ≥ t.run && p.out ≥ t.out
  match loops.zipIdx.find? (fun (p, _) => p.table == t.table && p.sortIdx == t.sortIdx &&
      (overAuto p || useless p || replaces p)) with
  | none => .append
  | some (p, i) => if overAuto p then .replace i else if useless p then .discard else .replace i

/-- Loops after a new one replaced another: later ones it replaces dropped, until one makes it
useless. -/
def dropSupplanted (t : Loop) : Nat → List Loop → List Loop
  | 0, rest => rest
  | fuel + 1, rest =>
    match findPlacement rest t with
    | .replace j => dropSupplanted t fuel (rest.eraseIdx j)
    | _ => rest

/-- The loops with a new one placed among them. -/
def placeLoop (loops : List Loop) (t : Loop) : List Loop :=
  match findPlacement loops t with
  | .discard => loops
  | .append => loops ++ [t]
  | .replace i => loops.take i ++ t :: dropSupplanted t loops.length (loops.drop (i + 1))

/-- The state of listing loops: loops so far, a disjunct's ways' costs, and the last order
index kept. -/
structure Builder where
  loops : List Loop := []
  costs : Option (List OrCost) := none
  carry : Nat := 0

/-- Adds a loop, costed and placed among the others; while weighing a disjunct, its costs join
the part's. -/
def Builder.insert (b : Builder) (t : Loop) : Builder :=
  let t := adjustCost b.loops t
  match b.costs with
  | some set =>
    if t.terms.isEmpty then b else { b with costs := some (orInsert set ⟨t.prereq, t.run, t.out⟩) }
  | none => { b with loops := placeLoop b.loops t }

/-- What loops come from: the terms, their clause, the wanted order, and whether one disjunct is
read alone. -/
structure LoopContext where
  terms : TermContext
  main : Clause
  order : List PlanOrder := []
  branch : Bool := false

/-! ## Finding terms -/

/-- Whether a comparison's affinity suits an index column's: any under none or blob, else the
same. -/
def affinityFits (term column : Affinity) : Bool :=
  match term with
  | .none | .blob => true
  | .text => column == .text
  | _ => column.isNumeric

/-- The table and column an operand is, under any `COLLATE`. -/
def TermContext.columnAt? (ctx : TermContext) (e : Expr) : Option (Nat × KeyColumn) :=
  match e.skipCollate with
  | .column 0 i _ _ => locateColumn ctx.tables i
  | _ => none

/-- The terms on a column with an operator in `opMask`, then on columns equal to it by `a = b`
terms, comparing under an index column's affinity and collation. `c = c` serves nothing. -/
def scanColumn (ctx : TermContext) (chain : List Clause) (table : Nat) (column : KeyColumn)
    (opMask : Nat) (check : Option (Affinity × String)) : List (TermRef × Term) :=
  let first := (table, column)
  let visit := fun (k : Nat) (cur : Nat × KeyColumn)
      (acc : List (Nat × KeyColumn) × List (TermRef × Term)) (cl : Clause) =>
    cl.entries.foldl (fun (acc : List (Nat × KeyColumn) × List (TermRef × Term)) (pos, u) =>
      let (equiv, found) := acc
      if u.side != .table cur.1 cur.2 || (k > 0 && u.joinTable.isSome) then acc
      else
        let equiv :=
          if hasOp u.ops opEquiv && equiv.length < 11 then
            match u.value.bind ctx.columnAt? with
            | some c => if equiv.contains c then equiv else equiv ++ [c]
            | none => equiv
          else equiv
        let fits := match check with
          | some (aff, coll) =>
            hasOp u.ops opIsNull || (affinityFits u.affinity aff && sameName u.collation coll)
          | none => true
        let selfEq := hasOp u.ops (opEq ||| opIs) && (match u.value with
          | some (.column 0 i _ _) => locateColumn ctx.tables i == some first
          | _ => false)
        if hasOp u.ops opMask && fits && !selfEq then (equiv, found ++ [(⟨cl.id, pos⟩, u)])
        else (equiv, found)) acc
  let rec go : Nat → Nat → List (Nat × KeyColumn) × List (TermRef × Term) → List (TermRef × Term)
    | 0, _, (_, found) => found
    | fuel + 1, k, (equiv, found) =>
      match equiv[k]? with
      | none => found
      | some cur => go fuel (k + 1) (chain.foldl (visit k cur) (equiv, found))
  go 12 0 ([first], [])

/-- Whether an expression can be tested on an index alone: a column it lacks says no, a
subquery or the end yes. -/
def Expr.coverWalk (covers : Nat → Bool) : Nat → Expr → Option Bool
  | 0, _ => none
  | fuel + 1, e =>
    let seq := fun (items : List Expr) => items.foldl (fun r x =>
      match r with
      | some v => some v
      | none => x.coverWalk covers fuel) none
    match e with
    | .column 0 i _ _ => if covers i then none else some false
    | .scalar _ | .exists _ => some true
    | .inSelect _ a _ =>
      match a.coverWalk covers fuel with
      | some v => some v
      | none => some true
    | .unary _ a | .isNull _ a | .cast a _ | .collate a _ | .isTruth _ _ a => seq [a]
    | .binary _ a b => seq [a, b]
    | .like _ _ subject pattern escape => seq (pattern :: subject :: escape.toList)
    | .between _ a lo hi => seq [a, lo, hi]
    | .inList _ a items => seq (a :: items)
    | .vector items | .call _ items _ => seq items
    | .over _ args _ filter _ => seq (args ++ filter.toList)
    | .case operand arms otherwise => seq (caseParts operand arms otherwise)
    | _ => none

/-! ## Estimates -/

/-- A loop's rows lowered by written terms it could test but does not use. -/
def outputAdjust (inner : Clause) (l : Loop) (nRow : Int) : Loop :=
  let allowed := l.prereq ||| l.self
  let (out, reduce) := (inner.entries.take inner.written).foldl (fun (acc : Int × Int) (pos, u) =>
    let (out, reduce) := acc
    if !maskWithin u.prereqAll allowed || u.prereqAll &&& l.self == 0 || u.virtual then acc
    else
      let ref : TermRef := ⟨inner.id, pos⟩
      let used := l.terms.any fun (r, x) => r == ref || x.parent == some (pos - inner.base)
      if used then acc
      else
        let k : Int :=
          if hasOp u.ops (opEq ||| opIs) then
            match u.value.bind (·.smallInteger?) with
            | some v => if -1 ≤ v && v ≤ 1 then 10 else 20
            | none => 20
          else 0
        (out - 1, max reduce k)) (l.out, 0)
  { l with out := if out > nRow - reduce then nRow - reduce else out }

/-- Rows a range leaves of `out`: a quarter per bound, a sixteenth for both, at least two, one
less per bound. -/
def rangeRows (out : Int) (lower upper : Bool) : Int :=
  let scaled := out - (if lower then 20 else 0) - (if upper then 20 else 0) -
    (if lower && upper then 20 else 0)
  let bounded := out - (if lower then 1 else 0) - (if upper then 1 else 0)
  let scaled := if scaled < 10 then 10 else scaled
  if scaled < bounded then scaled else bounded

/-- Whether a term drives an automatic index: `=` or `IS` on a non-row-id column, affinity
suiting. -/
def drivesIndex (t : PlanTable) (u : Term) : Bool :=
  u.table? == some t.position && hasOp u.ops (opEq ||| opIs) &&
    (!t.outer || u.joinTable == some t.position) &&
    (match u.target? with
     | some (_, .column c) => affinityFits u.affinity (t.affinityOf (.column c))
     | _ => false)

/-! ## Listing loops -/

/-- Adds an index's lookups from a loop fixing its first columns: each term on the next column
gives a loop; one without an upper bound goes on. -/
def addIndex (lc : LoopContext) (t : PlanTable) (probe : PlanIndex) (chain : List Clause) :
    Nat → Builder → Loop → Int → Builder
  | 0, b, _, _ => b
  | fuel + 1, b, saved, inMul =>
    let self := tableBit t.position
    let inner := chain.headD lc.main
    let opMask := if saved.lower then opLt ||| opLe
      else opEq ||| opIn ||| opGt ||| opGe ||| opLt ||| opLe ||| opIsNull ||| opIs
    let j := saved.eqCount
    let column := probe.columns.getD j .rowid
    let check := if probe.isRowid then none else
      match column with
      | .column c => some (t.affinityOf (.column c), t.collationOf (.column c))
      | .rowid => none
    let found := scanColumn lc.terms chain t.position column opMask check
    found.foldl (fun b (ref, u) =>
      if (u.ops == opIsNull && t.notNull column) || u.prereqRight &&& self != 0 ||
          (u.likeBound && u.ops == opLt) || (t.outer && u.joinTable != some t.position) then b
      else
        let new : Loop := { saved with terms := saved.terms ++ [(ref, u)],
                                       prereq := withoutBits (saved.prereq ||| u.prereqRight) self }
        let nIn : Int :=
          if hasOp u.ops opIn then
            if u.query then 46 else logEst (u.items.getD []).length
          else 0
        let new :=
          if hasOp u.ops opIn then { new with columnIn := true }
          else if hasOp u.ops (opEq ||| opIs) then
            let new := { new with columnEq := true }
            if column == .rowid || (inMul == 0 && j + 1 == probe.keyCount) then
              if column == .rowid || probe.uniqueNotNull ||
                  (probe.keyCount == 1 && probe.unique && u.ops == opEq) then
                { new with oneRow := true }
              else new
            else new
          else if hasOp u.ops opIsNull then { new with columnNull := true }
          else if hasOp u.ops (opGt ||| opGe) then
            let new := { new with columnRange := true, lower := true }
            if u.likeBound then
              let topRef : TermRef := ⟨ref.clause, ref.position + 1⟩
              { new with terms := new.terms ++ [(topRef, (findTermIn chain topRef).getD default)],
                         upper := true }
            else new
          else { new with columnRange := true, upper := true }
        let isRange := new.columnRange
        let out :=
          if isRange then
            let lowerHere := hasOp u.ops (opGt ||| opGe)
            let hasLower := lowerHere || saved.lower
            let hasUpper := !lowerHere || u.likeBound
            rangeRows saved.out hasLower hasUpper
          else
            saved.out + (probe.rowEst.getD (j + 1) 0 - probe.rowEst.getD j 0) +
              (if hasOp u.ops opIsNull then 10 else 0)
        let new := if isRange then { new with out } else { new with out, eqCount := j + 1 }
        let costIdx := if probe.isRowid then out + 16 else out + 1 + (15 * probe.size) / t.rowSize
        let run := logEstAdd 43 costIdx
        let run := if new.indexOnly || new.rowid then run else logEstAdd run (out + 16)
        let tmpl := outputAdjust inner { new with run := run + inMul + nIn, out := out + inMul + nIn } 200
        let b := b.insert tmpl
        let next := { new with out := if isRange then saved.out else out, run }
        if !next.upper && next.eqCount < probe.columns.length &&
            (next.eqCount < probe.keyCount || !probe.primaryKey) then
          addIndex lc t probe chain fuel b next (inMul + nIn)
        else b) b

/-- The lookup cost of scanning an index lacking a column read: three per row, less per leading
term it can test. -/
def lookupCost (lc : LoopContext) (t : PlanTable) (probe : PlanIndex) : Int :=
  let covers := fun (i : Nat) =>
    match locateColumn lc.terms.tables i with
    | some (k, c) => k != t.position || probe.columns.contains c
    | none => true
  (lc.main.entries.foldl (fun (acc : Int × Bool) (_, u) =>
    let (n, going) := acc
    if !going then acc
    else if !((u.expr.coverWalk covers lc.terms.fuel).getD true) then (n, false)
    else (n - 1 - (if hasOp u.ops (opEq ||| opIs) then 19 else 0), true)) (216, true)).1

/-- Whether an index might give the wanted order: an order term is the row id or a key
column. -/
def helpsOrder (lc : LoopContext) (t : PlanTable) (probe : PlanIndex) : Bool :=
  lc.order.any fun o =>
    match lc.terms.columnAt? o.expr with
    | some (k, c) => k == t.position && (c == .rowid || (probe.columns.take probe.keyCount).contains c)
    | none => false

/-- Adds a table's loops: automatic indexes, then for its tree and each index a scan and
lookups. -/
def addTable (lc : LoopContext) (b : Builder) (t : PlanTable) (mPrereq : Nat)
    (chain : List Clause) : Builder :=
  let self := tableBit t.position
  let inner := chain.headD lc.main
  let b :=
    if b.costs.isNone && !lc.branch && t.hint == .free then
      inner.entries.foldl (fun b (pos, u) =>
        if u.prereqRight &&& self != 0 || !drivesIndex t u then b
        else b.insert { table := t.position, prereq := mPrereq ||| u.prereqRight, setup := 271,
                        run := 53, out := 43, sortIdx := b.carry, terms := [(⟨inner.id, pos⟩, u)],
                        eqCount := 1, automatic := true }) b
    else b
  let named := match t.hint with
    | .indexedBy _ => true
    | _ => false
  let probes := match t.hint with
    | .indexedBy name => (t.indexes.filter fun (i : PlanIndex) => sameName i.name name).take 1
    | .notIndexed => [t.rowidTree]
    | .free => t.rowidTree :: t.indexes
  let (b, _) := probes.foldl (fun (acc : Builder × Nat) probe =>
    let (b, counter) := acc
    let helpful := helpsOrder lc t probe
    let base : Loop := { table := t.position, prereq := mPrereq, out := 200, index := some probe }
    let (b, base) :=
      if probe.isRowid then
        let base := { base with rowid := true, sortIdx := if helpful then counter else 0 }
        (b.insert (outputAdjust inner { base with run := 216 } 200), base)
      else
        let covering := t.used.all fun j => (probe.columns.take probe.keyCount).contains (.column j)
        let base := { base with indexed := true, indexOnly := covering }
        if helpful || named || (covering && probe.size < t.rowSize) then
          let base := { base with sortIdx := if helpful then counter else 0 }
          let run := 200 + 1 + (15 * probe.size) / t.rowSize
          let run := if covering then run else logEstAdd run (lookupCost lc t probe)
          (b.insert (outputAdjust inner { base with run } 200), base)
        else (b, base)
    let b := addIndex lc t probe chain (probe.columns.length + 1) b base 0
    ({ b with carry := base.sortIdx }, counter + 1)) (b, 1)
  b

/-- Adds loops reading a table once per disjunct when every part has a lookup, costing the sum
of the parts. -/
def addDisjunction (lc : LoopContext) (t : PlanTable) (mPrereq : Nat) :
    Nat → Builder → List Clause → Builder
  | 0, b, _ => b
  | fuel + 1, b, chain =>
    let self := tableBit t.position
    let inner := chain.headD lc.main
    inner.entries.foldl (fun b (pos, u) =>
      if !hasOp u.ops opOr || u.indexable &&& self == 0 then b
      else
        let orId := inner.id ++ [pos]
        let step := fun (acc : Option (List OrCost) × Bool × Builder) (sq : Term × Nat) =>
          let (sum, stop, b) := acc
          let (s, q) := sq
          if stop then acc
          else
            let sub? : Option Clause :=
              if hasOp s.ops opAnd then
                some (Clause.ofTerms (orId ++ [q]) s.clause (s.expr.andTerms lc.terms.fuel).length)
              else if s.table? == some t.position then
                some { id := orId, entries := [(q, s)], written := 1, base := q }
              else none
            match sub? with
            | none => acc
            | some sub =>
              let subChain := sub :: chain
              let sb : Builder := { b with costs := some [] }
              let sb := addTable lc sb t mPrereq subChain
              let sb := addDisjunction lc t mPrereq fuel sb subChain
              let cur := sb.costs.getD []
              let b := { b with carry := sb.carry }
              if cur.isEmpty then (some [], true, b)
              else
                match sum with
                | none => (some cur, false, b)
                | some prev =>
                  (some (prev.foldl (fun acc p => cur.foldl (fun acc c =>
                    orInsert acc ⟨p.prereq ||| c.prereq, logEstAdd p.run c.run,
                      logEstAdd p.out c.out⟩) acc) []), false, b)
        let (sum, _, b) := u.clause.zipIdx.foldl step (none, false, b)
        let b := { b with carry := 0 }
        (sum.getD []).foldl (fun b c =>
          b.insert { table := t.position, prereq := c.prereq, run := c.run + 1, out := c.out,
                     terms := [(⟨inner.id, pos⟩, u)], disjunction := true }) b) b

/-- Every table's loops in `FROM` order: a table after a left or `CROSS` join needs all before
it read first. -/
def buildLoops (lc : LoopContext) (tables : List PlanTable) : List Loop :=
  let hasOr := lc.main.entries.any fun (_, u) => hasOp u.ops opOr && u.indexable != 0
  let (b, _, _) := tables.foldl (fun (acc : Builder × Nat × Nat) t =>
    let (b, mPrereq, prior) := acc
    let mPrereq := if t.fixed then mPrereq ||| prior else 0
    let b := addTable lc b t mPrereq [lc.main]
    let b := if hasOr then addDisjunction lc t mPrereq lc.terms.fuel b [lc.main] else b
    (b, mPrereq, prior ||| tableBit t.position)) ({}, 0, 0)
  b.loops

end PackageRegistry.Sql
