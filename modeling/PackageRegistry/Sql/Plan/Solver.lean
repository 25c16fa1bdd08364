import PackageRegistry.Sql.Plan.Loops
/-!
# Choosing the order of the loops

The planner picks one loop per table and the tables' order by cost, extending the cheapest
partial orders one table at a time; an order not giving the wanted row order pays for sorting.
-/

namespace PackageRegistry.Sql

/-! ## Orders of loops -/

/-- What an order is checked for: groups, distinct rows, only the last loop, and whether `IN`
fixes a column. -/
structure OrderFlags where
  group : Bool := false
  distinct : Bool := false
  lastOnly : Bool := false
  withIn : Bool := false

/-- An order check's outcome: leading terms given (`-1` unknown), loops backward, `NULL`s-last
tables. -/
structure OrderResult where
  ordered : Int
  rev : Nat
  bigNull : List Nat

/-- Checking an order along loops: terms done, distinctness, tables, loops backward, `NULL`s-last
tables. -/
structure OrderState where
  sat : Nat := 0
  distinct : Bool := true
  distinctMask : Nat := 0
  ready : Nat := 0
  rev : Nat := 0
  bigNull : List Nat := []

def PlanOrder.collation (o : PlanOrder) (fuel : Nat) : String :=
  (o.expr.collationName fuel).getD "BINARY"

/-- The term fixing a column once `ready` is read, preferring an equality or `IS` reading no
table. -/
def fixingTerm (ctx : TermContext) (main : Clause) (table : Nat) (column : KeyColumn)
    (ready opMask : Nat) : Option (TermRef × Term) :=
  let usable := (scanColumn ctx [main] table column opMask none).filter fun (_, u) =>
    maskWithin u.prereqRight ready
  match usable.find? (fun (_, u) => u.prereqRight == 0 && hasOp u.ops (opEq ||| opIs)) with
  | some r => some r
  | none => usable.head?

def orderBit (i : Nat) : Nat := Nat.pow 2 i

/-- The terms of the order a loop's equalities fix, given the tables read before it. -/
def fixedTerms (ctx : TermContext) (main : Clause) (order : List PlanOrder) (eqMask : Nat)
    (l : Loop) (ready sat : Nat) : Nat :=
  order.zipIdx.foldl (fun sat (o, i) =>
    if sat &&& orderBit i != 0 then sat
    else
      match ctx.columnAt? o.expr with
      | some (k, c) =>
        if k != l.table then sat
        else
          match fixingTerm ctx main k c ready eqMask with
          | none => sat
          | some (ref, u) =>
            if u.ops == opIn && !(l.terms.any (·.1 == ref)) then sat
            else if hasOp u.ops (opEq ||| opIs) && c != .rowid &&
                !sameName (o.collation ctx.fuel) u.collation then sat
            else sat ||| orderBit i
      | none => sat) sat

/-- The state after a loop's index columns from `j`: a column fixed by an equality is skipped,
any other must be the order's next term, else the walk ends. Also whether rows are distinct. -/
def indexColumns (ctx : TermContext) (t : Option PlanTable) (order : List PlanOrder)
    (flags : OrderFlags) (eqMask : Nat) (l : Loop) (iLoop : Nat) (columns : List KeyColumn)
    (keyCount : Nat) : Nat → Nat → OrderState × Bool × Option Bool → OrderState × Bool
  | 0, _, (st, rowidMatched, _) => (st, rowidMatched)
  | fuel + 1, j, (st, rowidMatched, revSet) =>
    match columns[j]? with
    | none => (st, rowidMatched)
    | some column =>
      let eqOp := ((l.terms[j]?).map (·.2.ops)).getD 0
      if j < l.eqCount && hasOp eqOp eqMask then
        let st := if hasOp eqOp (opIsNull ||| opIs) then { st with distinct := false } else st
        indexColumns ctx t order flags eqMask l iLoop columns keyCount fuel (j + 1)
          (st, rowidMatched, revSet)
      else
        let nullable := match column, t with
          | .column c, some tt => !tt.notNull (.column c)
          | _, _ => false
        let st := if st.distinct && j ≥ l.eqCount && nullable then { st with distinct := false } else st
        let indexColl := (t.map fun tt => tt.collationOf column).getD "BINARY"
        let anyTerm := flags.group || flags.distinct
        let candidates := order.zipIdx.filter fun (_, i) => st.sat &&& orderBit i == 0
        let candidates := if anyTerm then candidates else candidates.take 1
        let hit := candidates.find? fun (o, _) =>
          match ctx.columnAt? o.expr with
          | some (k, c) => k == l.table && c == column &&
              (column == .rowid || sameName (o.collation ctx.fuel) indexColl)
          | none => false
        let (hit, st, revSet) := match hit with
          | some (o, i) =>
            if flags.group then (some (o, i), st, revSet)
            else
              match revSet with
              | some rev => if rev != o.descending then (none, st, revSet) else (some (o, i), st, revSet)
              | none =>
                let st := if o.descending then { st with rev := st.rev ||| orderBit iLoop } else st
                (some (o, i), st, some o.descending)
          | none => (none, st, revSet)
        let (hit, st) := match hit with
          | some (o, i) =>
            if o.bigNull then
              if j == l.eqCount then (some i, { st with bigNull := st.bigNull ++ [l.table] })
              else (none, st)
            else (some i, st)
          | none => (none, st)
        match hit with
        | some i =>
          indexColumns ctx t order flags eqMask l iLoop columns keyCount fuel (j + 1)
            ({ st with sat := st.sat ||| orderBit i }, rowidMatched || column == .rowid, revSet)
        | none =>
          let st := if j == 0 || j < keyCount then { st with distinct := false } else st
          (st, rowidMatched)

/-- Leading order terms the loops give: all, `-1` if later loops might give more, or the longest
prefix; with loops backward and `NULL`s-last tables. -/
def satisfiesOrder (ctx : TermContext) (main : Clause) (order : List PlanOrder)
    (flags : OrderFlags) (path : List Loop) (last : Loop) : OrderResult :=
  let n := order.length
  let done := orderBit n - 1
  let eqMask := opEq ||| opIs ||| opIsNull ||| (if flags.withIn then opIn else 0)
  let nLoop := path.length
  let step := fun (acc : Option OrderState × Nat) (l : Loop) =>
    let (st?, iLoop) := acc
    match st? with
    | none => (none, iLoop + 1)
    | some st =>
      if !st.distinct || st.sat == done then (some st, iLoop + 1)
      else if flags.lastOnly && iLoop < nLoop then
        (some { st with ready := st.ready ||| l.self }, iLoop + 1)
      else
        let st := { st with sat := fixedTerms ctx main order eqMask l st.ready st.sat }
        let indexed : Option (Option (List KeyColumn × Nat × Bool)) :=
          if l.oneRow then some none
          else if l.rowid then some (some ([.rowid], 0, st.distinct))
          else if l.automatic || l.disjunction then none
          else (l.index.map fun p => some (p.columns, p.keyCount, p.unique))
        match indexed with
        | none => (none, iLoop + 1)
        | some info =>
          let st := match info with
            | none => st
            | some (columns, keyCount, unique) =>
              let (st, rowidMatched) := indexColumns ctx (ctx.tables[l.table]?) order flags eqMask l
                iLoop columns keyCount (columns.length + 1) 0 ({ st with distinct := unique }, false, none)
              if rowidMatched then { st with distinct := true } else st
          let st :=
            if st.distinct then
              let distinctMask := st.distinctMask ||| l.self
              let sat := order.zipIdx.foldl (fun sat (o, i) =>
                if sat &&& orderBit i != 0 then sat
                else
                  let m := ctx.mask o.expr
                  if m == 0 && !o.expr.isPlainConstant ctx.fuel then sat
                  else if maskWithin m distinctMask then sat ||| orderBit i else sat) st.sat
              { st with distinctMask, sat }
            else st
          (some { st with ready := st.ready ||| l.self }, iLoop + 1)
  match (path ++ [last]).foldl step (some {}, 0) with
  | (none, _) => ⟨0, 0, []⟩
  | (some st, _) =>
    if st.sat == done then ⟨n, st.rev, st.bigNull⟩
    else if !st.distinct then
      let given := ((List.range n).reverse.find? fun i =>
        i > 0 && st.sat &&& (orderBit i - 1) == orderBit i - 1).getD 0
      ⟨given, st.rev, st.bigNull⟩
    else ⟨-1, st.rev, st.bigNull⟩

/-! ## Sorting and paths -/

/-- What the query wants: the order and its check, distinct rows, a constant `LIMIT`'s log,
result width. -/
structure PlanGoal where
  order : List PlanOrder := []
  flags : OrderFlags := {}
  distinct : Bool := false
  limit : Option Int := none
  columns : Nat := 1
  /-- Whether the rows must come in the order for the sort the query itself makes (the order
  of `GROUP BY` being that of `ORDER BY`). -/
  groupSorts : Bool := false

/-- Cost of sorting `nRow` rows with `nSorted` terms holding: by rows, width, rows kept; less if
partial. -/
def sortingCost (g : PlanGoal) (nRow : Int) (nSorted : Nat) : Int :=
  let nOrderBy := g.order.length
  let cost := nRow + logEst ((g.columns + 59) / 30)
  let cost := if nSorted > 0 then cost + logEst ((nOrderBy - nSorted) * 100 / nOrderBy) - 66 else cost
  let (cost, rows) := match g.limit with
    | some lim => (cost + 10 + (if nSorted != 0 then 6 else 0), if lim < nRow then lim else nRow)
    | none => (cost, if g.distinct && nRow > 10 then nRow - 10 else nRow)
  cost + estLog rows

/-- A partial loop order: tables, loops backward, rows, cost with and without sorting, terms
given, loops. -/
structure Path where
  mask : Nat := 0
  rev : Nat := 0
  nRow : Int := 0
  cost : Int := 0
  unsorted : Int := 0
  ordered : Int := 0
  loops : List Loop := []
  deriving Inhabited

/-- The best orders one table longer, at most `mxChoice`, one replacing a like path when
cheaper. -/
def extendPaths (ctx : TermContext) (main : Clause) (g : PlanGoal) (loops : List Loop)
    (mxChoice : Nat) (nOrderBy : Nat) (nRowEst : Int) (froms : List Path) : List Path :=
  let worst := fun (paths : List Path) =>
    paths.zipIdx.foldl (fun (acc : Nat × Int × Int) (p, k) =>
      let (_, c, u) := acc
      if k == 0 then (0, p.cost, p.nRow)
      else if p.cost > c || (p.cost == c && p.unsorted > u) then (k, p.cost, p.unsorted) else acc)
      (0, 0, 0)
  let visit := fun (acc : List Path × Nat × Int × Int) (pw : Path × Loop) =>
    let (tos, mxI, mxCost, mxUnsorted) := acc
    let (p, w) := pw
    if !maskWithin w.prereq p.mask || w.self &&& p.mask != 0 || (w.automatic && p.nRow < 3) then acc
    else
      let unsorted := logEstAdd w.setup (w.run + p.nRow)
      let unsorted := logEstAdd unsorted p.unsorted
      let nOut := p.nRow + w.out
      let maskNew := p.mask ||| w.self
      let (ordered, rev) :=
        if p.ordered < 0 then
          let r := satisfiesOrder ctx main g.order g.flags p.loops w
          (r.ordered, r.rev)
        else (p.ordered, p.rev)
      let (cost, unsorted) :=
        if ordered ≥ 0 && ordered < nOrderBy then
          (logEstAdd unsorted (sortingCost g nRowEst ordered.toNat) + 5, unsorted)
        else (unsorted, unsorted - 2)
      let cand : Path := { mask := maskNew, rev, nRow := nOut, cost, unsorted, ordered,
                           loops := p.loops ++ [w] }
      let placed : Option (List Path) :=
        match tos.findIdx? (fun q => q.mask == maskNew && (q.ordered < 0) == (ordered < 0)) with
        | none =>
          if tos.length ≥ mxChoice && (cost > mxCost || (cost == mxCost && unsorted ≥ mxUnsorted)) then
            none
          else if tos.length < mxChoice then some (tos ++ [cand])
          else some (tos.set mxI cand)
        | some jj =>
          let q := tos.getD jj default
          if q.cost < cost || (q.cost == cost && (q.nRow < nOut || (q.nRow == nOut && q.unsorted ≤ unsorted))) then
            none
          else some (tos.set jj cand)
      match placed with
      | none => acc
      | some tos =>
        if tos.length ≥ mxChoice then
          let (i, c, u) := worst tos
          (tos, i, c, u)
        else (tos, mxI, mxCost, mxUnsorted)
  let pairs := froms.flatMap fun p => loops.map fun w => (p, w)
  (pairs.foldl visit ([], 0, 0, 0)).1

/-- The cheapest complete order of `count` tables' loops, weighing the query's order unless
`nRowEst` is zero. -/
def solvePaths (ctx : TermContext) (main : Clause) (g : PlanGoal) (loops : List Loop)
    (count : Nat) (nRowEst : Int) : Option Path :=
  let mxChoice := if count ≤ 1 then 1 else if count == 2 then 5 else 10
  let nOrderBy := if g.order.isEmpty || nRowEst == 0 then 0 else g.order.length
  let start : Path := { ordered := if nOrderBy > 0 then (if count > 0 then -1 else nOrderBy) else 0 }
  let g := if nOrderBy == 0 then { g with order := [] } else g
  let finals := (List.range count).foldl (fun froms _ =>
    extendPaths ctx main g loops mxChoice nOrderBy nRowEst froms) [start]
  match finals with
  | [] => none
  | first :: rest => some (rest.foldl (fun best p => if best.cost > p.cost then p else best) first)

end PackageRegistry.Sql
