import PackageRegistry.Sql.Shape
import PackageRegistry.Sql.Plan.Scan
import PackageRegistry.Sql.Plan.Flatten
/-!
# Evaluating bound queries

Expressions read their query's row and those around it, by depth. `NULL` propagates, logic is
three-valued, integer overflow moves to doubles, and conditions stop once decided. `DISTINCT`
keeps the first of equal rows, and the order sorts stably.
-/

namespace PackageRegistry.Sql

/-- The context of evaluation: database, bound values, enclosing rows (innermost first),
group and window values. -/
structure Env where
  db : Database
  binds : List SqlValue
  frames : List (List Tagged) := []
  group : Option (List (List Tagged)) := none
  windows : List Tagged := []
  /-- The row a recursive common table's recursive arms read as the table. -/
  recursiveRows : List (List Tagged) := []

/-- The value of the `index`-th column of the row `depth` queries out. -/
def Env.column (env : Env) (depth index : Nat) : Tagged :=
  ((env.frames.drop depth).head?.bind fun row => (row.drop index).head?).getD ⟨.null, false⟩

/-- The environment of a query's own row inside the rows around it. -/
def Env.enter (env : Env) (row : List Tagged) : Env :=
  { env with frames := row :: env.frames, group := none, windows := [] }

/-- The environment with the innermost row replaced. -/
def Env.atRow (env : Env) (row : List Tagged) : Env :=
  { env with frames := row :: env.frames.drop 1, group := none, windows := [] }

/-- A row a query gives a result for: a source row, or a group's bare-column row with its rows. -/
structure GroupRow where
  row : List Tagged
  group : Option (List (List Tagged)) := none

/-- The environment of a query's own row (or group), with its window calls' values. -/
def Env.atGroup (env : Env) (g : GroupRow) (windows : List Tagged) : Env :=
  { env with frames := g.row :: env.frames, group := g.group, windows }

/-- A value without the JSON subtype. -/
def plain (v : SqlValue) : Tagged := ⟨v, false⟩

/-- A truth value as an integer. -/
def ofBool (b : Bool) : SqlValue := .integer (if b then 1 else 0)

/-- A three-valued truth as a value. -/
def ofTruth : Option Bool → SqlValue
  | some b => ofBool b
  | none => .null

/-! ## Operators on values -/

/-- Wraps an integer into 64 bits. -/
def wrapInteger (n : Int) : Int :=
  let m := n % (Int.pow 2 64)
  if m ≥ Int.pow 2 63 then m - Int.pow 2 64 else m

/-- Arithmetic: in 64-bit integers when both are and nothing overflows, else in doubles; a zero
divisor or NaN gives `NULL`. -/
def arithmetic (op : BinaryOp) (a b : SqlValue) : SqlValue :=
  let realMath : SqlValue :=
    let x := a.realValue
    let y := b.realValue
    let r := match op with
      | .add => x + y
      | .sub => x - y
      | .mul => x * y
      | .div => if y == 0.0 then 0.0 / 0.0 else x / y
      | _ =>
        let m := a.integerValue
        let n := b.integerValue
        if n == 0 then 0.0 / 0.0
        else integerToReal (m.tmod (if n == -1 then 1 else n))
    if r.isNaN then .null else .real r
  let intMath := fun (m n : Int) =>
    match op with
    | .add => if fitsInteger (m + n) then .integer (m + n) else realMath
    | .sub => if fitsInteger (m - n) then .integer (m - n) else realMath
    | .mul => if fitsInteger (m * n) then .integer (m * n) else realMath
    | .div =>
      if n == 0 then .null else if n == -1 && m == minInteger then realMath else .integer (m.tdiv n)
    | _ => if n == 0 then .null else .integer (m.tmod (if n == -1 then 1 else n))
  match a, b with
  | .integer m, .integer n => intMath m n
  | .null, _ | _, .null => .null
  | _, _ =>
    match a.numeric, b.numeric with
    | .integer m, .integer n => intMath m n
    | _, _ => realMath

/-- `&`, `|`, `<<` or `>>` of two values' integers, a negative count shifting the other way. -/
def bitwise (op : BinaryOp) (a b : SqlValue) : SqlValue :=
  if a.isNull || b.isNull then .null
  else
    let m := a.integerValue
    let n := b.integerValue
    let toBits := fun (x : Int) => (if x < 0 then x + Int.pow 2 64 else x).toNat
    let ofBits := fun (x : Nat) => wrapInteger (x : Int)
    match op with
    | .bitAnd => .integer (ofBits (toBits m &&& toBits n))
    | .bitOr => .integer (ofBits (toBits m ||| toBits n))
    | .shiftLeft =>
      if n ≥ 64 then .integer 0
      else if n ≥ 0 then .integer (wrapInteger (m * Int.pow 2 n.toNat))
      else if -n ≥ 64 then .integer (if m < 0 then -1 else 0)
      else .integer (m / Int.pow 2 (-n).toNat)
    | .shiftRight =>
      if n ≥ 64 then .integer (if m < 0 then -1 else 0)
      else if n ≥ 0 then .integer (m / Int.pow 2 n.toNat)
      else if -n ≥ 64 then .integer 0
      else .integer (wrapInteger (m * Int.pow 2 (-n).toNat))
    | _ => .null

/-- `a || b`: the bytes of both as text, `NULL` if either is; refused beyond the longest text. -/
def concatValues (a b : SqlValue) : Except SqlError SqlValue :=
  match a.textBytes?, b.textBytes? with
  | some x, some y =>
    if x.length + y.length > maxTextLength then .error .tooBig else .ok (.text (x ++ y))
  | _, _ => .ok .null

def andTruth : Option Bool → Option Bool → Option Bool
  | some false, _ | _, some false => some false
  | some true, some true => some true
  | _, _ => none

def orTruth : Option Bool → Option Bool → Option Bool
  | some true, _ | _, some true => some true
  | some false, some false => some false
  | _, _ => none

/-! ## Comparisons -/

/-- How two operands are compared: the affinity applied to both, and the collation of texts. -/
structure CompareRule where
  affinity : Affinity
  collation : Collation

/-- The rule for comparing two bound operands. -/
def compareRule (fuel : Nat) (a b : Expr) : CompareRule :=
  ⟨comparisonAffinity (a.affinity fuel) (b.affinity fuel),
    collationOfName (comparisonCollationName fuel a b)⟩

/-- The rules for comparing two row values item by item. -/
def rowRules (fuel : Nat) (a b : Expr) : List CompareRule :=
  (a.rowItems.zip b.rowItems).map fun (x, y) => compareRule fuel x y

/-- The affinity of an operand once held for reuse: a `COLLATE` operand loses its affinity. -/
def heldAffinity (fuel : Nat) : Expr → Affinity
  | .collate .. => .none
  | e => e.affinity fuel

/-- Compares two values by a rule; `NULL` when either side is (the `IS` forms compare it). -/
def compareValues (rule : CompareRule) (op : BinaryOp) (x y : SqlValue) : Option Bool :=
  let (p, q) := prepareOperands rule.affinity x y
  let same := fun (_ : Unit) =>
    if p.isNull || q.isNull then p.isNull && q.isNull
    else SqlValue.compareWith rule.collation p q == .eq
  match op with
  | .is => some (same ())
  | .isNot => some !(same ())
  | _ =>
    if p.isNull || q.isNull then none
    else
      let o := SqlValue.compareWith rule.collation p q
      some (match op with
        | .eq => o == .eq
        | .ne => o != .eq
        | .lt => o == .lt
        | .le => o != .gt
        | .gt => o == .gt
        | .ge => o != .lt
        | _ => false)

/-- Row values compared item by item: equal when all are (`NULL` if one is unknown), else by
the first that differ. -/
def compareRows (op : BinaryOp) : List (CompareRule × SqlValue × SqlValue) → Option Bool
  | [] => some (op == .eq || op == .is || op == .le || op == .ge)
  | [(r, x, y)] =>
    match op with
    | .eq | .ne | .is | .isNot | .lt | .le | .gt | .ge => compareValues r op x y
    | _ => none
  | (r, x, y) :: rest =>
    match op with
    | .eq => andTruth (compareValues r .eq x y) (compareRows .eq rest)
    | .ne => (andTruth (compareValues r .eq x y) (compareRows .eq rest)).map (!·)
    | .is => some (compareValues r .is x y == some true && compareRows .is rest == some true)
    | .isNot => some !(compareValues r .is x y == some true && compareRows .is rest == some true)
    | _ =>
      let strict := if op == .lt || op == .le then BinaryOp.lt else .gt
      match compareValues r strict x y with
      | none => none
      | some true => some true
      | some false => if compareValues r .eq x y == some true then compareRows op rest else some false

/-- The integer a `LIMIT` or `OFFSET` value stands for, or a mismatch. -/
def windowInteger (v : SqlValue) : Except SqlError Int :=
  let fromReal := fun (x : Float) =>
    let n := realToInteger x
    if integerToReal n == x && minInteger < n && n < maxInteger then Except.ok n
    else .error .datatypeMismatch
  match v with
  | .integer n => .ok n
  | .real x => fromReal x
  | .text bs =>
    match numericAffinityOf bs with
    | .integer n => .ok n
    | .real x => fromReal x
    | _ => .error .datatypeMismatch
  | _ => .error .datatypeMismatch

/-! ## Aggregates -/

/-- State of `sum`, `total`, `avg`: count, exact and double sums, whether a value was no
integer or the sum overflowed. -/
structure SumState where
  count : Nat := 0
  exact : Int := 0
  approx : Float := 0.0
  inexact : Bool := false
  overflow : Bool := false

/-- Adds a value to a sum: `NULL` is skipped, text is read as a number where it is one. -/
def SumState.add (s : SumState) (v : SqlValue) : SumState :=
  match v.withNumericAffinity with
  | .null => s
  | .integer n =>
    let exact := s.exact + n
    let fresh := !s.inexact && !s.overflow
    { s with count := s.count + 1, approx := s.approx + integerToReal n,
             exact := if fresh && fitsInteger exact then exact else s.exact,
             inexact := s.inexact || (fresh && !fitsInteger exact),
             overflow := s.overflow || (fresh && !fitsInteger exact) }
  | w => { s with count := s.count + 1, approx := s.approx + w.realValue, inexact := true }

/-- An aggregate's value over a group's argument values, by upper-case name and collation. -/
def aggregateValue (name : String) (coll : Collation) (rows : List (List SqlValue)) :
    Except SqlError SqlValue :=
  let firsts := rows.map fun r => r.headD .null
  match name with
  | "COUNT" =>
    if rows.all (·.isEmpty) then .ok (.integer rows.length)
    else .ok (.integer (firsts.filter (!·.isNull)).length)
  | "SUM" | "TOTAL" | "AVG" =>
    let s := firsts.foldl SumState.add {}
    match name with
    | "TOTAL" => .ok (.real s.approx)
    | "AVG" => .ok (if s.count == 0 then .null else .real (s.approx / integerToReal s.count))
    | _ =>
      if s.count == 0 then .ok .null
      else if s.overflow then .error .integerOverflow
      else if s.inexact then .ok (.real s.approx)
      else .ok (.integer s.exact)
  | "MIN" | "MAX" =>
    let better := fun (best v : SqlValue) =>
      let c := SqlValue.compareWith coll best v
      if name == "MAX" then c == .lt else c == .gt
    .ok (firsts.foldl (fun best v =>
      if v.isNull then best else if best.isNull || better best v then v else best) .null)
  | _ =>
    -- group_concat: a separator before every value but the first
    let step := fun (acc : Option (List UInt8)) (r : List SqlValue) =>
      match r with
      | v :: rest =>
        match v.textBytes? with
        | none => acc
        | some bs =>
          match acc with
          | none => some bs
          | some done =>
            let sep := match rest with
              | s :: _ => s.textBytes?.getD []
              | [] => [44]
            some (done ++ sep ++ bs)
      | [] => acc
    match rows.foldl step none with
    | none => .ok .null
    | some bs => if bs.length > maxTextLength then .error .tooBig else .ok (.text bs)

/-- The rows a `DISTINCT` aggregate takes: the first of each equal first value. -/
def distinctRows (coll : Collation) (rows : List (List Tagged)) : List (List Tagged) :=
  let same := fun (a b : List Tagged) =>
    match a.head?, b.head? with
    | some x, some y =>
      (x.value.isNull && y.value.isNull) ||
        (!x.value.isNull && !y.value.isNull && SqlValue.compareWith coll x.value y.value == .eq)
    | _, _ => false
  rows.foldl (fun acc r => if acc.any (same r) then acc else acc ++ [r]) []

/-- Whether a value is the better of a running `min` or `max` under a collation. -/
def improves (isMax : Bool) (coll : Collation) (best v : SqlValue) : Bool :=
  let c := SqlValue.compareWith coll best v
  if isMax then c == .lt else c == .gt

/-- The row an aggregate query's other columns read: the last where `min` or `max` improved. -/
def extremeRow (isMax : Bool) (coll : Collation) (rows : List (List Tagged × SqlValue)) :
    Option (List Tagged) :=
  (rows.foldl (fun (acc : Option (List Tagged) × SqlValue) (row, v) =>
    let (chosen, best) := acc
    if best.isNull then (some row, v)
    else if v.isNull then (chosen, best)
    else if improves isMax coll best v then (some row, v)
    else (chosen, best)) (none, .null)).1

/-! ## Ordering and distinct rows -/

/-- Compares two rows by the values of their order terms. -/
def compareByTerms (fuel : Nat) (keysA keysB : List SqlValue) (terms : List OrderTerm) : Ordering :=
  match keysA, keysB, terms with
  | a :: as, b :: bs, t :: ts =>
    let nullsFirst := t.nullsFirst.getD (!t.descending)
    let o :=
      if a.isNull && b.isNull then Ordering.eq
      else if a.isNull then (if nullsFirst then .lt else .gt)
      else if b.isNull then (if nullsFirst then .gt else .lt)
      else
        let c := SqlValue.compareWith (collationOfName (t.expr.collationName fuel)) a b
        if t.descending then c.swap else c
    if o == .eq then compareByTerms fuel as bs ts else o
  | _, _, _ => .eq

/-- Whether two result rows are the same under the columns' collations, `NULL` equal `NULL`. -/
def sameRow (colls : List Collation) (a b : List SqlValue) : Bool :=
  a.length == b.length && ((colls.zip (a.zip b)).all fun (c, x, y) =>
    (x.isNull && y.isNull) || (!x.isNull && !y.isNull && SqlValue.compareWith c x y == .eq))

/-- The window of rows: `offset` skipped, then at most `limit` (none: all). -/
def applyWindow {α : Type} (limit : Option Int) (offset : Nat) (rows : List α) : List α :=
  match limit with
  | some n => if n < 0 then rows.drop offset else (rows.drop offset).take n.toNat
  | none => rows.drop offset

/-- Compares two rows column by column under collations, `NULL` before any value. -/
def compareRowValues : List Collation → List Tagged → List Tagged → Ordering
  | c :: cs, x :: xs, y :: ys =>
    let o := SqlValue.compareWith c x.value y.value
    if o == .eq then compareRowValues cs xs ys else o
  | _, _, _ => .eq

/-- Rows in ascending order under collations, each distinct row once. -/
def distinctAscending (colls : List Collation) (rows : List (List Tagged)) : List (List Tagged) :=
  let sorted := rows.mergeSort fun a b => compareRowValues colls a b != .gt
  sorted.foldr (fun row acc =>
    match acc with
    | next :: _ => if compareRowValues colls row next == .eq then acc else row :: acc
    | [] => [row]) []

/-- Two arms joined: `UNION ALL` keeps every row; `UNION`, `INTERSECT`, `EXCEPT` give distinct
rows, ascending. -/
def combineRows (colls : List Collation) (op : CompoundOp) (left right : List (List Tagged)) :
    List (List Tagged) :=
  let inRight := fun (row : List Tagged) => right.any fun r => compareRowValues colls row r == .eq
  match op with
  | .unionAll => left ++ right
  | .union => distinctAscending colls (left ++ right)
  | .intersect => distinctAscending colls (left.filter inRight)
  | .except => distinctAscending colls (left.filter fun row => !inRight row)

/-- An expression with its window calls (outside subqueries) replaced by values numbered from
`start`. -/
def Expr.extractWindows : Nat → Nat → Expr → Expr × List Expr
  | 0, _, e => (e, [])
  | fuel + 1, start, e =>
    let many := fun (items : List Expr) =>
      items.foldl (fun (acc : List Expr × List Expr) x =>
        let (y, calls) := x.extractWindows fuel (start + acc.2.length)
        (acc.1 ++ [y], acc.2 ++ calls)) ([], [])
    let one := fun (a : Expr) (rebuild : Expr → Expr) =>
      let (ys, calls) := many [a]
      (rebuild (ys.headD a), calls)
    match e with
    | .over _ _ _ _ (some _) => (.windowValue start, [e])
    | .call f args d =>
      let (ys, calls) := many args
      (.call f ys d, calls)
    | .unary op a => one a (.unary op ·)
    | .isNull n a => one a (.isNull n ·)
    | .cast a t => one a (.cast · t)
    | .collate a c => one a (.collate · c)
    | .isTruth n t a => one a (.isTruth n t ·)
    | .inSelect n a q => one a (.inSelect n · q)
    | .binary op a b =>
      let (ys, calls) := many [a, b]
      (.binary op (ys.headD a) ((ys.drop 1).headD b), calls)
    | .like n op subject pattern escape =>
      let (ys, calls) := many (pattern :: subject :: escape.toList)
      (.like n op ((ys.drop 1).headD subject) (ys.headD pattern) (escape.map fun x => (ys.drop 2).headD x),
        calls)
    | .between n a lo hi =>
      let (ys, calls) := many [a, lo, hi]
      (.between n (ys.headD a) ((ys.drop 1).headD lo) ((ys.drop 2).headD hi), calls)
    | .inList n a items =>
      let (ys, calls) := many (a :: items)
      (.inList n (ys.headD a) (ys.drop 1), calls)
    | .vector items =>
      let (ys, calls) := many items
      (.vector ys, calls)
    | .case operand arms otherwise =>
      let (ys, calls) := many (caseParts operand arms otherwise)
      (caseOf operand arms otherwise ys, calls)
    | _ => (e, [])

/-- Expressions with their window calls replaced, numbered in order from `start`; with the
calls. -/
def extractAllWindows (fuel start : Nat) (es : List Expr) : List Expr × List Expr :=
  es.foldl (fun (acc : List Expr × List Expr) x =>
    let (y, calls) := x.extractWindows fuel (start + acc.2.length)
    (acc.1 ++ [y], acc.2 ++ calls)) ([], [])

/-- A `ROWS` or `GROUPS` offset's number: an integer, integral real or such text; at least 0. -/
def frameCount? (v : SqlValue) : Option Nat :=
  let ofInt := fun (n : Int) => if n ≥ 0 then some n.toNat else none
  match v.withNumericAffinity with
  | .integer n => ofInt n
  | .real x =>
    let n := realToInteger x
    if integerToReal n == x then ofInt n else none
  | _ => none

/-- The offset a `RANGE` frame takes: a number, at least zero. -/
def rangeOffset? (v : SqlValue) : Option SqlValue :=
  match v.withNumericAffinity with
  | .integer m => if m ≥ 0 then some (.integer m) else none
  | .real x => if x ≥ 0.0 then some (.real x) else none
  | _ => none

/-- Compares two values for a `RANGE` frame: `NULL` below every value and equal to `NULL`. -/
def compareRangeValues (coll : Collation) (a b : SqlValue) : Ordering :=
  if a.isNull && b.isNull then .eq
  else if a.isNull then .lt
  else if b.isNull then .gt
  else SqlValue.compareWith coll a b

/-- A queue of rows of a recursive common table, each with its order values, and the rows
already queued. -/
structure RecursionQueue where
  rows : List (List Tagged × List SqlValue) := []
  seen : List (List Tagged) := []

/-- Queues rows after those not ordered after them; with `distinct` a row queued before is
dropped. -/
def RecursionQueue.push (keyOf : List Tagged → Except SqlError (List SqlValue))
    (before : List SqlValue → List SqlValue → Bool) (distinct : Bool)
    (same : List Tagged → List Tagged → Bool) (queue : RecursionQueue) (rows : List (List Tagged)) :
    Except SqlError RecursionQueue :=
  rows.foldlM (fun (acc : RecursionQueue) r => do
    if distinct && acc.seen.any (same r) then pure acc
    else do
      let k ← keyOf r
      let later := acc.rows.dropWhile fun (_, k2) => !before k k2
      let earlier := acc.rows.take (acc.rows.length - later.length)
      pure { rows := earlier ++ [(r, k)] ++ later, seen := if distinct then acc.seen ++ [r] else acc.seen })
    queue

/-- A recursive common table's rows from its queue: each row taken is given unless skipped; at
the limit the table ends, else its recursive rows are queued. Ends on an empty queue or after
`budget` rows. -/
def runRecursion (step : List Tagged → Except SqlError (List (List Tagged)))
    (push : RecursionQueue → List (List Tagged) → Except SqlError RecursionQueue) :
    Nat → RecursionQueue → Nat → Option Nat → List (List Tagged) → Except SqlError (List (List Tagged))
  | 0, _, _, _, out => .ok out.reverse
  | budget + 1, queue, skip, left, out =>
    match queue.rows with
    | [] => .ok out.reverse
    | (row, _) :: rest => do
      let queue := { queue with rows := rest }
      let (out, skip, left) :=
        if skip > 0 then (out, skip - 1, left) else (row :: out, 0, left.map (· - 1))
      if left == some 0 then .ok out.reverse
      else do
        let fresh ← step row
        let queue ← push queue fresh
        runRecursion step push budget queue skip left out

/-- A scan's gathered state: result rows with sort keys, rows to skip, whether the window is
full. -/
structure Scan where
  kept : List (List Tagged × List SqlValue) := []
  skip : Nat := 0
  full : Bool := false

/-- `rtreecheck([schema,] table)`: a one- or two-column table is no R-tree; others lack a node
table. -/
def rtreeCheckValue (db : Database) (schema : Option String) (table : SqlValue) :
    Except SqlError SqlValue :=
  match schema, table.textBytes? with
  | some s, some name =>
    match db.findIn? (some s) (stringOfBytes name) with
    | some t => if t.columns.length ≤ 2 then .ok (.ofString "Schema corrupt or not an rtree")
      else .error .logicError
    | none => .error .logicError
  | _, _ => .error .logicError

mutual

/-- The value of a bound expression. `fuel` bounds the nesting. -/
def evalExpr (env : Env) : Nat → Expr → Except SqlError Tagged
  | 0, _ => .ok (plain .null)
  | fuel + 1, e =>
    let value := fun (x : Expr) => do return (← evalExpr env fuel x).value
    match e with
    | .literal v => .ok (plain v)
    | .hexLiteral text => .ok (plain (integerLiteral text))
    | .variable k => .ok (plain ((env.binds.drop (k - 1)).head?.getD .null))
    | .column d i _ _ => .ok (env.column d i)
    | .name .. | .schemaName .. | .raise | .vector _ | .over _ _ _ _ (some _) => .ok (plain .null)
    | .windowValue i => .ok (env.windows.getD i (plain .null))
    | .over f args distinct filter none =>
      match env.group, filter with
      | some rows, some c => do
        let kept ← rows.filterM fun row => do
          return !(← evalJump (env.atRow row) fuel false true c)
        evalExpr { env with group := some kept } fuel (.call f args distinct)
      | _, _ => evalExpr env fuel (.call f args distinct)
    | .unary .negate (.literal (.integer n)) =>
      .ok (plain (if n == minInteger then arithmetic .sub (.integer 0) (.integer n) else .integer (-n)))
    | .unary .negate (.literal (.real x)) => .ok (plain (.real (-x)))
    | .unary op a => do
      let v ← evalExpr env fuel a
      match op with
      | .plus => .ok v
      | .negate => .ok (plain (arithmetic .sub (.integer 0) v.value))
      | .not => .ok (plain (ofTruth (v.value.truth?.map (!·))))
      | .bitNot =>
        .ok (plain (if v.value.isNull then .null else .integer (wrapInteger (-v.value.integerValue - 1))))
    | .binary op a b =>
      if op.isComparison then
        if a.width > 1 then do
          let xs ← evalRow env fuel a
          let ys ← evalRow env fuel b
          .ok (plain (ofTruth (compareRows op (rowRules fuel a b |>.zip (xs.zip ys)))))
        else do
          let x ← value a
          let y ← value b
          .ok (plain (ofTruth (compareValues (compareRule fuel a b) op x y)))
      else do
        let x ← value a
        let y ← value b
        match op with
        | .and => .ok (plain (ofTruth (andTruth x.truth? y.truth?)))
        | .or => .ok (plain (ofTruth (orTruth x.truth? y.truth?)))
        | .add | .sub | .mul | .div | .rem => .ok (plain (arithmetic op x y))
        | .concat => return plain (← concatValues x y)
        | _ => .ok (plain (bitwise op x y))
    | .isNull negated a => do
      let v ← value a
      .ok (plain (ofBool (v.isNull != negated)))
    | .isTruth negated truth a => do
      let v ← value a
      .ok (plain (ofBool (match v.truth? with
        | some b => (b == truth) != negated
        | none => negated)))
    | .like negated op subject pattern escape => do
      let args ← (pattern :: subject :: escape.toList).mapM (evalExpr env fuel)
      let r ← applyScalar .binary op.toUpper args
      .ok (if negated then plain (ofTruth (r.value.truth?.map (!·))) else r)
    | .between negated a lo hi => do
      let xs ← evalRow env fuel a
      let ls ← evalRow env fuel lo
      let hs ← evalRow env fuel hi
      let held := fun (b : Expr) => (a.rowItems.zip b.rowItems).map fun (x, y) =>
        CompareRule.mk (comparisonAffinity (heldAffinity fuel x) (y.affinity fuel))
          (collationOfName (comparisonCollationName fuel x y))
      let ge := compareRows .ge ((held lo).zip (xs.zip ls))
      let le := compareRows .le ((held hi).zip (xs.zip hs))
      let r := andTruth ge le
      .ok (plain (ofTruth (if negated then r.map (!·) else r)))
    | .inList negated a items => do
      let rule : CompareRule := ⟨a.affinity fuel, collationOfName (a.collationName fuel)⟩
      let eager := items.length > 2 && items.all fun x => x.isConstantTerm fuel 0 && !x.reads fuel 0
      let found ← if eager then do
          let vs ← items.mapM value
          let x ← value a
          pure (if vs.any fun v => compareValues rule .eq x v == some true then some true
            else if x.isNull || vs.any (·.isNull) then none else some false)
        else do
          let x ← value a
          let (hit, sawNull) ← items.foldlM (fun (acc : Bool × Bool) item =>
            if acc.1 then pure acc
            else do
              let v ← value item
              pure (compareValues rule .eq x v == some true, acc.2 || v.isNull)) (false, false)
          pure (if hit then some true else if x.isNull || sawNull then none else some false)
      .ok (plain (ofTruth (if negated then found.map (!·) else found)))
    | .inSelect negated a q => do
      let rows ← evalSelect env fuel q
      let xs ← evalRow env fuel a
      let rules := (a.rowItems.zip q.resultExprs).map fun (x, y) => compareRule fuel x y
      let found := rows.foldl (fun acc row =>
        orTruth acc (compareRows .eq (rules.zip (xs.zip (row.map (·.value)))))) (some false)
      .ok (plain (ofTruth (if negated then found.map (!·) else found)))
    | .exists q => do
      let rows ← evalSelect env fuel q
      .ok (plain (ofBool !rows.isEmpty))
    | .scalar q => do
      let rows ← evalSelect env fuel q
      .ok (match rows with
        | (v :: _) :: _ => v
        | _ => plain .null)
    | .case none arms otherwise => do
      let chosen ← arms.foldlM (fun (acc : Option Expr) (w, t) =>
        match acc with
        | some _ => pure acc
        | none => do
          let skip ← evalJump env fuel false true w
          pure (if skip then none else some t)) none
      match chosen, otherwise with
      | some t, _ | none, some t => evalExpr env fuel t
      | none, none => .ok (plain .null)
    | .case (some o) arms otherwise => do
      let xs ← evalRow env fuel o
      let chosen ← arms.foldlM (fun (acc : Option Expr) (w, t) =>
        match acc with
        | some _ => pure acc
        | none => do
          let ys ← evalRow env fuel w
          let rules := (o.rowItems.zip w.rowItems).map fun (x, y) =>
            CompareRule.mk (comparisonAffinity (heldAffinity fuel x) (y.affinity fuel))
              (collationOfName (comparisonCollationName fuel x y))
          pure (if compareRows .eq (rules.zip (xs.zip ys)) == some true then some t else none)) none
      match chosen, otherwise with
      | some t, _ | none, some t => evalExpr env fuel t
      | none, none => .ok (plain .null)
    | .cast a t => do
      let v ← value a
      .ok (plain (v.cast (Affinity.ofTypeName t)))
    | .collate a _ => evalExpr env fuel a
    | .call f args distinct =>
      match callKind f args.length, f.toUpper with
      | .aggregate, name =>
        match env.group with
        | none => .error (.aggregateInOrder f)
        | some rows => do
          let coll := collationOfName ((args.find? fun x => (x.collationName fuel).isSome).bind
            (·.collationName fuel))
          let argRows ← rows.mapM fun row => args.mapM fun x => evalExpr (env.atRow row) fuel x
          let argRows := if distinct then distinctRows coll argRows else argRows
          let none := plain .null
          match name with
          | "JSON_GROUP_ARRAY" => groupArrayValue (argRows.map (·.headD none))
          | "JSON_GROUP_OBJECT" =>
            groupObjectValue (argRows.map fun r => (r.headD none, (r.drop 1).headD none))
          | _ => return plain (← aggregateValue name coll (argRows.map (·.map (·.value))))
      | _, "COALESCE" | _, "IFNULL" => do
        let chosen ← args.foldlM (fun (acc : Option Tagged) x =>
          match acc with
          | some v => if v.value.isNull then (some <$> evalExpr env fuel x) else pure acc
          | none => some <$> evalExpr env fuel x) none
        pure (chosen.getD (plain .null))
      | _, "IIF" =>
        match args with
        | [c, x, y] => do
          let skip ← evalJump env fuel false true c
          evalExpr env fuel (if skip then y else x)
        | _ => .ok (plain .null)
      | _, "CHANGES" => .ok (plain (.integer env.db.counts.changes))
      | _, "TOTAL_CHANGES" => .ok (plain (.integer env.db.counts.total))
      | _, "LAST_INSERT_ROWID" => .ok (plain (.integer env.db.counts.lastRowid))
      | _, "RTREECHECK" => do
        let vs ← args.mapM fun x => do return (← evalExpr env fuel x).value
        match vs with
        | [t] => plain <$> rtreeCheckValue env.db (some "main") t
        | [d, t] => plain <$> rtreeCheckValue env.db (d.textBytes?.map stringOfBytes) t
        | _ => throw .rtreeCheckArguments
      | _, "LIKELY" | _, "UNLIKELY" | _, "LIKELIHOOD" =>
        match args with
        | x :: _ => evalExpr env fuel x
        | [] => .ok (plain .null)
      | _, name => do
        let coll := collationOfName ((args.find? fun x => (x.collationName fuel).isSome).bind
          (·.collationName fuel))
        let vs ← args.mapM (evalExpr env fuel)
        applyScalar coll name vs

/-- A row value's values: its items, a subquery's first row (else `NULL`s), or one value. -/
def evalRow (env : Env) : Nat → Expr → Except SqlError (List SqlValue)
  | 0, _ => .ok []
  | fuel + 1, e =>
    match e with
    | .vector items => items.mapM fun x => do return (← evalExpr env fuel x).value
    | .scalar q => do
      let rows ← evalSelect env fuel q
      .ok (match rows with
        | row :: _ => row.map (·.value)
        | [] => q.resultExprs.map fun _ => .null)
    | _ => do return [(← evalExpr env fuel e).value]

/-- Tests a condition as a jump does: whether control jumps on `sense`, or for `NULL` when
`jumpIfNull`. -/
def evalJump (env : Env) : Nat → Bool → Bool → Expr → Except SqlError Bool
  | 0, _, _, _ => .ok false
  | fuel + 1, sense, jumpIfNull, e =>
    let byTruth := fun (t : Option Bool) =>
      match t with
      | some b => b == sense
      | none => jumpIfNull
    match e with
    | .binary .and a b => do
      if sense then
        if ← evalJump env fuel false (!jumpIfNull) a then pure false
        else evalJump env fuel true jumpIfNull b
      else
        if ← evalJump env fuel false jumpIfNull a then pure true
        else evalJump env fuel false jumpIfNull b
    | .binary .or a b => do
      if sense then
        if ← evalJump env fuel true jumpIfNull a then pure true
        else evalJump env fuel true jumpIfNull b
      else
        if ← evalJump env fuel true (!jumpIfNull) a then pure false
        else evalJump env fuel false jumpIfNull b
    | .unary .not a => evalJump env fuel (!sense) jumpIfNull a
    | .isTruth negated truth a =>
      if sense then evalJump env fuel (truth != negated) negated a
      else evalJump env fuel (truth == negated) (!negated) a
    | .between negated a lo hi => do
      let sense := if negated then !sense else sense
      let xs ← evalRow env fuel a
      let held := fun (b : Expr) => (a.rowItems.zip b.rowItems).map fun (x, y) =>
        CompareRule.mk (comparisonAffinity (heldAffinity fuel x) (y.affinity fuel))
          (collationOfName (comparisonCollationName fuel x y))
      let side := fun (op : BinaryOp) (b : Expr) => do
        let ys ← evalRow env fuel b
        pure (compareRows op ((held b).zip (xs.zip ys)))
      let jumpOn := fun (s j : Bool) (t : Option Bool) =>
        match t with
        | some v => v == s
        | none => j
      if sense then
        if jumpOn false (!jumpIfNull) (← side .ge lo) then pure false
        else pure (jumpOn true jumpIfNull (← side .le hi))
      else
        if jumpOn false jumpIfNull (← side .ge lo) then pure true
        else pure (jumpOn false jumpIfNull (← side .le hi))
    | _ => do
      let v ← evalExpr env fuel e
      pure (byTruth v.value.truth?)

/-- The `LIMIT` or `OFFSET` of a query as an integer. -/
def evalWindow (env : Env) : Nat → Option Expr → Except SqlError (Option Int)
  | 0, _ => .ok none
  | _, none => .ok none
  | fuel + 1, some e => do
    let v ← evalExpr env fuel e
    return some (← windowInteger v.value)

/-- The rows a bound subquery gives: a compound query's, or those of its one arm over the rows
of its source. -/
def evalSelect (env : Env) : Nat → Select → Except SqlError (List (List Tagged))
  | 0, _ => .ok []
  | fuel + 1, q =>
    match q.recursion with
    | some k => evalRecursive env fuel k q
    | none => if q.compound.isEmpty then evalArm env fuel q q else evalCompound env fuel q

/-- Arm `run`'s rows in the plan order of `view` (the arm or a query flattened around it), over
stored tables. -/
def evalArm (env : Env) : Nat → Select → Select → Except SqlError (List (List Tagged))
  | 0, _, _ => .ok []
  | fuel + 1, view, run => do
    let rows ← match planQuery env.db env.binds fuel view with
      | some (tables, steps) => do
        let width := tables.foldl (fun n t => n + t.width) 0
        let joins := (view.source.map (·.steps)).getD []
        let holds := fun (row : List Tagged) (e : Expr) => do
          return !(← evalJump (env.enter row) fuel false true e)
        let rows ← readPlan tables width (fun k => (joins[k]?).bind (·.on)) holds fuel steps
          (List.replicate width (plain .null))
        let inner := (joins.zip tables).filterMap fun (step, t) =>
          if step.kind == .left && !t.outer then step.on else none
        rows.filterM fun row => inner.allM (holds row)
      | none =>
        match flattenedView fuel view with
        | some (view', sub) => evalArm env fuel view' sub
        | none => sourceRows env fuel (run.source.map (·.pushDown env.db fuel view.filter))
    runSelect env fuel run.source.isSome rows run

/-- A recursive common table's rows, recursive arms from `k`: the arms before queue the first
rows; each row taken is the table the recursive arms read. -/
def evalRecursive (env : Env) : Nat → Nat → Select → Except SqlError (List (List Tagged))
  | 0, _, _ => .ok []
  | fuel + 1, k, q => do
    let limit ← evalWindow env fuel q.limit
    if limit == some 0 then return []
    let offset ← evalWindow env fuel q.offset
    let start := match offset with
      | some n => if n > 0 then n.toNat else 0
      | none => 0
    let left := match limit with
      | some n => if n ≥ 0 then some n.toNat else none
      | none => none
    let setup : Select :=
      { q with compound := q.compound.take (k - 1), order := [], limit := none, offset := none,
               recursion := none }
    let distinct := (q.compound.getLast?.map (·.1)) == some .union
    match q.compound.drop (k - 1) with
    | [] => evalSelect env fuel setup
    | (_, first) :: more =>
      let recursive : Select := { first with compound := more.map fun (_, arm) => (.unionAll, arm) }
      let keyOf := fun (row : List Tagged) =>
        q.order.mapM fun t => do return (← evalExpr (env.enter row) fuel t.expr).value
      let before := fun (a b : List SqlValue) => compareByTerms fuel a b q.order == .lt
      let same := fun (a b : List Tagged) =>
        compareRowValues (a.map fun _ => collationOfName none) a b == .eq && a.length == b.length
      let push := RecursionQueue.push keyOf before distinct same
      let first ← evalSelect env fuel setup
      let queue ← push {} first
      runRecursion (fun row => evalSelect { env with recursiveRows := [row] } fuel recursive) push
        100000 queue start left []

/-- The rows of a query's sources: one empty row without any, else `FROM` joined from the
left. -/
def sourceRows (env : Env) : Nat → Option FromItem → Except SqlError (List (List Tagged))
  | 0, _ => .ok []
  | _, none => .ok [[]]
  | fuel + 1, some item =>
    match item.steps with
    | [] => .ok [[]]
    | first :: rest => do
      let start ← itemRows env fuel [] first.item
      let joined ← rest.foldlM (fun (acc : List (List Tagged) × Nat) step => do
        let rows ← joinStep env fuel acc.1 acc.2 step
        pure (rows, acc.2 + step.item.width env.db)) (start, first.item.width env.db)
      pure joined.1

/-- One source's rows: a table's, a function's (reading row `left` of earlier sources), or a
subquery's. -/
def itemRows (env : Env) : Nat → List Tagged → FromItem → Except SqlError (List (List Tagged))
  | 0, _, _ => .ok []
  | _ + 1, _, .table schema name _ _ =>
    match env.db.findIn? schema name with
    | some t => .ok (t.storedRows.map (·.map plain))
    | none =>
      match TableFunction.ofName? name with
      | some f => f.readRows env.db []
      | none => .ok []
  | fuel + 1, left, .function _ name args _ => do
    let vs ← args.mapM fun x => do return (← evalExpr (env.enter left) fuel x).value
    match TableFunction.ofName? name with
    | some f => f.readRows env.db vs
    | none => .ok []
  | fuel + 1, _, .subquery q _ => evalSelect env fuel q
  | _ + 1, _, .recursive .. => .ok env.recursiveRows
  | _ + 1, _, .refused err => .error err
  | _ + 1, _, .join .. => .ok []

/-- A join's rows: left rows with right rows the constraint admits; outer joins add unpaired
rows with `NULL`s. -/
def joinStep (env : Env) : Nat → List (List Tagged) → Nat → JoinStep →
    Except SqlError (List (List Tagged))
  | 0, _, _, _ => .ok []
  | fuel + 1, lefts, width, step => do
    let pad := fun (n : Nat) => List.replicate n (plain .null)
    let rightWidth := step.item.width env.db
    let admits := fun (l r : List Tagged) => (match step.on with
      | none => pure true
      | some c => do return !(← evalJump (env.enter (l ++ r)) fuel false true c) :
        Except SqlError Bool)
    let lateral := match step.item with
      | .function .. => true
      | _ => false
    let shared ← if lateral then pure [] else itemRows env fuel [] step.item
    let (rows, used) ← lefts.foldlM (fun (acc : List (List Tagged) × List Nat) l => do
      let rights ← if lateral then itemRows env fuel l step.item else pure shared
      let hits ← rights.zipIdx.filterM fun (r, _) => admits l r
      let joined := hits.map fun (r, _) => l ++ r
      let kept := if joined.isEmpty && (step.kind == .left || step.kind == .full) then
          [l ++ pad rightWidth] else joined
      pure (acc.1 ++ kept, acc.2 ++ hits.map (·.2))) ([], [])
    if step.kind == .right || step.kind == .full then
      let unmatched := (shared.zipIdx.filter fun (_, k) => !used.contains k).map fun (r, _) => pad width ++ r
      pure (rows ++ unmatched)
    else pure rows

/-- An ordered compound arm's order: each term on the arm's column, then, unless only
`UNION ALL` follows, the other columns ascending. -/
def armOrder (fuel : Nat) (q : Select) (position : Nat) (arm : Select) : List OrderTerm :=
  let placeOf := fun (t : OrderTerm) => match t.expr.skipCollate with
    | .column _ i _ _ => i
    | _ => 0
  let placed := q.order.map placeOf
  let missing := (List.range q.resultExprs.length).filter fun i => !placed.contains i
  let widened := ((q.compound.map (·.1)).drop (position - 1)).any (· != .unionAll)
  let onArm := fun (i : Nat) (t : OrderTerm) =>
    let coll := match t.expr with
      | .collate _ c => c
      | _ => (compoundCollationName fuel q i).getD "BINARY"
    { t with expr := .collate (arm.resultExprs.getD i (.literal .null)) coll }
  if q.order.isEmpty then []
  else (q.order.map fun t => onArm (placeOf t) t) ++
    (if widened then missing.map fun i => onArm i { expr := .literal .null } else [])

/-- A compound's rows: window first (limit zero ends it); arms' rows in order, joined from the
left; a stable sort and the window. -/
def evalCompound (env : Env) : Nat → Select → Except SqlError (List (List Tagged))
  | 0, _ => .ok []
  | fuel + 1, q => do
    let limit ← evalWindow env fuel q.limit
    if limit == some 0 then return []
    let offset ← evalWindow env fuel q.offset
    let start := match offset with
      | some n => if n > 0 then n.toNat else 0
      | none => 0
    let colls := (List.range q.resultExprs.length).map fun i =>
      collationOfName (compoundCollationName fuel q i)
    let core := fun (arm : Select) =>
      { arm with compound := [], order := armOrder fuel q 0 arm, limit := none, offset := none }
    let first ← evalSelect env fuel (core q)
    let rows ← q.compound.zipIdx.foldlM (fun acc ((op, arm), k) => do
      let next ← evalSelect env fuel { arm with order := armOrder fuel q (k + 1) arm }
      pure (combineRows colls op acc next)) first
    if q.order.isEmpty then return applyWindow limit start rows
    else
      let keyed ← rows.mapM fun row => do
        let keys ← q.order.mapM fun t => do return (← evalExpr (env.enter row) fuel t.expr).value
        pure (row, keys)
      let ordered := keyed.mergeSort fun a b => compareByTerms fuel a.2 b.2 q.order != .gt
      return applyWindow limit start (ordered.map (·.1))

/-- The rows a bound query gives over the rows of its source (`hasSource` tells whether it
reads one). -/
def runSelect (env : Env) : Nat → Bool → List (List Tagged) → Select → Except SqlError (List (List Tagged))
  | 0, _, _, _ => .ok []
  | fuel + 1, hasSource, rows, q => do
    let limit ← evalWindow env fuel q.limit
    if limit == some 0 then return []
    let offset ← evalWindow env fuel q.offset
    let start := match offset with
      | some n => if n > 0 then n.toNat else 0
      | none => 0
    let terms := q.filter.toList.flatMap (·.andTerms fuel)
    let once := if hasSource then terms.filter (·.isConstantTerm fuel 0) else terms
    let perRow := if hasSource then terms.filter (!·.isConstantTerm fuel 0) else []
    let perRow := perRow.filter (!·.readsInSubquery fuel) ++ perRow.filter (·.readsInSubquery fuel)
    let passes := fun (row : List Tagged) (ts : List Expr) =>
      ts.allM fun t => do return !(← evalJump (env.enter row) fuel false true t)
    let openRows ← passes [] once
    let results := q.resultExprs
    let isAggregate := !q.group.isEmpty || results.any fun x => !(x.aggregates fuel).isEmpty
    let windowed := (results ++ q.order.map (·.expr)).any (·.hasWindow fuel)
    if isAggregate || windowed then do
      let passed ← if openRows then rows.filterM fun row => passes row perRow else pure []
      let width := match rows with
        | row :: _ => row.length
        | [] => 0
      let groups ← if isAggregate then groupRows env fuel q width passed
        else pure (passed.map fun row => ({ row } : GroupRow))
      let groups ← match q.having with
        | some h => groups.filterM fun g => do return !(← evalJump (env.atGroup g []) fuel false true h)
        | none => pure groups
      let (shown, calls) := extractAllWindows fuel 0 results
      let (orderShown, more) := extractAllWindows fuel calls.length (q.order.map (·.expr))
      let valued ← windowTable env fuel (calls ++ more) groups
      let out ← valued.mapM fun (g, ws) => do
        let here := env.atGroup g ws
        let values ← shown.mapM (evalExpr here fuel)
        let keys ← orderShown.mapM fun x => do return (← evalExpr here fuel x).value
        pure (values, keys)
      let colls := results.map fun x => collationOfName (x.collationName fuel)
      let out := if q.distinct then
          out.foldl (fun (acc : List (List Tagged × List SqlValue)) r =>
            if acc.any fun (prev, _) => sameRow colls (prev.map (·.value)) (r.1.map (·.value)) then acc
            else acc ++ [r]) []
        else out
      let out := if q.order.isEmpty then out
        else out.mergeSort fun a b => compareByTerms fuel a.2 b.2 q.order != .gt
      return applyWindow limit start (out.map (·.1))
    else
      let colls := results.map fun x => collationOfName (x.collationName fuel)
      let sorted := !q.order.isEmpty
      let capacity : Option Nat := match limit with
        | some n => if n > 0 then some (start + n.toNat) else none
        | none => none
      let scan ← if !openRows then pure ({} : Scan) else
        rows.foldlM (fun (s : Scan) row =>
          if s.full then pure s
          else do
            if !(← passes row perRow) then return s
            if !q.distinct && !sorted && s.skip < start then
              return { s with skip := s.skip + 1 }
            let here := env.enter row
            let values ← results.mapM (evalExpr here fuel)
            if q.distinct && s.kept.any fun (prev, _) =>
                sameRow colls (prev.map (·.value)) (values.map (·.value)) then
              return s
            if q.distinct && !sorted && s.skip < start then
              return { s with skip := s.skip + 1, kept := s.kept ++ [(values, [])] }
            let keys ← q.order.mapM fun t => do return (← evalExpr here fuel t.expr).value
            let kept := s.kept ++ [(values, keys)]
            let full := !sorted && capacity.any fun c => kept.length + (if q.distinct then 0 else s.skip) ≥ c
            return { s with kept, full }) {}
      if sorted then
        let ordered := scan.kept.mergeSort fun a b => compareByTerms fuel a.2 b.2 q.order != .gt
        return applyWindow limit start (ordered.map (·.1))
      else if q.distinct then
        return applyWindow limit start (scan.kept.map (·.1))
      else
        return applyWindow limit 0 (scan.kept.map (·.1))

/-- A group's bare columns: its first row, or the last where a one-argument `min`/`max` took a
value; `NULL`s when empty. -/
def bareRow (env : Env) : Nat → List Expr → Nat → List (List Tagged) → Except SqlError (List Tagged)
  | 0, _, _, _ => .ok []
  | fuel + 1, exprs, width, group => do
    let calls := exprs.flatMap (·.aggregateCalls fuel)
    let extreme := (calls.filter fun (f, args, _) =>
      args.length == 1 && (f.toUpper == "MIN" || f.toUpper == "MAX")).getLast?
    let blank := List.replicate width (plain .null)
    match extreme with
    | some (f, args, _) => do
      let coll := collationOfName ((args.find? fun x => (x.collationName fuel).isSome).bind
        (·.collationName fuel))
      let valued ← group.mapM fun row => do
        let v ← evalExpr (env.enter row) fuel (args.headD (.literal .null))
        pure (row, v.value)
      pure ((extremeRow (f.toUpper == "MAX") coll valued).getD blank)
    | none => pure (group.headD blank)

/-- An aggregate query's groups: one without `GROUP BY`, else runs of equal values after a
stable sort. -/
def groupRows (env : Env) : Nat → Select → Nat → List (List Tagged) → Except SqlError (List GroupRow)
  | 0, _, _, _ => .ok []
  | fuel + 1, q, width, rows => do
    let exprs := q.resultExprs ++ q.order.map (·.expr) ++ q.having.toList
    if q.group.isEmpty then do
      let bare ← bareRow env fuel exprs width rows
      pure [{ row := bare, group := some rows }]
    else do
      let keyed ← rows.mapM fun row => do
        let keys ← q.group.mapM fun x => do return (← evalExpr (env.enter row) fuel x).value
        pure (row, keys)
      let terms := q.group.map fun x => ({ expr := x } : OrderTerm)
      let sorted := keyed.mergeSort fun a b => compareByTerms fuel a.2 b.2 terms != .gt
      let runs := splitRuns (fun a b => compareByTerms fuel a.2 b.2 terms == .eq) sorted
      runs.mapM fun run => do
        let members := run.map (·.1)
        let bare ← bareRow env fuel exprs width members
        pure { row := bare, group := some members }

/-- Rows with window values: as they are without calls, else sorted stably by the first call's
partition and order. -/
def windowTable (env : Env) : Nat → List Expr → List GroupRow →
    Except SqlError (List (GroupRow × List Tagged))
  | 0, _, rows => .ok (rows.map (·, []))
  | fuel + 1, calls, rows =>
    match calls with
    | [] => .ok (rows.map (·, []))
    | first :: _ => do
      let sorted ← match first with
        | .over _ _ _ _ (some w) => do
          let keyed ← rows.mapM fun g => do
            let keys ← w.exprs.mapM fun x => do return (← evalExpr (env.atGroup g []) fuel x).value
            pure (g, keys)
          let terms := w.partition.map (fun x => ({ expr := x } : OrderTerm)) ++ w.order
          pure ((keyed.mergeSort fun a b => compareByTerms fuel a.2 b.2 terms != .gt).map (·.1))
        | _ => pure rows
      let columns ← calls.mapM fun c => windowColumn env fuel c sorted
      pure (sorted.zipIdx.map fun (g, i) => (g, columns.map fun col => col.getD i (plain .null)))

/-- A window call's values: rows sorted by partition and order, each partition computed, in row
order. -/
def windowColumn (env : Env) : Nat → Expr → List GroupRow → Except SqlError (List Tagged)
  | 0, _, rows => .ok (rows.map fun _ => plain .null)
  | fuel + 1, call, rows =>
    match call with
    | .over f args _ filter (some w) => do
      let keyed ← rows.zipIdx.mapM fun (g, i) => do
        let here := env.atGroup g []
        let parts ← w.partition.mapM fun x => do return (← evalExpr here fuel x).value
        let keys ← w.order.mapM fun t => do return (← evalExpr here fuel t.expr).value
        pure (i, g, parts, keys)
      let partTerms := w.partition.map fun x => ({ expr := x } : OrderTerm)
      let sorted := keyed.mergeSort fun a b =>
        compareByTerms fuel (a.2.2.1 ++ a.2.2.2) (b.2.2.1 ++ b.2.2.2) (partTerms ++ w.order) != .gt
      let partitions := splitRuns (fun a b => compareByTerms fuel a.2.2.1 b.2.2.1 partTerms == .eq) sorted
      let valued ← partitions.mapM fun part =>
        partitionValues env fuel f args filter w (part.map fun (i, g, _, keys) => (i, g, keys))
      pure ((valued.flatten.mergeSort fun a b => a.1 ≤ b.1).map (·.2))
    | _ => .ok (rows.map fun _ => plain .null)

/-- A window function's values over one partition, each row with its position and order
values. -/
def partitionValues (env : Env) : Nat → String → List Expr → Option Expr → WindowSpec →
    List (Nat × GroupRow × List SqlValue) → Except SqlError (List (Nat × Tagged))
  | 0, _, _, _, _, part => .ok (part.map fun (i, _) => (i, plain .null))
  | fuel + 1, f, args, filter, w, part => do
    let n := part.length
    let runs := runNumbers (fun a b => compareByTerms fuel a.2.2 b.2.2 w.order == .eq) part
    let envAt := fun (j : Nat) => env.atGroup ((part[j]?.map (·.2.1)).getD { row := [] }) []
    let valueAt := fun (j : Nat) (x : Expr) => evalExpr (envAt j) fuel x
    let each := fun (k : Nat → Except SqlError Tagged) =>
      (part.zipIdx).mapM fun ((i, _), j) => do return (i, ← k j)
    let integer := fun (n : Nat) => pure (plain (.integer n))
    let arg := fun (k : Nat) => args.getD k (.literal .null)
    match f.toUpper with
    | "ROW_NUMBER" => each fun j => integer (j + 1)
    | "RANK" => each fun j => integer (rankAt runs j)
    | "DENSE_RANK" => each fun j => integer (denseRankAt runs j)
    | "PERCENT_RANK" => each fun j => pure (plain (.real (percentRankAt runs j)))
    | "CUME_DIST" => each fun j => pure (plain (.real (cumeDistAt runs j)))
    | "NTILE" => do
      let v ← valueAt 0 (arg 0)
      let buckets := v.value.integerValue
      if n > 0 && buckets ≤ 0 then
        .error (.windowArgument "argument of ntile must be a positive integer")
      else each fun j => integer (ntileAt buckets.toNat n j)
    | "LAG" | "LEAD" =>
      each fun j => do
        let offset ← match args with
          | _ :: o :: _ => (·.value) <$> valueAt j o
          | _ => pure (SqlValue.integer 1)
        let fallback := fun (_ : Unit) => match args with
          | _ :: _ :: d :: _ => valueAt j d
          | _ => pure (plain .null)
        if offset.isNull then fallback ()
        else
          let step := offset.integerValue
          let target : Int := if f.toUpper == "LAG" then (j : Int) - step else j + step
          if 0 ≤ target && target < n then valueAt target.toNat (arg 0) else fallback ()
    | name => do
      let frame := w.frame.getD { unit := .range, start := .unboundedPreceding, finish := .currentRow }
      let order := w.order.headD { expr := .literal .null }
      let coll := collationOfName (order.expr.collationName fuel)
      let orderValue := fun (j : Nat) => ((part[j]?.map (·.2.2)).getD []).headD .null
      -- a bound's offset, read at the partition's first row
      let offsetOf := fun (isStart : Bool) (x : Expr) => do
        let v ← valueAt 0 x
        let which := if isStart then "starting" else "ending"
        let found := if frame.unit == .range then rangeOffset? v.value
          else (frameCount? v.value).map fun m => SqlValue.integer m
        let kind := if frame.unit == .range then "number" else "integer"
        match found with
        | some off => pure off
        | none =>
          (.error (.windowArgument ("frame " ++ which ++ " offset must be a non-negative " ++ kind)) :
            Except SqlError SqlValue)
      let reachOf := fun (isStart : Bool) (b : FrameBound) =>
        match b with
        | .preceding x | .following x => do
          let off ← if n == 0 then pure (SqlValue.integer 0) else offsetOf isStart x
          let back := match b with
            | .preceding _ => true
            | _ => false
          pure (some (off, back))
        | _ => pure none
      let startOffset ← reachOf true frame.start
      let endOffset ← reachOf false frame.finish
      let reach := fun (isStart : Bool) (b : FrameBound) (offset : Option (SqlValue × Bool)) (i : Nat) =>
        match b, offset with
        | .unboundedPreceding, _ | .unboundedFollowing, _ => Reach.unbounded
        | .currentRow, _ => .currentRow
        | _, some (off, back) =>
          if frame.unit == .range then
            let x := orderValue i
            let numeric := match x with
              | .integer _ | .real _ => true
              | _ => false
            let down := back != order.descending
            let target := if !numeric then x else arithmetic (if down then .sub else .add) x off
            let admits := fun (j : Nat) =>
              let c := compareRangeValues coll (orderValue j) target
              if isStart != order.descending then c != .lt else c != .gt
            .within admits
          else if back then .preceding off.integerValue.toNat else .following off.integerValue.toNat
        | _, none => .currentRow
      let positions := fun (i : Nat) =>
        framePositions frame.unit (reach true frame.start startOffset i)
          (reach false frame.finish endOffset i) frame.exclude runs i
      match name with
      | "FIRST_VALUE" => each fun j =>
        match (positions j).head? with
        | some k => valueAt k (arg 0)
        | none => pure (plain .null)
      | "LAST_VALUE" => each fun j =>
        match (positions j).getLast? with
        | some k => valueAt k (arg 0)
        | none => pure (plain .null)
      | "NTH_VALUE" => each fun j =>
        (positions j).zipIdx.foldlM (fun (acc : Tagged) (k, step) => do
          let v ← valueAt k (arg 1)
          let wanted := match v.value.withNumericAffinity with
            | .integer m => if m > 0 then some m else none
            | .real x => if integerToReal (realToInteger x) == x && x > 0.0 then some (realToInteger x) else none
            | _ => none
          match wanted with
          | none => .error (.windowArgument "second argument to nth_value must be a positive integer")
          | some m => if m == step + 1 then valueAt k (arg 0) else pure acc) (plain .null)
      | _ => do
        let argRows ← (List.range n).mapM fun j => args.mapM (valueAt j)
        let keep ← (List.range n).mapM fun j =>
          match filter with
          | some c => do return !(← evalJump (envAt j) fuel false true c)
          | none => pure true
        let columns := args.zipIdx.map fun (x, k) =>
          match x.collationName fuel with
          | some c => Expr.collate (.column 0 k .none none) c
          | none => .column 0 k .none none
        each fun j =>
          let rows := ((positions j).filter fun k => keep.getD k false).map fun k => argRows.getD k []
          evalExpr { env with group := some rows } fuel (.call f columns false)

end

end PackageRegistry.Sql
