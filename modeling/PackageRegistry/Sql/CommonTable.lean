import PackageRegistry.Sql.Resolve
/-!
# Common tables

A `WITH` clause names queries read as tables by the query after it and by its own tables; each
reading is replaced by the named query, innermost clause first. A common table's last arms that
read it are its recursive arms; reading it anywhere else is a circular reference.
-/

namespace PackageRegistry.Sql

/-- A common table being read, whose readings are refused meanwhile: the clauses around it, its
name, and whether its recursive arms are being read. -/
structure Blocked where
  height : Nat
  name : String
  inRecursiveArms : Bool

/-- The first common table of a name in the clauses seen, innermost first, with its clause's
position. -/
def findCommonTable (visible : List (List CommonTable)) (name : String) :
    Option (Nat × CommonTable) :=
  (visible.zipIdx.findSome? fun (clause, i) =>
    (clause.find? (sameName ·.name name)).map (i, ·))

/-- How many sources of an arm's `FROM` clause read a table of this name without a schema. -/
def Select.readingsOf (arm : Select) (name : String) : Nat :=
  (((arm.source.map (·.steps)).getD []).filter fun step =>
    match step.item with
    | .table none n _ _ => sameName n name
    | _ => false).length

/-- An arm's sources with each reading of the named table made a reading of the recursive
table with these columns. -/
def FromItem.markRecursive (name : String) (columns : List String) : FromItem → FromItem
  | .table none n asName hint => if sameName n name then .recursive name columns asName else .table none n asName hint
  | .join left kind natural right on usingColumns =>
    .join (left.markRecursive name columns) kind natural (right.markRecursive name columns) on usingColumns
  | item => item

/-- The position of a common table's first recursive arm: the later arms, from the last back,
joined by the last's operator and reading the table. -/
def recursiveStart (q : Select) (name : String) : Option Nat :=
  let ops := q.compound.map (·.1)
  match ops.getLast? with
  | some op =>
    if op != .union && op != .unionAll then none
    else
      let arms := q.compound.zipIdx.reverse.takeWhile fun ((o, arm), _) =>
        o == op && arm.readingsOf name > 0
      (arms.getLast?).map fun (_, i) => i + 1
  | none => none

mutual

/-- A query with the readings of common tables replaced, seeing the clauses `visible` and its
own `WITH` clause. -/
def Select.inlineTables (db : Database) : Nat → List (List CommonTable) → List Blocked → Select →
    Select
  | 0, _, _, q => q
  | fuel + 1, visible, blocked, q =>
    let visible := if q.ctes.isEmpty then visible else q.ctes :: visible
    let head := Select.inlineArm db fuel visible blocked { q with compound := [], ctes := [] }
    { head with compound := q.compound.map fun (op, arm) => (op, Select.inlineArm db fuel visible blocked arm) }

/-- One arm of a query with the readings of common tables replaced. -/
def Select.inlineArm (db : Database) : Nat → List (List CommonTable) → List Blocked → Select →
    Select
  | 0, _, _, q => q
  | fuel + 1, visible, blocked, q =>
    let ex := fun (e : Expr) => Expr.inlineTables db fuel visible blocked e
    let window := fun (w : WindowSpec) =>
      { w with partition := w.partition.map ex, order := w.order.map fun t => { t with expr := ex t.expr } }
    { q with
      columns := q.columns.map fun
        | .expr e asName => .expr (ex e) asName
        | c => c
      source := q.source.map (FromItem.inlineTables db fuel visible blocked)
      filter := q.filter.map ex
      group := q.group.map ex
      having := q.having.map ex
      windows := q.windows.map fun (n, w) => (n, window w)
      order := q.order.map fun t => { t with expr := ex t.expr }
      limit := q.limit.map ex
      offset := q.offset.map ex }

/-- A source with the readings of common tables replaced. -/
def FromItem.inlineTables (db : Database) : Nat → List (List CommonTable) → List Blocked →
    FromItem → FromItem
  | 0, _, _, item => item
  | fuel + 1, visible, blocked, item =>
    match item with
    | .table none n asName hint =>
      match readCommonTable db fuel visible blocked n asName, hint with
      | some _, .indexedBy i => .refused (.noSuchIndex i)
      | some read, _ => read
      | none, _ => item
    | .function none n args asName =>
      if (findCommonTable visible n).isSome then .refused (.notFunction n)
      else .function none n (args.map (Expr.inlineTables db fuel visible blocked)) asName
    | .function schema n args asName =>
      .function schema n (args.map (Expr.inlineTables db fuel visible blocked)) asName
    | .subquery q asName => .subquery (Select.inlineTables db fuel visible blocked q) asName
    | .join left kind natural right on usingColumns =>
      .join (FromItem.inlineTables db fuel visible blocked left) kind natural
        (FromItem.inlineTables db fuel visible blocked right)
        (on.map (Expr.inlineTables db fuel visible blocked)) usingColumns
    | other => other

/-- The source a common table's name stands for: its query, its own readings replaced around
it. -/
def readCommonTable (db : Database) : Nat → List (List CommonTable) → List Blocked → String →
    Option String → Option FromItem
  | 0, _, _, _, _ => none
  | fuel + 1, visible, blocked, name, asName =>
    (findCommonTable visible name).map fun (i, c) =>
      let scope := visible.drop i
      let height := scope.length
      let body := c.query
      let scope := if body.ctes.isEmpty then scope else body.ctes :: scope
      let body := { body with ctes := [] }
      let given := distinctNames c.columns
      let checked := fun (names : Except SqlError (List String)) (q : Select) =>
        match names with
        | .ok names =>
          if !c.columns.isEmpty && names.length != c.columns.length then
            FromItem.refused (.commonTableColumns c.name names.length c.columns.length)
          else .subquery q (some (asName.getD c.name))
        | .error _ => .subquery q (some (asName.getD c.name))
      match blocked.find? fun b => b.height == height && sameName b.name c.name with
      | some b =>
        .refused (if b.inRecursiveArms then .multipleRecursiveReferences c.name else .circularReference c.name)
      | none =>
        let circular := blocked ++ [{ height, name := c.name, inRecursiveArms := false }]
        match recursiveStart body c.name with
        | none =>
          let q := Select.inlineTables db fuel scope circular body
          checked (q.resultNamesOf db fuel) { q with names := given }
        | some k =>
          let arms := body.compound.drop (k - 1)
          if arms.any fun (_, arm) => arm.readingsOf c.name > 1 then
            .refused (.multipleRecursiveTable c.name)
          else
            let setup := Select.inlineTables db fuel scope circular
              { body with compound := body.compound.take (k - 1), order := [], limit := none, offset := none }
            let names := setup.resultNamesOf db fuel
            let columns := if given.isEmpty then names.toOption.getD [] else given
            let inRecursive := blocked ++ [{ height, name := c.name, inRecursiveArms := true }]
            let recursive := arms.map fun (op, arm) =>
              (op, Select.inlineArm db fuel scope inRecursive
                { arm with source := arm.source.map (·.markRecursive c.name columns) })
            let ex := fun (e : Expr) => Expr.inlineTables db fuel scope inRecursive e
            checked names
              { setup with compound := setup.compound ++ recursive,
                           order := body.order.map fun t => { t with expr := ex t.expr },
                           limit := body.limit.map ex, offset := body.offset.map ex,
                           names := given, recursion := some k }

/-- An expression with the readings of common tables in its subqueries replaced. -/
def Expr.inlineTables (db : Database) : Nat → List (List CommonTable) → List Blocked → Expr → Expr
  | 0, _, _, e => e
  | fuel + 1, visible, blocked, e =>
    let ex := fun (x : Expr) => Expr.inlineTables db fuel visible blocked x
    let sub := fun (q : Select) => Select.inlineTables db fuel visible blocked q
    match e with
    | .unary op a => .unary op (ex a)
    | .binary op a b => .binary op (ex a) (ex b)
    | .isNull n a => .isNull n (ex a)
    | .like n op subject pattern escape => .like n op (ex subject) (ex pattern) (escape.map ex)
    | .between n a lo hi => .between n (ex a) (ex lo) (ex hi)
    | .inList n a items => .inList n (ex a) (items.map ex)
    | .inSelect n a q => .inSelect n (ex a) (sub q)
    | .exists q => .exists (sub q)
    | .scalar q => .scalar (sub q)
    | .vector items => .vector (items.map ex)
    | .case operand arms otherwise =>
      .case (operand.map ex) (arms.map fun (w, t) => (ex w, ex t)) (otherwise.map ex)
    | .cast a t => .cast (ex a) t
    | .call f args d => .call f (args.map ex) d
    | .collate a c => .collate (ex a) c
    | .isTruth n t a => .isTruth n t (ex a)
    | .over f args d filter w =>
      .over f (args.map ex) d (filter.map ex) (w.map fun w =>
        { w with partition := w.partition.map ex, order := w.order.map fun t => { t with expr := ex t.expr } })
    | other => other

end

end PackageRegistry.Sql
