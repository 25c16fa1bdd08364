import Mathlib
import PackageRegistry.Proofs.Search.Bound
import PackageRegistry.Proofs.Store.Window
/-!
# What a filtered query selects

The registry reads its views through an engine (`Engine`). A condition holds of a row when the
engine's comparison of the column with the bound text is true (`Condition.Holds`).
`Engine.Answers` assumes a conjunction of conditions returns exactly the rows meeting every one,
as SQLite documents; under it a relational search selects what its bound admits.
-/

namespace PackageRegistry.Sql

/-! ## Reading the rows of a relation -/

namespace Relation

/-- The position and the column of a relation's column with a name. -/
def columnAt? (rel : Relation) (name : String) : Option (Nat × Column) :=
  (rel.source.columns.zipIdx.find? (·.1.name == name)).map fun ci => (ci.2, ci.1)

/-- The value a row holds in a named column, `NULL` for a name the relation lacks. -/
def valueAt (rel : Relation) (row : List SqlValue) (name : String) : SqlValue :=
  match rel.columnAt? name with
  | some (i, _) => row.getD i .null
  | none => .null

/-- The values of a row in the columns a query of the relation returns. -/
def project (rel : Relation) (row : List SqlValue) : List SqlValue :=
  rel.result.map (rel.valueAt row)

/-- The names of a relation's columns. -/
def columnNames (rel : Relation) : List String :=
  rel.source.columns.map (·.name)

end Relation

/-! ## Comparing a column with a bound value -/

/-- A value under numeric affinity, text read as a number by `num`. -/
def SqlValue.withNumericAffinityBy (num : List UInt8 → SqlValue) : SqlValue → SqlValue
  | .text bs => num bs
  | v => v

/-- The operator of a filter as an operator of the engine. -/
def binaryOpOf : Search.Comparator → BinaryOp
  | .eq => .eq
  | .gt => .gt
  | .ge => .ge
  | .lt => .lt
  | .le => .le

/-- The truth of `x op y` under a rule, `num` reading text as a number: both sides under the
rule's affinity, unknown when either is `NULL`, else the operator on their order. -/
def compareBy (num : List UInt8 → SqlValue) (rule : CompareRule) (op : Search.Comparator)
    (x y : SqlValue) : Option Bool :=
  let (p, q) :=
    if rule.affinity.isNumeric then (x.withNumericAffinityBy num, y.withNumericAffinityBy num)
    else if rule.affinity == .text then (x.withTextAffinity, y.withTextAffinity)
    else (x, y)
  if p.isNull || q.isNull then none
  else some (op.accepts (SqlValue.compareWith rule.collation p q))

/-- With the engine's own reading of text as a number, `compareBy` is the engine's comparison. -/
theorem compareBy_numericAffinityOf (rule : CompareRule) (op : Search.Comparator)
    (x y : SqlValue) : compareBy numericAffinityOf rule op x y = compareValues rule (binaryOpOf op) x y := by
  have hprep : (if rule.affinity.isNumeric then
      (x.withNumericAffinityBy numericAffinityOf, y.withNumericAffinityBy numericAffinityOf)
      else if rule.affinity == .text then (x.withTextAffinity, y.withTextAffinity) else (x, y)) =
      prepareOperands rule.affinity x y := by
    have hnum : ∀ v : SqlValue, v.withNumericAffinityBy numericAffinityOf = v.withNumericAffinity :=
      fun v => by cases v <;> rfl
    simp only [prepareOperands, hnum]
  simp only [compareBy, hprep, compareValues]
  cases op <;> rfl

/-- Under a numeric affinity, a comparison of two values that are not `NULL` once read as
numbers is the operator's reading of their order. -/
theorem compareBy_of_numeric {num : List UInt8 → SqlValue} {rule : CompareRule}
    (haff : rule.affinity.isNumeric = true) (op : Search.Comparator) {x y : SqlValue}
    (hx : (x.withNumericAffinityBy num).isNull = false)
    (hy : (y.withNumericAffinityBy num).isNull = false) :
    compareBy num rule op x y = some (op.accepts (SqlValue.compareWith rule.collation
      (x.withNumericAffinityBy num) (y.withNumericAffinityBy num))) := by
  simp only [compareBy, haff, if_true, hx, hy, Bool.or_false, Bool.false_eq_true, if_false]

/-- The rule a column is compared with a bound value by: the column's affinity, which a bound
value, having none, takes on, and the column's collation. -/
def Column.boundRule (c : Column) : CompareRule := ⟨c.affinity, collationOfName c.collation⟩

/-- The truth of `column op value` in a row of a relation, the value bound as text; unknown
for a name the relation lacks. -/
def Relation.compareAt (num : List UInt8 → SqlValue) (rel : Relation) (row : List SqlValue)
    (name : String) (op : Search.Comparator) (value : String) : Option Bool :=
  match rel.columnAt? name with
  | some (i, col) => compareBy num col.boundRule op (row.getD i .null) (.ofString value)
  | none => none

/-- Whether `subject LIKE pattern`, without an escape character, is true as the engine matches
it. -/
def likeMatches (subject : SqlValue) (pattern : String) : Bool :=
  match matchPattern false (.ofString pattern) subject none with
  | .ok (.integer 1) => true
  | _ => false

end PackageRegistry.Sql

namespace PackageRegistry.Search

open PackageRegistry.Sql

/-- Whether a row meets a condition, its values bound: the comparison, both range comparisons,
or some column like its pattern. -/
def Condition.Holds (num : List UInt8 → SqlValue) (rel : Relation) (row : List SqlValue) :
    Condition → Prop
  | .compare c op v => rel.compareAt num row c op v = some true
  | .between c lo hi =>
    rel.compareAt num row c .ge lo = some true ∧ rel.compareAt num row c .le hi = some true
  | .anyLike p ps => ∃ q ∈ p :: ps, likeMatches (rel.valueAt row q.1) q.2 = true

/-- Whether a condition holds of a row is decided by evaluating it. -/
instance (num : List UInt8 → SqlValue) (rel : Relation) (row : List SqlValue) :
    DecidablePred (Condition.Holds num rel row) := fun c => by
  cases c <;> unfold Condition.Holds <;> infer_instance

/-- The conditions a bound sets on a column hold of a row exactly when the bound admits the
column's value, compared as `ord` says. -/
theorem holds_condition?_iff {num : List UInt8 → SqlValue} {rel : Relation}
    {row : List SqlValue} {column : String} {α : Type} {write : α → String} {ord : α → Ordering}
    (hcmp : ∀ (op : Comparator) (a : α),
      rel.compareAt num row column op (write a) = some (op.accepts (ord a))) :
    ∀ b : Bound α,
      (∀ x ∈ ((b.value write).condition? column).toList, x.Holds num rel row) ↔
        b.admits ord = true
  | .compare op a => by
    simp [Bound.value, RelationalValue.condition?, Condition.Holds, Bound.admits, hcmp]
  | .range none none => by
    simp [Bound.value, RelationalValue.condition?, Bound.admits]
  | .range none (some hi) => by
    simp [Bound.value, RelationalValue.condition?, Condition.Holds, Bound.admits, hcmp]
  | .range (some lo) none => by
    simp [Bound.value, RelationalValue.condition?, Condition.Holds, Bound.admits, hcmp]
  | .range (some lo) (some hi) => by
    simp [Bound.value, RelationalValue.condition?, Condition.Holds, Bound.admits, hcmp]

/-! ## The order a search writes -/

/-- An order the compiler writes over some columns: one or more `column ASC` or `column DESC`
terms, all in one direction, joined by `, `. -/
def OrderText (columns : List String) (orderBy : String) : Prop :=
  ∃ cols : List String, ∃ dir : SortOrder, cols ≠ [] ∧ (∀ c ∈ cols, c ∈ columns) ∧
    orderBy = ", ".intercalate (cols.map (· ++ " " ++ dir.text))

/-- The ordering a mapping writes for a request is an order over the mapping's columns. -/
theorem orderExpression_orderText {m : ColumnMapping} {default : String} (hd : default ∈ m.names)
    {requested : List String} {order : Option String} {s : String}
    (hs : orderExpression m requested order default = .ok s) : OrderText m.columns s := by
  have hwrite : ∀ keys : List String, keys ≠ [] → (∀ k ∈ keys, k ∈ m.names) →
      (do
        let parts ← keys.mapM fun k => do
          let c ← m.columnFor k
          pure (c ++ " " ++ (sanitizeOrder order).text)
        pure (", ".intercalate parts) : Except SearchError String) = .ok s →
      OrderText m.columns s := by
    intro keys hne hmem hs
    have hcols : (keys.filterMap m.column?).mapM (fun c =>
        (pure (c ++ " " ++ (sanitizeOrder order).text) : Except SearchError String)) =
        .ok ((keys.filterMap m.column?).map (· ++ " " ++ (sanitizeOrder order).text)) :=
      mapM_eq_ok fun _ _ => rfl
    rw [mapM_columnFor hmem, hcols, ok_bind, pure_eq_ok, Except.ok.injEq] at hs
    refine ⟨keys.filterMap m.column?, sanitizeOrder order, ?_, ?_, hs.symm⟩
    · obtain ⟨k, ks, rfl⟩ := List.exists_cons_of_ne_nil hne
      obtain ⟨c, -, hc⟩ := ColumnMapping.exists_column?_of_mem (hmem k List.mem_cons_self)
      simp [hc]
    · intro c hc
      obtain ⟨k, -, hk⟩ := List.mem_filterMap.mp hc
      exact ColumnMapping.mem_columns_of_column? hk
  -- the keys are the sanitized ones, or the default alone when none is left
  cases h : sanitizeSort requested m.names with
  | nil =>
    exact hwrite [default] (by simp) (by simpa using hd) (by simpa only [orderExpression, h] using hs)
  | cons k ks =>
    exact hwrite (k :: ks) (by simp) (fun k' hk' => mem_of_mem_sanitizeSort (h ▸ hk'))
      (by simpa only [orderExpression, h] using hs)

/-- A compiled search orders by the entity's sort columns. -/
theorem EntitySearch.compile_orderText {e : EntitySearch} (he : e.Valid) {query : SearchQuery}
    {page : PageRequest} {sort : SortRequest} {c : CompiledSearch}
    (hc : e.compile query page sort = .ok c) : OrderText e.sortColumns.columns c.orderBy := by
  obtain ⟨orderBy, horder⟩ :=
    orderExpression_eq_ok (m := e.sortColumns) sort.keys (some sort.order) he.defaultSort_mem
  have hcompile : c.orderBy = orderBy := by
    simp only [EntitySearch.compile, EntitySearch.filterOf_eq_conjunction he, horder, ok_bind,
      pure_eq_ok, Except.ok.injEq] at hc
    rw [← hc]
  rw [hcompile]
  exact orderExpression_orderText he.defaultSort_mem horder

end PackageRegistry.Search

namespace PackageRegistry.Store

open PackageRegistry.Sql PackageRegistry.Search

/-! ## Engines -/

/-- A database engine: the connection it runs a query over a relation of a database with. -/
abbrev Engine := Database → Relation → ViewRunner

/-- What SQLite is assumed to answer for a conjunction of conditions ordered by columns, as it
documents `SELECT … WHERE … ORDER BY`: exactly the rows meeting every condition. -/
def Engine.Answers (engine : Engine) (num : List UInt8 → SqlValue) (db : Database)
    (rel : Relation) (cs : List Condition) : Prop :=
  ∀ orderBy, OrderText rel.columnNames orderBy → ∀ fragment binds,
    boundFilter (conjunction cs).fragment ((conjunction cs).params.map .text) =
      .ok (fragment, binds) →
    ∃ rows, (engine db rel (queryTail fragment orderBy none none) binds).2 = .ok rows ∧
      ∀ out, out ∈ rows ↔ ∃ row ∈ rel.rows, (∀ c ∈ cs, c.Holds num rel row) ∧ out = rel.project row

/-- A list split where a test holds has one more piece than places it holds. -/
theorem length_splitOnP {α : Type} (p : α → Bool) :
    ∀ l : List α, (l.splitOnP p).length = l.countP p + 1
  | [] => by simp [List.splitOnP_nil]
  | x :: xs => by
    rw [List.splitOnP_cons_eq_if_modifyHead]
    split <;> simp [length_splitOnP p xs, *]

/-- A filter with one value per placeholder binds its values by name. -/
theorem boundFilter_eq_ok {filter : String} {params : List Parameter}
    (h : placeholderCount filter = params.length) :
    ∃ fragment binds, boundFilter filter params = .ok (fragment, binds) := by
  unfold boundFilter
  split
  · exact ⟨_, _, rfl⟩
  · have hlen : (filter.toList.splitOn '?').length = params.length + 1 := by
      rw [List.splitOn, length_splitOnP, ← h, placeholderCount, List.count_eq_countP]
    unfold bindNamed
    split
    · next hsplit =>
      have := congrArg List.length hsplit
      simp [hlen] at this
    · next first pieces hsplit =>
      have hpieces : pieces.length = params.length := by
        have := congrArg List.length hsplit
        simp only [List.length_map, hlen, List.length_cons] at this
        omega
      simp [hpieces]

/-- A query without a window, filtered by conditions and ordered by columns, returns through an
engine answering it exactly the rows meeting every condition. -/
theorem queryViewWith_answers {engine : Engine} {num : List UInt8 → SqlValue} {db : Database}
    {rel : Relation} {cs : List Condition} (h : engine.Answers num db rel cs)
    (hcols : ∀ c ∈ cs, ∀ x ∈ c.columns, isIdentifier x = true) {orderBy : String}
    (horder : OrderText rel.columnNames orderBy) :
    ∃ rows, (queryViewWith (engine db rel) db (conjunction cs).fragment
        ((conjunction cs).params.map .text) orderBy none none).2 = .ok rows ∧
      ∀ out, out ∈ rows ↔ ∃ row ∈ rel.rows, (∀ c ∈ cs, c.Holds num rel row) ∧ out = rel.project row := by
  have hcount : placeholderCount (conjunction cs).fragment =
      ((conjunction cs).params.map Parameter.text).length := by
    rw [List.length_map]
    exact placeholderCount_conjunction hcols
  obtain ⟨fragment, binds, hb⟩ := boundFilter_eq_ok hcount
  obtain ⟨rows, hrun, hmem⟩ := h orderBy horder fragment binds hb
  refine ⟨rows, ?_, hmem⟩
  rw [boundFilter] at hb
  simp only [queryViewWith, Option.any_none, Bool.or_false, Bool.false_eq_true, if_false, hb,
    List.append_nil, hrun]
  rfl

/-- An engine answering every query with the rows meeting fixed conditions, whatever the text. -/
def filterEngine (num : List UInt8 → SqlValue) (cs : List Condition) : Engine :=
  fun db rel _ _ =>
    (db, .ok ((rel.rows.filter fun row => decide (∀ c ∈ cs, c.Holds num rel row)).map rel.project))

/-- An engine that filters by some conditions answers any others that hold on the same rows of
the relation. -/
theorem filterEngine_answers_of_iff {num : List UInt8 → SqlValue} {cs cs' : List Condition}
    {db : Database} {rel : Relation}
    (h : ∀ row ∈ rel.rows, (∀ c ∈ cs, c.Holds num rel row) ↔ (∀ c ∈ cs', c.Holds num rel row)) :
    (filterEngine num cs).Answers num db rel cs' := by
  intro orderBy _ fragment binds _
  refine ⟨_, rfl, fun out => ?_⟩
  simp only [List.mem_map, List.mem_filter, decide_eq_true_eq]
  constructor
  · rintro ⟨row, ⟨hrow, hholds⟩, rfl⟩
    exact ⟨row, hrow, (h row hrow).mp hholds, rfl⟩
  · rintro ⟨row, hrow, hholds, rfl⟩
    exact ⟨row, ⟨hrow, (h row hrow).mpr hholds⟩, rfl⟩

/-- The engine that filters rows by the conditions answers them. -/
theorem filterEngine_answers (num : List UInt8 → SqlValue) (cs : List Condition) (db : Database)
    (rel : Relation) : (filterEngine num cs).Answers num db rel cs :=
  filterEngine_answers_of_iff fun _ _ => Iff.rfl

/-! ## A query of one relational qualifier -/

/-- The columns of a condition a bound sets are the qualifier's column. -/
theorem columns_bound_condition? {column : String} {α : Type} {write : α → String}
    (b : Bound α) : ∀ x ∈ ((b.value write).condition? column).toList, ∀ y ∈ x.columns,
      y = column := by
  intro x hx
  exact RelationalValue.columns_of_condition? (Option.mem_toList.mp hx)

/-- A query of one relational qualifier `key:b` of a valid entity, run without a window through
an engine answering the bound's condition, returns exactly the rows meeting it. -/
theorem compileRequest_bound_selects {e : EntitySearch} (he : e.Valid)
    (hkeys : (e.qualifiers.map (·.1)).Nodup) {k : String} {q : Qualifier}
    (hk : (k, q) ∈ e.qualifiers) (hkey : KeyText k) (hrel : q.kind = .relational)
    {α : Type} {write : α → String} (hw : ∀ a, PlainOperand (write a)) (b : Bound α)
    (sort order page perPage : Option String) {engine : Engine} {num : List UInt8 → SqlValue}
    {db : Database} {rel : Relation}
    (hsorts : ∀ c ∈ e.sortColumns.columns, c ∈ rel.columnNames)
    (h : engine.Answers num db rel ((b.value write).condition? q.column).toList) :
    ∃ c, e.compileRequest (some (k ++ ":" ++ b.text write)) sort order page perPage = .ok c ∧
      ∃ rows, (queryViewWith (engine db rel) db c.filter (c.params.map .text) c.orderBy
          none none).2 = .ok rows ∧
        ∀ out, out ∈ rows ↔ ∃ row ∈ rel.rows,
          (∀ x ∈ ((b.value write).condition? q.column).toList, x.Holds num rel row) ∧
            out = rel.project row := by
  have hconds := EntitySearch.conditions_bound he hkeys hk hkey hrel hw b
  obtain ⟨orderBy, hc⟩ := EntitySearch.compile_eq_ok he
    (SearchQuery.parse (k ++ ":" ++ b.text write)) (PageRequest.ofParams page perPage)
    (SortRequest.ofParams sort order)
  rw [hconds] at hc
  refine ⟨_, hc, ?_⟩
  obtain ⟨cols, dir, hne, hmem, hs⟩ := EntitySearch.compile_orderText he hc
  have horder : OrderText rel.columnNames orderBy :=
    ⟨cols, dir, hne, fun c hc => hsorts c (hmem c hc), hs⟩
  refine queryViewWith_answers h (fun x hx y hy => ?_) horder
  rw [columns_bound_condition? b x hx y hy]
  exact he.qualifier_identifier (k, q) hk

/-! ## Queries through an engine -/

/-- The packages a filter, an order and a window select through an engine. -/
def Registry.queryPackagesWith (engine : Engine) (r : Registry) (filter : String)
    (params : List Parameter) (orderBy : String) (limit offset : Option Int) :
    Except ReadError (List PackageRow) :=
  (queryViewWith (engine r.database r.packagesView) r.database filter params orderBy limit
    offset).2.map (·.map PackageRow.ofValues)

/-- The users a filter, an order and a window select through an engine. -/
def Registry.queryUsersWith (engine : Engine) (r : Registry) (filter : String)
    (params : List Parameter) (orderBy : String) (limit offset : Option Int) :
    Except ReadError (List UserRow) :=
  (queryViewWith (engine r.database r.usersView) r.database filter params orderBy limit
    offset).2.map (·.map UserRow.ofValues)

/-- The registry reads its packages through its own engine. -/
theorem Registry.queryPackages_eq (r : Registry) (filter : String) (params : List Parameter)
    (orderBy : String) (limit offset : Option Int) :
    r.queryPackages filter params orderBy limit offset =
      r.queryPackagesWith runNamed filter params orderBy limit offset := rfl

/-- The registry reads its users through its own engine. -/
theorem Registry.queryUsers_eq (r : Registry) (filter : String) (params : List Parameter)
    (orderBy : String) (limit offset : Option Int) :
    r.queryUsers filter params orderBy limit offset =
      r.queryUsersWith runNamed filter params orderBy limit offset := rfl

end PackageRegistry.Store
