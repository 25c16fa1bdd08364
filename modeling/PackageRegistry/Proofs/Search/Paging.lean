import Mathlib
import PackageRegistry.Proofs.Text.Integer
import PackageRegistry.Proofs.Search.Conditions
/-!
# The order and the window of a raw request

Compiling a raw request never fails (`compileRequest_order_and_window`): page and size read as
integers or default, the ordering lists the requested sort keys or the default, and the window
is the size within the ceiling.
-/

namespace PackageRegistry.Search

open PackageRegistry.Text

/-! ## Page parameters -/

/-- A page parameter's reading: the default when absent, else its trimmed text's integer, or the
default. -/
def ParamReads (raw : Option String) (default v : Int) : Prop :=
  match raw with
  | none => v = default
  | some s => IntegerText (trim s) v ∨ (∀ n, ¬ IntegerText (trim s) n) ∧ v = default

/-- A page parameter reads as a value exactly as stated by `ParamReads`. -/
theorem pageParam_eq_iff {raw : Option String} {default v : Int} :
    pageParam raw default = v ↔ ParamReads raw default v := by
  cases raw with
  | none => simp [pageParam, ParamReads, eq_comm]
  | some s =>
    simp only [pageParam, ParamReads, ← readInteger?_eq_some_iff]
    cases readInteger? (trim s) <;> simp [eq_comm]

/-- A page request's window: the size when positive and within the ceiling, else the ceiling,
and the rows of the pages before. -/
theorem clampPage_eq (page perPage maxPerPage : Int) :
    clampPage page perPage maxPerPage =
      ((if 0 < perPage ∧ perPage ≤ maxPerPage then perPage else maxPerPage),
        (max page 1 - 1) * (if 0 < perPage ∧ perPage ≤ maxPerPage then perPage else maxPerPage)) := by
  have hpage : (if page < 1 then 1 else page) = max page 1 := by
    split <;> omega
  have hsize : (if perPage ≤ 0 ∨ perPage > maxPerPage then maxPerPage else perPage) =
      if 0 < perPage ∧ perPage ≤ maxPerPage then perPage else maxPerPage := by
    split_ifs <;> omega
  simp only [clampPage, hpage, hsize]

/-! ## Sort keys and direction -/

/-- The sort keys a request names: its public sort fields, trimmed and lowercased, in order;
else the default key. -/
def requestedSortKeys (e : EntitySearch) (sort : Option String) : List String :=
  let keys := (((sort.map (·.splitOn ",")).getD []).map (toLower ∘ trim)).filter
    (· ∈ e.sortColumns.names)
  if keys = [] then [e.defaultSort] else keys

/-- A request's direction: `DESC` when its order text, trimmed and uppercased, is `DESC`, else
`ASC`. -/
def requestedDirection (order : Option String) : String :=
  if toUpper (trim (order.getD "")) = "DESC" then "DESC" else "ASC"

/-- The empty text split at commas is one empty piece. -/
theorem splitOn_comma_empty : "".splitOn "," = [""] := by
  simp [String.splitOn, String.splitOnAux, String.Pos.Raw.extract]

/-- Keeping the allowed keys is filtering the trimmed, lowercased keys by the allowed names,
when no allowed name is empty. -/
theorem sanitizeSort_eq_filter {allowed : List String} (hempty : "" ∉ allowed) :
    ∀ requested : List String,
      sanitizeSort requested allowed = (requested.map (toLower ∘ trim)).filter (· ∈ allowed)
  | [] => rfl
  | key :: keys => by
    have ih := sanitizeSort_eq_filter hempty keys
    simp only [sanitizeSort] at ih ⊢
    rw [List.filterMap_cons, ih, List.map_cons, List.filter_cons, Function.comp_apply]
    by_cases hk : toLower (trim key) ∈ allowed
    · have hne : toLower (trim key) ≠ "" := fun h => hempty (h ▸ hk)
      simp [hk, hne]
    · simp [hk]

/-- The keys a sort request keeps are those of `requestedSortKeys`, before the default. -/
theorem sanitizeSort_ofParams {m : ColumnMapping} (hm : m.Valid) (sort order : Option String) :
    sanitizeSort (SortRequest.ofParams sort order).keys m.names =
      (((sort.map (·.splitOn ",")).getD []).map (toLower ∘ trim)).filter (· ∈ m.names) := by
  have hempty : "" ∉ m.names := fun h => absurd (hm.names_public "" h) (by decide)
  rw [sanitizeSort_eq_filter hempty]
  -- an empty sort text names no field, where splitting it names the empty one
  rcases sort with _ | s
  · rfl
  · by_cases hs : s = ""
    · subst hs
      have hfield : toLower (trim "") = "" := by decide
      simp [SortRequest.ofParams, splitOn_comma_empty, hfield, hempty]
    · simp [SortRequest.ofParams, hs]

/-- The direction a request's order gives is the one it asks for. -/
theorem sanitizeOrder_ofParams (sort order : Option String) :
    (sanitizeOrder (some (SortRequest.ofParams sort order).order)).text =
      requestedDirection order := by
  have hasc : toUpper (trim "ASC") ≠ "DESC" := by decide
  have hnone : toUpper (trim "") ≠ "DESC" := by decide
  rcases order with _ | o
  · simp [SortRequest.ofParams, sanitizeOrder, requestedDirection, hasc, hnone, SortOrder.text]
  · by_cases ho : o = ""
    · subst ho
      simp [SortRequest.ofParams, sanitizeOrder, requestedDirection, hasc, hnone, SortOrder.text]
    · simp only [SortRequest.ofParams, String.isEmpty_iff, ho, if_false, sanitizeOrder,
        requestedDirection, Option.getD_some]
      split <;> rfl

/-! ## The ordering -/

/-- Keys that are all names of a mapping each have a column, and writing each column with a
direction succeeds with those columns. -/
theorem mapM_orderTerm_eq_ok {m : ColumnMapping} (dir : String) :
    ∀ keys : List String, (∀ k ∈ keys, k ∈ m.names) →
      ∃ cols : List String, keys.map m.column? = cols.map some ∧
        keys.mapM (fun k => do let c ← m.columnFor k; pure (c ++ " " ++ dir)) =
          (.ok (cols.map (· ++ " " ++ dir)) : Except SearchError _)
  | [], _ => ⟨[], rfl, rfl⟩
  | k :: ks, h => by
    obtain ⟨c, -, hc⟩ := ColumnMapping.exists_column?_of_mem (h k List.mem_cons_self)
    obtain ⟨cols, hcols, hks⟩ :=
      mapM_orderTerm_eq_ok dir ks fun k' hk' => h k' (List.mem_cons_of_mem k hk')
    have hck : m.columnFor k = .ok c := by simp [ColumnMapping.columnFor, hc]
    refine ⟨c :: cols, by simp [hc, hcols], ?_⟩
    rw [List.mapM_cons, hks, hck]
    rfl

/-- The ordering writes the column of each kept key, or of the default key when no key is kept,
each with the requested direction. -/
theorem orderExpression_eq_ok_keys {m : ColumnMapping} {default : String} (hd : default ∈ m.names)
    (requested : List String) (order : Option String) :
    ∃ cols : List String, (if sanitizeSort requested m.names = [] then [default]
        else sanitizeSort requested m.names).map m.column? = cols.map some ∧
      orderExpression m requested order default =
        .ok (", ".intercalate (cols.map (· ++ " " ++ (sanitizeOrder order).text))) := by
  unfold orderExpression
  cases h : sanitizeSort requested m.names with
  | nil =>
    obtain ⟨cols, hcols, hparts⟩ :=
      mapM_orderTerm_eq_ok (m := m) (sanitizeOrder order).text [default] (by simpa using hd)
    simp only [pure_eq_ok] at hparts ⊢
    exact ⟨cols, hcols, by simp only [hparts, ok_bind]⟩
  | cons k ks =>
    obtain ⟨cols, hcols, hparts⟩ := mapM_orderTerm_eq_ok (m := m) (sanitizeOrder order).text
      (k :: ks) fun k' hk' => mem_of_mem_sanitizeSort (h ▸ hk')
    simp only [pure_eq_ok] at hparts ⊢
    exact ⟨cols, by simpa using hcols, by simp only [hparts, ok_bind]⟩

/-! ## Compiled requests -/

namespace EntitySearch

/-- A request to a valid entity orders by the sort keys asked for, in the direction asked, and takes
the page asked for within the page-size ceiling. -/
theorem compileRequest_order_and_window {e : EntitySearch} (he : e.Valid)
    (hsort : e.sortColumns.Valid) (q sort order page perPage : Option String) {pg pp : Int}
    (hpg : ParamReads page 1 pg) (hpp : ParamReads perPage 0 pp) :
    ∃ c, e.compileRequest q sort order page perPage = .ok c ∧
      (∃ cols : List String, (requestedSortKeys e sort).map e.sortColumns.column? = cols.map some ∧
        c.orderBy = ", ".intercalate (cols.map (· ++ " " ++ requestedDirection order))) ∧
      c.limit = (if 0 < pp ∧ pp ≤ e.maxPageSize then pp else e.maxPageSize) ∧
      1 ≤ c.limit ∧ c.limit ≤ e.maxPageSize ∧
      c.offset = (max pg 1 - 1) * c.limit ∧ 0 ≤ c.offset := by
  obtain ⟨cols, hcols, horder⟩ := orderExpression_eq_ok_keys he.defaultSort_mem
    (SortRequest.ofParams sort order).keys (some (SortRequest.ofParams sort order).order)
  rw [sanitizeSort_ofParams hsort, sanitizeOrder_ofParams] at *
  have hpage : pageParam page 1 = pg := pageParam_eq_iff.mpr hpg
  have hper : pageParam perPage 0 = pp := pageParam_eq_iff.mpr hpp
  have hmax := he.maxPageSize_pos
  set size := if 0 < pp ∧ pp ≤ e.maxPageSize then pp else e.maxPageSize with hsize
  have hlimit : 1 ≤ size ∧ size ≤ e.maxPageSize := by
    rw [hsize]
    split <;> omega
  have hoffset : 0 ≤ (max pg 1 - 1) * size := mul_nonneg (by omega) (by omega)
  -- the filter is the query's own part, which `compile_eq_ok` describes
  let filter := conjunction (e.conditions (SearchQuery.parse (q.getD "")))
  refine ⟨⟨filter.fragment, filter.params, _, size, (max pg 1 - 1) * size⟩, ?_, ⟨cols, hcols, rfl⟩,
    rfl, hlimit.1, hlimit.2, rfl, hoffset⟩
  simp only [compileRequest, compile, filterOf_eq_conjunction he, horder, ok_bind,
    PageRequest.ofParams, hpage, hper, clampPage_eq, pure_eq_ok]
  rfl

/-- The packages entity's sort mapping is valid. -/
theorem packages_sortColumns_valid : packages.sortColumns.Valid where
  names_nodup := by decide
  names_public := by decide
  columns_identifier := by decide

/-- The third page of ten packages, page and size read through blanks and an underscore, starts
after twenty packages. -/
theorem packages_third_page_of_ten :
    ∃ c, packages.compileRequest none (some "Name") (some " desc ") (some " 3") (some "1_0") =
      .ok c ∧ c.limit = 10 ∧ c.offset = 20 := by
  have hpg : ParamReads (some " 3") 1 3 := .inl (readInteger?_eq_some_iff.mp (by decide))
  have hpp : ParamReads (some "1_0") 0 10 := .inl (readInteger?_eq_some_iff.mp (by decide))
  obtain ⟨c, hc, -, hlimit, -, -, hoffset, -⟩ :=
    compileRequest_order_and_window packages_valid packages_sortColumns_valid none (some "Name")
      (some " desc ") (some " 3") (some "1_0") hpg hpp
  have hten : c.limit = 10 := by
    rw [hlimit]
    decide
  exact ⟨c, hc, hten, by rw [hoffset, hten]; decide⟩

end EntitySearch

end PackageRegistry.Search
