import Mathlib
import PackageRegistry.Proofs.Search.Conditions
import PackageRegistry.Proofs.Search.QualifierMap
/-!
# What a compiled filter asks of a row

`EntitySearch.requestedConditions` reads the conditions from the query as given: some word of a
non-blank term in some selected in-field, then each qualifier with a value. The compiler's
default `in` agrees when no public in-field name has a comma or a `+`.
-/

namespace PackageRegistry.Search

open PackageRegistry.Text

/-! ## Reading the `in` value -/

/-- The listed fields' columns are the columns the mapping gives the listed names: an empty
name has none. -/
theorem listedColumns_eq {m : ColumnMapping} (hm : m.Valid) (inValue : String) :
    listedColumns m inValue =
      (inValue.toList.splitOn ',').filterMap fun n =>
        m.column? (toLower (trim (String.ofList n))) := by
  rw [listedColumns, listedFields, List.filterMap_filterMap]
  refine List.filterMap_congr fun n _ => ?_
  by_cases hf : (toLower (trim (String.ofList n))) ∈ m.names
  · have hne := (ColumnMapping.toLower_trim_of_isPublicName (hm.names_public _ hf)).2
    have hc : m.contains (toLower (trim (String.ofList n))) = true :=
      ColumnMapping.contains_iff.mpr hf
    simp [hne, hc]
  · have hc : m.contains (toLower (trim (String.ofList n))) = false :=
      Bool.eq_false_iff.mpr (mt ColumnMapping.contains_iff.mp hf)
    simp [hc, ColumnMapping.column?_eq_none hf]

/-- A value without `+` decodes to itself. -/
theorem decodeValue_of_not_mem {s : String} (h : '+' ∉ s.toList) : decodeValue s = s := by
  have hmap : (s.toList.map fun c => if c = '+' then ' ' else c) = s.toList.map id :=
    List.map_congr_left fun c hc => if_neg fun (hp : c = '+') => h (hp ▸ hc)
  rw [decodeValue, hmap, List.map_id, String.ofList_toList]

/-- A character of a join is in the separator or in one of the joined texts. -/
theorem mem_of_mem_intercalate {sep : List Char} {c : Char} :
    ∀ {ls : List (List Char)}, c ∈ sep.intercalate ls → c ∈ sep ∨ ∃ l ∈ ls, c ∈ l
  | [], h => by simp at h
  | [l], h => .inr ⟨l, List.mem_singleton_self l, by simpa using h⟩
  | l :: l' :: ls, h => by
    rw [List.intercalate_cons_cons] at h
    rcases List.mem_append.mp h with h | h
    · rcases List.mem_append.mp h with h | h
      · exact .inr ⟨l, List.mem_cons_self, h⟩
      · exact .inl h
    · rcases mem_of_mem_intercalate h with h | ⟨l'', hl'', h⟩
      · exact .inl h
      · exact .inr ⟨l'', List.mem_cons_of_mem l hl'', h⟩

/-- The default `in` value selects every in-field, in order, when no public name contains a
comma or a `+`. -/
theorem listedColumns_defaultIn {m : ColumnMapping} (hm : m.Valid)
    (hnames : ∀ n ∈ m.names, ',' ∉ n.toList ∧ '+' ∉ n.toList) :
    listedColumns m (decodeValue (",".intercalate m.names)) = m.columns := by
  have hplus : '+' ∉ (",".intercalate m.names).toList := by
    simp only [String.toList_intercalate]
    intro hp
    rcases mem_of_mem_intercalate hp with hsep | ⟨l, hl, hpl⟩
    · simp at hsep
    · obtain ⟨n, hn, rfl⟩ := List.mem_map.mp hl
      exact (hnames n hn).2 hpl
  rw [decodeValue_of_not_mem hplus, listedColumns_eq hm, String.toList_intercalate]
  cases hnil : m.names with
  | nil =>
    -- no names: no column either way
    have hentries : m.entries = [] := List.map_eq_nil_iff.mp hnil
    simp [ColumnMapping.columns, ColumnMapping.column?, hentries]
  | cons n ns =>
    have hcomma : ",".toList = [','] := rfl
    rw [← hnil, hcomma, List.splitOn_intercalate ','
      (fun l hl => by
        obtain ⟨n, hn, rfl⟩ := List.mem_map.mp hl
        exact (hnames n hn).1)
      (by simp [hnil]),
      List.filterMap_map]
    rw [← ColumnMapping.filterMap_column?_names hm.names_nodup]
    refine List.filterMap_congr fun n hn => ?_
    simp only [Function.comp_apply, String.ofList_toList,
      (ColumnMapping.toLower_trim_of_isPublicName (hm.names_public n hn)).1]

/-! ## The conditions a query asks for -/

namespace EntitySearch

/-- The in-field columns a query selects: all if its `in` value is missing or blank, else those
listed. -/
def selectedColumns (e : EntitySearch) (query : SearchQuery) : List String :=
  if isBlankText (query.get inQualifier) then e.inColumns.columns
  else ((decodeValue (query.get inQualifier)).toList.splitOn ',').filterMap fun n =>
    e.inColumns.column? (toLower (trim (String.ofList n)))

/-- The conditions a query asks for, as given: the free-text condition over the selected
in-fields, then each qualifier's in order. -/
def requestedConditions (e : EntitySearch) (query : SearchQuery) : List Condition :=
  let term := decodeValue query.term
  let text := if isBlankText term then none
    else anyLike? ((e.selectedColumns query).flatMap fun c => likePairs c term)
  (text :: e.qualifiers.map (qualifierCondition? query)).filterMap id

/-- The `in` value the compiler reads selects the in-fields the query asks for. -/
theorem listedColumns_get_withDefaults {e : EntitySearch} (hin : e.inColumns.Valid)
    (hnames : ∀ n ∈ e.inColumns.names, ',' ∉ n.toList ∧ '+' ∉ n.toList) (query : SearchQuery) :
    listedColumns e.inColumns
        (decodeValue ((query.withDefaults [(inQualifier, e.defaultIn)]).get inQualifier)) =
      e.selectedColumns query := by
  rw [get_withDefaults_self, selectedColumns]
  by_cases hb : isBlankText (query.get inQualifier) = true
  · simp only [hb, if_true]
    exact listedColumns_defaultIn hin hnames
  · simp only [hb, Bool.false_eq_true, if_false]
    exact listedColumns_eq hin _

/-- The qualifiers read the query as it was given: the `in` default never touches them. -/
theorem qualifierCondition?_withDefaults {e : EntitySearch} (he : e.Valid) (query : SearchQuery)
    {nq : String × Qualifier} (hnq : nq ∈ e.qualifiers) :
    qualifierCondition? (query.withDefaults [(inQualifier, e.defaultIn)]) nq =
      qualifierCondition? query nq := by
  have hne : nq.1 ≠ inQualifier := fun h => he.not_reserved (h ▸ List.mem_map_of_mem hnq)
  simp only [qualifierCondition?, get_withDefaults_of_ne _ _ hne]

/-- With in-field names free of `,` and `+`, a valid entity's conditions are those requested. -/
theorem conditions_eq_requestedConditions {e : EntitySearch} (he : e.Valid)
    (hin : e.inColumns.Valid)
    (hnames : ∀ n ∈ e.inColumns.names, ',' ∉ n.toList ∧ '+' ∉ n.toList) (query : SearchQuery) :
    e.conditions query = e.requestedConditions query := by
  simp only [conditions, requestedConditions, inCondition?, term_withDefaults,
    listedColumns_get_withDefaults hin hnames,
    List.map_congr_left fun nq hnq => qualifierCondition?_withDefaults he query hnq]

/-- Compiling a raw request against a valid entity with in-field names free of `,` and `+` gives
the asked filter. -/
theorem compileRequest_filter_meaning {e : EntitySearch} (he : e.Valid) (hin : e.inColumns.Valid)
    (hnames : ∀ n ∈ e.inColumns.names, ',' ∉ n.toList ∧ '+' ∉ n.toList)
    (q sort order page perPage : Option String) :
    ∃ c, e.compileRequest q sort order page perPage = .ok c ∧
      c.filter = (conjunction (e.requestedConditions (SearchQuery.parse (q.getD "")))).fragment ∧
      c.params = (conjunction (e.requestedConditions (SearchQuery.parse (q.getD "")))).params := by
  obtain ⟨orderBy, h⟩ := compile_eq_ok he (SearchQuery.parse (q.getD ""))
    (PageRequest.ofParams page perPage) (SortRequest.ofParams sort order)
  rw [conditions_eq_requestedConditions he hin hnames] at h
  generalize e.requestedConditions (SearchQuery.parse (q.getD "")) = cs at h
  rw [compileRequest]
  exact ⟨_, h, rfl, rfl⟩

/-- A packages request with free text, an `in` qualifier and a bound compiles to the conjunction of
the conditions it requests. -/
theorem compileRequest_filter_meaning_free_text_in_fields :
    packages.inColumns.Valid ∧
      (∀ n ∈ packages.inColumns.names, ',' ∉ n.toList ∧ '+' ∉ n.toList) ∧
      ∃ c, packages.compileRequest (some "web in:name,desc downloads:>10") none none none none =
          .ok c ∧
        c.filter = (conjunction (packages.requestedConditions
          (SearchQuery.parse "web in:name,desc downloads:>10"))).fragment ∧
        c.params = (conjunction (packages.requestedConditions
          (SearchQuery.parse "web in:name,desc downloads:>10"))).params :=
  have hin : packages.inColumns.Valid := ⟨by decide, by decide, by decide⟩
  ⟨hin, by decide, compileRequest_filter_meaning packages_valid hin (by decide) _ _ _ _ _⟩

end EntitySearch

end PackageRegistry.Search
