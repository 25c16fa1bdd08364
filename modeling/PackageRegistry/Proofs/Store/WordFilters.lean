import Mathlib
import PackageRegistry.Proofs.Sql.LikeWord
/-!
# What a word filter selects

Free text and multi-word qualifiers become conditions `(c₁ like ? or …)` with `%word%` per word
and column. On a row of text or `NULL` such a condition holds exactly when some column contains
some word (`exists_likePairs_iff`), when `LIKE` reads each word as itself (`LikeWord`).
-/

namespace PackageRegistry.Search

open PackageRegistry.Sql PackageRegistry.Store PackageRegistry.Text

/-- Words of a value looked for in columns of text: some column's text contains some word. -/
theorem exists_likePairs_iff {cols : List String} {value : String} {rel : Relation}
    {row : List SqlValue} {text : String → Option String}
    (hrow : ∀ c ∈ cols, rel.valueAt row c = optText (text c))
    (hw : ∀ w ∈ words value, LikeWord w) :
    (∃ q ∈ cols.flatMap (likePairs · value), likeMatches (rel.valueAt row q.1) q.2 = true) ↔
      ∃ c ∈ cols, ∃ w ∈ words value, ∃ s, text c = some s ∧ ContainsLike s w := by
  simp only [List.mem_flatMap, likePairs, List.mem_map]
  constructor
  · rintro ⟨_, ⟨c, hc, w, hw', rfl⟩, hm⟩
    refine ⟨c, hc, w, hw', ?_⟩
    rw [hrow c hc] at hm
    cases ht : text c with
    | none =>
      rw [ht, optText, likeMatches_null] at hm
      cases hm
    | some s =>
      rw [ht, optText, likeMatches_word_iff (hw w hw')] at hm
      exact ⟨s, rfl, hm⟩
  · rintro ⟨c, hc, w, hw', s, ht, hs⟩
    refine ⟨(c, "%" ++ w ++ "%"), ⟨c, hc, w, hw', rfl⟩, ?_⟩
    rw [hrow c hc, ht, optText, likeMatches_word_iff (hw w hw')]
    exact hs

/-- A disjunction of `like` pairs holds the pairs it was made from. -/
theorem eq_of_anyLike? {ps : List (String × String)} {p : String × String}
    {qs : List (String × String)} (h : anyLike? ps = some (.anyLike p qs)) : p :: qs = ps := by
  cases ps with
  | nil => cases h
  | cons p' ps' =>
    cases h
    rfl

/-- A qualifier's disjunction of `like` pairs holds its column's word patterns. -/
theorem Qualifier.likePairs_of_condition? {q : Qualifier} {value : String}
    {p : String × String} {ps : List (String × String)}
    (h : q.condition? value = some (.anyLike p ps)) : p :: ps = likePairs q.column value := by
  unfold Qualifier.condition? at h
  split at h
  · revert h
    generalize RelationalValue.parse value = v
    intro h
    rcases v with ⟨op, a⟩ | ⟨_ | lo, _ | hi⟩ <;> cases h
  · exact eq_of_anyLike? h
  · cases h

/-- The free text's disjunction holds each listed column's word patterns. -/
theorem likePairs_of_inCondition? {columns : ColumnMapping} {term inValue : String}
    {p : String × String} {ps : List (String × String)}
    (h : inCondition? columns term inValue = some (.anyLike p ps)) :
    p :: ps = (listedColumns columns inValue).flatMap (likePairs · term) := by
  unfold inCondition? at h
  split at h
  · cases h
  · exact eq_of_anyLike? h

namespace EntitySearch

/-- A like condition of a query is the words of one value looked for in some columns. -/
theorem likePairs_of_mem_conditions {e : EntitySearch} {query : SearchQuery}
    {p : String × String} {ps : List (String × String)}
    (hc : Condition.anyLike p ps ∈ e.conditions query) :
    ∃ value : String, ∃ cols : List String, p :: ps = cols.flatMap (likePairs · value) := by
  simp only [conditions, List.filterMap_cons, id] at hc
  have hqual : Condition.anyLike p ps ∈
      (e.qualifiers.map (qualifierCondition? (query.withDefaults [(inQualifier, e.defaultIn)]))).filterMap id →
      ∃ value : String, ∃ cols : List String, p :: ps = cols.flatMap (likePairs · value) := by
    intro hq
    obtain ⟨o, ho, hoc⟩ := List.mem_filterMap.mp hq
    obtain ⟨nq, -, rfl⟩ := List.mem_map.mp ho
    rw [id, qualifierCondition?] at hoc
    split at hoc
    · cases hoc
    · rw [Qualifier.likePairs_of_condition? hoc]
      exact ⟨_, [nq.2.column], (List.flatMap_singleton _ _).symm⟩
  split at hc
  · exact hqual hc
  · next cin hin =>
    rcases List.mem_cons.mp hc with h | hc
    · subst h
      exact ⟨_, _, likePairs_of_inCondition? hin⟩
    · exact hqual hc

end EntitySearch

/-- Every like condition a query sets looks for one value's words in some columns. When no word
holds a wildcard or zero and each fits the pattern limit, it holds of a row of text or `NULL`
exactly when some column contains some word, ASCII letters in either case. -/
theorem likeConditions_select_containing {e : EntitySearch} {query : SearchQuery}
    {p : String × String} {ps : List (String × String)}
    (hc : Condition.anyLike p ps ∈ e.conditions query) :
    ∃ value : String, ∃ cols : List String, p :: ps = cols.flatMap (likePairs · value) ∧
      ∀ (num : List UInt8 → SqlValue) (rel : Relation) (row : List SqlValue)
        (text : String → Option String),
        (∀ c ∈ cols, rel.valueAt row c = optText (text c)) → (∀ w ∈ words value, LikeWord w) →
        ((Condition.anyLike p ps).Holds num rel row ↔
          ∃ c ∈ cols, ∃ w ∈ words value, ∃ s, text c = some s ∧ ContainsLike s w) := by
  obtain ⟨value, cols, hpairs⟩ := EntitySearch.likePairs_of_mem_conditions hc
  refine ⟨value, cols, hpairs, fun num rel row text hrow hw => ?_⟩
  show (∃ q ∈ p :: ps, _) ↔ _
  rw [hpairs]
  exact exists_likePairs_iff hrow hw

/-- The word `fmt` is searched for as `%fmt%` in the packages' name, description and tag. -/
theorem likeConditions_fmt_in_packages :
    Condition.anyLike ("name", "%fmt%") [("description", "%fmt%"), ("tag", "%fmt%")] ∈
        EntitySearch.packages.conditions (SearchQuery.parse "fmt") ∧
      ∃ value : String, ∃ cols : List String,
        ("name", "%fmt%") :: [("description", "%fmt%"), ("tag", "%fmt%")] =
          cols.flatMap (likePairs · value) ∧
        ∀ (num : List UInt8 → SqlValue) (rel : Relation) (row : List SqlValue)
          (text : String → Option String),
          (∀ c ∈ cols, rel.valueAt row c = optText (text c)) → (∀ w ∈ words value, LikeWord w) →
          ((Condition.anyLike ("name", "%fmt%") [("description", "%fmt%"), ("tag", "%fmt%")]).Holds
              num rel row ↔
            ∃ c ∈ cols, ∃ w ∈ words value, ∃ s, text c = some s ∧ ContainsLike s w) :=
  have h : Condition.anyLike ("name", "%fmt%") [("description", "%fmt%"), ("tag", "%fmt%")] ∈
      EntitySearch.packages.conditions (SearchQuery.parse "fmt") := by decide +kernel
  ⟨h, likeConditions_select_containing h⟩

end PackageRegistry.Search
