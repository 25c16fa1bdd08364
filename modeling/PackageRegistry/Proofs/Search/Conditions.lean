import Mathlib
import PackageRegistry.Proofs.Search.Config
/-!
# Compiled filters are conjunctions of column conditions

A compiled filter reads back as `Condition`s joined by `and`. The filter of a valid entity is
the conjunction of `EntitySearch.conditions`, and compiling any request succeeds with such a
filter, a placeholder per parameter (`compileRequest_filter_shape`).
-/

namespace PackageRegistry.Search

open PackageRegistry.Text

/-- A condition of a compiled filter on the columns of a row, with the values bound to its
placeholders. -/
inductive Condition where
  /-- `(column op ?)`: the column compared with a value. -/
  | compare (column : String) (op : Comparator) (value : String)
  /-- `(column >= ? and column <= ?)`: the column between two values, both included. -/
  | between (column lower upper : String)
  /-- `(c₁ like ? or c₂ like ? or …)`: some column `cᵢ` contains its pattern. -/
  | anyLike (first : String × String) (rest : List (String × String))
  deriving Repr, DecidableEq

namespace Condition

/-- The test that a column contains a pattern, `column like ?`. -/
def likeFragment (column : String) : String := column ++ " like ?"

/-- The text of a condition, with a placeholder for each value. -/
def fragment : Condition → String
  | compare c op _ => "(" ++ c ++ " " ++ op.text ++ " ?)"
  | between c _ _ => "(" ++ c ++ " >= ? and " ++ c ++ " <= ?)"
  | anyLike p ps => "(" ++ " or ".intercalate ((p :: ps).map (likeFragment ·.1)) ++ ")"

/-- The values of a condition, in the order of its placeholders. -/
def params : Condition → List String
  | compare _ _ v => [v]
  | between _ lo hi => [lo, hi]
  | anyLike p ps => (p :: ps).map (·.2)

/-- The columns a condition names. -/
def columns : Condition → List String
  | compare c _ _ => [c]
  | between c _ _ => [c]
  | anyLike p ps => (p :: ps).map (·.1)

/-- The clause a condition writes: its fragment and its parameters. -/
def clause (c : Condition) : Clause String := ⟨c.fragment, c.params⟩

/-- The clause of a condition that may be absent: the empty clause when it is. -/
def clauseOf : Option Condition → Clause String
  | some c => c.clause
  | none => Clause.empty

end Condition

/-- The filter that requires every condition of a list. -/
def conjunction (cs : List Condition) : Clause String :=
  ⟨" and ".intercalate (cs.map Condition.fragment), cs.flatMap Condition.params⟩

/-- A conjunction's fragment joins its conditions' fragments with `and`. -/
@[simp] theorem conjunction_fragment (cs : List Condition) :
    (conjunction cs).fragment = " and ".intercalate (cs.map Condition.fragment) := rfl

/-- A conjunction's parameters are its conditions', in order. -/
@[simp] theorem conjunction_params (cs : List Condition) :
    (conjunction cs).params = cs.flatMap Condition.params := rfl

/-! ## Placeholders -/

/-- Texts joined by a separator without placeholders hold the placeholders of the texts. -/
theorem placeholderCount_intercalate {sep : String} (hsep : placeholderCount sep = 0) :
    ∀ l : List String, placeholderCount (sep.intercalate l) = (l.map placeholderCount).sum
  | [] => rfl
  | [a] => by simp
  | a :: b :: l => by
    rw [String.intercalate_cons_cons, placeholderCount_append, placeholderCount_append, hsep,
      placeholderCount_intercalate hsep (b :: l)]
    simp

/-- A comparator's text holds no placeholder. -/
theorem placeholderCount_text (op : Comparator) : placeholderCount op.text = 0 := by
  cases op <;> decide

/-- A condition over identifiers has one placeholder per value. -/
theorem Condition.placeholderCount_fragment {c : Condition}
    (h : ∀ col ∈ c.columns, isIdentifier col = true) :
    placeholderCount c.fragment = c.params.length := by
  cases c with
  | compare col op v =>
    have hc := placeholderCount_of_isIdentifier (h col (by simp [columns]))
    have hparen : placeholderCount "(" = 0 ∧ placeholderCount " " = 0 ∧
        placeholderCount " ?)" = 1 := by
      decide
    simp only [fragment, params, placeholderCount_append, hc, placeholderCount_text, hparen,
      List.length_singleton]
  | between col lo hi =>
    have hc := placeholderCount_of_isIdentifier (h col (by simp [columns]))
    have hparen : placeholderCount "(" = 0 ∧ placeholderCount " >= ? and " = 1 ∧
        placeholderCount " <= ?)" = 1 := by
      decide
    simp only [fragment, params, placeholderCount_append, hc, hparen, List.length_cons,
      List.length_nil]
  | anyLike p ps =>
    have hlike : ∀ q ∈ p :: ps, placeholderCount (likeFragment q.1) = 1 := by
      intro q hq
      have hc := placeholderCount_of_isIdentifier (h q.1 (List.mem_map_of_mem hq))
      have hword : placeholderCount " like ?" = 1 := by decide
      simp only [likeFragment, placeholderCount_append, hc, hword]
    have hsep : placeholderCount " or " = 0 := by decide
    have hsum : (((p :: ps).map (likeFragment ·.1)).map placeholderCount).sum = ps.length + 1 := by
      rw [List.map_map, List.map_congr_left
        (f := placeholderCount ∘ fun q : String × String => likeFragment q.1) (g := fun _ => 1)
        hlike]
      simp only [List.map_const', List.sum_replicate, List.length_cons, smul_eq_mul, mul_one]
    have hparen : placeholderCount "(" = 0 ∧ placeholderCount ")" = 0 := by decide
    simp only [fragment, params, placeholderCount_append, placeholderCount_intercalate hsep,
      hsum, List.length_map, List.length_cons, hparen]
    omega

/-- A conjunction of conditions over identifiers has one placeholder per parameter. -/
theorem placeholderCount_conjunction {cs : List Condition}
    (h : ∀ c ∈ cs, ∀ col ∈ c.columns, isIdentifier col = true) :
    placeholderCount (conjunction cs).fragment = (conjunction cs).params.length := by
  have hsep : placeholderCount " and " = 0 := by decide
  simp only [conjunction, placeholderCount_intercalate hsep, List.map_map, List.length_flatMap]
  congr 1
  exact List.map_congr_left fun c hc => Condition.placeholderCount_fragment (h c hc)

/-! ## What each builder writes -/

/-- The clause that a column contains a pattern, `column like ?`, with the pattern bound. -/
def likeClause (p : String × String) : Clause String := ⟨Condition.likeFragment p.1, [p.2]⟩

/-- Each word of a value paired with a column, as the pattern `%word%`. -/
def likePairs (column value : String) : List (String × String) :=
  (words value).map fun w => (column, "%" ++ w ++ "%")

/-- The condition that some column contains its pattern; absent when there is no pair. -/
def anyLike? : List (String × String) → Option Condition
  | [] => none
  | p :: ps => some (.anyLike p ps)

/-- The condition a classified relational value sets on a column; a range open on both sides
sets none. -/
def RelationalValue.condition? (c : String) : RelationalValue → Option Condition
  | .comparison op operand => some (.compare c op operand)
  | .range none none => none
  | .range none (some hi) => some (.compare c .le hi)
  | .range (some lo) none => some (.compare c .ge lo)
  | .range (some lo) (some hi) => some (.between c lo hi)

/-- The condition a qualifier value sets on the qualifier's column. -/
def Qualifier.condition? (q : Qualifier) (value : String) : Option Condition :=
  match q.kind with
  | .relational => (RelationalValue.parse value).condition? q.column
  | .multiWord => anyLike? (likePairs q.column value)
  | .exact => some (.compare q.column .eq value)

/-- The columns of the fields an `in:` value lists, in order, repeats kept. -/
def listedColumns (columns : ColumnMapping) (inValue : String) : List String :=
  (listedFields columns inValue).filterMap columns.column?

/-- The free-text condition: some word of the term in some listed field, fields outside words;
absent for a blank term. -/
def inCondition? (columns : ColumnMapping) (term inValue : String) : Option Condition :=
  if isBlankText term then none
  else anyLike? ((listedColumns columns inValue).flatMap fun c => likePairs c term)

/-- A fragment with one placeholder per parameter makes a clause. -/
theorem Clause.make_eq_ok {fragment : String} {params : List String}
    (h : placeholderCount fragment = params.length) :
    Clause.make fragment params = .ok ⟨fragment, params⟩ := by
  simp [Clause.make, h]

/-- A condition over identifiers is made as its own clause. -/
theorem Condition.make_eq_ok {c : Condition} (h : ∀ col ∈ c.columns, isIdentifier col = true) :
    Clause.make c.fragment c.params = .ok c.clause :=
  Clause.make_eq_ok (Condition.placeholderCount_fragment h)

/-- A comparison written as `(column op ?)`, in whatever pieces, is made as the comparison's own
clause. -/
theorem make_compare_eq_ok {column fragment value : String} {op : Comparator}
    (hc : isIdentifier column = true)
    (hf : fragment = (Condition.compare column op value).fragment) :
    Clause.make fragment [value] = .ok (Condition.compare column op value).clause := by
  subst hf
  exact Condition.make_eq_ok (by simpa [Condition.columns])

/-- On an identifier column, a relational value's clause is the clause of its condition. -/
theorem RelationalValue.clause_eq_ok {c : String} (hc : isIdentifier c = true) :
    ∀ v : RelationalValue, v.clause c = .ok (Condition.clauseOf (v.condition? c))
  | .comparison op operand => make_compare_eq_ok hc rfl
  | .range none none => rfl
  -- a range open on one side is written as the comparison with its one bound
  | .range none (some hi) =>
    make_compare_eq_ok hc (by simp [Condition.fragment, Comparator.text, String.append_assoc])
  | .range (some lo) none =>
    make_compare_eq_ok hc (by simp [Condition.fragment, Comparator.text, String.append_assoc])
  | .range (some lo) (some hi) =>
    Condition.make_eq_ok (c := .between c lo hi) (by simpa [Condition.columns])

/-- On an identifier column, a relational clause is the clause of the parsed value's condition. -/
theorem relationalClause_eq_ok {column : String} (hc : isIdentifier column = true)
    (value : String) :
    relationalClause column value =
      .ok (Condition.clauseOf ((RelationalValue.parse value).condition? column)) := by
  simp [relationalClause, checkIdentifier_eq_ok hc, RelationalValue.clause_eq_ok hc]

/-- On an identifier column, an exact clause is the equality with the value. -/
theorem exactClause_eq_ok {column : String} (hc : isIdentifier column = true) (value : String) :
    exactClause column value = .ok (Condition.compare column .eq value).clause := by
  rw [exactClause, checkIdentifier_eq_ok hc, ok_bind]
  exact make_compare_eq_ok hc (by simp [Condition.fragment, Comparator.text, String.append_assoc])

/-- On an identifier column, the multi-word clauses are one `like` clause per word pattern. -/
theorem multiWordClauses_eq_ok {column : String} (hc : isIdentifier column = true)
    (value : String) :
    multiWordClauses column value = .ok ((likePairs column value).map likeClause) := by
  have hone : placeholderCount (column ++ " like ?") = 1 := by
    have hlike : placeholderCount " like ?" = 1 := by decide
    simp only [placeholderCount_append, placeholderCount_of_isIdentifier hc, hlike]
  have hwords := mapM_eq_ok (f := fun w => Clause.make (column ++ " like ?") ["%" ++ w ++ "%"])
    (g := fun w => likeClause (column, "%" ++ w ++ "%"))
    fun w (_ : w ∈ words value) => Clause.make_eq_ok (by simpa using hone)
  simp only [multiWordClauses, checkIdentifier_eq_ok hc, ok_bind, hwords, likePairs, List.map_map]
  rfl

/-! ## Joining -/

section Joining

variable {α : Type}

/-- Joining clauses skips the inactive ones. -/
theorem Clause.join_filter_isActive (sep : String) (g : Bool) (cs : List (Clause α)) :
    Clause.join sep g (cs.filter Clause.isActive) = Clause.join sep g cs := by
  simp only [Clause.join, List.filter_filter, Bool.and_self]

/-- Clauses that are all active are all kept by the conjunction. -/
theorem Clause.all_of_active {cs : List (Clause α)} (h : ∀ c ∈ cs, c.isActive = true) :
    Clause.all cs = ⟨" and ".intercalate (cs.map (·.fragment)), cs.flatMap (·.params)⟩ := by
  unfold Clause.all Clause.join
  rw [List.filter_eq_self.mpr h]
  cases cs <;> rfl

/-- Clauses that are all active, at least one, are all kept by the disjunction. -/
theorem Clause.any_cons_of_active {c : Clause α} {cs : List (Clause α)}
    (h : ∀ d ∈ c :: cs, d.isActive = true) :
    Clause.any (c :: cs) =
      ⟨"(" ++ " or ".intercalate ((c :: cs).map (·.fragment)) ++ ")",
        (c :: cs).flatMap (·.params)⟩ := by
  unfold Clause.any Clause.join
  rw [List.filter_eq_self.mpr h]
  rfl

namespace Clause

/-- A well-formed inactive clause has no parameters. -/
theorem params_eq_nil_of_inactive {c : Clause α} (hw : c.WellFormed) (h : c.isActive = false) :
    c.params = [] := by
  simp only [isActive, Bool.not_eq_false', String.isEmpty_iff] at h
  simpa [WellFormed, h, placeholderCount] using hw.symm

/-- Inactive well-formed clauses have no parameters, so dropping them loses none. -/
theorem flatMap_params_filter_isActive {cs : List (Clause α)} (hcs : ∀ c ∈ cs, c.WellFormed) :
    (cs.filter isActive).flatMap (·.params) = cs.flatMap (·.params) := by
  induction cs with
  | nil => rfl
  | cons c cs ih =>
    have hrest := ih fun d hd => hcs d (List.mem_cons_of_mem c hd)
    cases hc : c.isActive
    · simp [hc, hrest, params_eq_nil_of_inactive (hcs c List.mem_cons_self) hc]
    · simp [hc, hrest]

/-- A join is the empty clause when no clause is active, else the active fragments joined,
in parentheses if `g`, with their parameters. -/
theorem join_eq (sep : String) (g : Bool) (cs : List (Clause α)) :
    join sep g cs = if cs.filter isActive = [] then empty else
      let body := sep.intercalate ((cs.filter isActive).map (·.fragment))
      ⟨if g then "(" ++ body ++ ")" else body, (cs.filter isActive).flatMap (·.params)⟩ := by
  unfold join
  split <;> simp_all

/-- A conjunction of clauses joins the fragments and parameters of the active ones. -/
theorem all_eq (cs : List (Clause α)) :
    all cs = ⟨" and ".intercalate ((cs.filter isActive).map (·.fragment)),
      (cs.filter isActive).flatMap (·.params)⟩ := by
  rw [all, join_eq]
  split
  · next h => rw [h]; rfl
  · rfl

/-- A conjunction is active exactly when one of its clauses is. -/
theorem isActive_all {cs : List (Clause α)} : (all cs).isActive ↔ cs.filter isActive ≠ [] := by
  rw [all_eq]
  cases h : cs.filter isActive with
  | nil => simp [isActive]
  | cons a as =>
    have ha : a.isActive := (List.mem_filter.mp (h ▸ List.mem_cons_self)).2
    simp only [isActive, Bool.not_eq_true'] at ha ⊢
    cases as <;> simp_all [String.append_eq_empty_iff]

/-- Joining by a separator without placeholders keeps one parameter per placeholder. -/
theorem join_wellFormed {sep : String} (hsep : placeholderCount sep = 0) (g : Bool)
    {cs : List (Clause α)} (hcs : ∀ c ∈ cs, c.WellFormed) : (join sep g cs).WellFormed := by
  have hcount : placeholderCount (sep.intercalate ((cs.filter isActive).map (·.fragment))) =
      ((cs.filter isActive).flatMap (·.params)).length := by
    rw [placeholderCount_intercalate hsep, List.length_flatMap, List.map_map]
    exact congrArg List.sum (List.map_congr_left fun c hc => hcs c (List.mem_filter.mp hc).1)
  have hparen : placeholderCount "(" = 0 ∧ placeholderCount ")" = 0 := by decide
  rw [join_eq]
  split
  · rfl
  · cases g <;> simpa [WellFormed, hparen] using hcount

/-- An inactive clause anywhere in a join changes nothing. -/
theorem join_append_inactive (sep : String) (g : Bool) {e : Clause α} (he : e.isActive = false)
    (xs ys : List (Clause α)) : join sep g (xs ++ e :: ys) = join sep g (xs ++ ys) := by
  rw [← join_filter_isActive, List.filter_append, List.filter_cons_of_neg (by simp [he]),
    ← List.filter_append, join_filter_isActive]

/-- A conjunction of two conjunctions is the conjunction of all their clauses. -/
theorem all_pair (xs ys : List (Clause α)) : all [all xs, all ys] = all (xs ++ ys) := by
  rw [all_eq [_, _], all_eq (xs ++ ys), List.filter_append]
  -- each inner conjunction is kept exactly when it has an active clause
  by_cases hA : xs.filter isActive = [] <;> by_cases hB : ys.filter isActive = [] <;>
    simp only [List.filter_cons, List.filter_nil, isActive_all, hA, hB, ne_eq,
      not_true_eq_false, not_false_eq_true, if_true, if_false] <;>
    simp [all_eq, String.intercalate_append_of_ne_nil, hA, hB]

/-- Joining well-formed clauses passes the constructor's check: `all` is the active fragments
joined by ` and `, `any` the same by ` or ` in parentheses (the empty clause when none is
active), both with every parameter in order. Inactive clauses are identities anywhere, and
conjunctions flatten. -/
theorem joins_keep_placeholders_in_order {cs : List (Clause α)} (hcs : ∀ c ∈ cs, c.WellFormed) :
    (all cs).WellFormed ∧ (any cs).WellFormed ∧
    all cs = ⟨" and ".intercalate ((cs.filter isActive).map (·.fragment)), cs.flatMap (·.params)⟩ ∧
    any cs = (if cs.filter isActive = [] then empty else
      ⟨"(" ++ " or ".intercalate ((cs.filter isActive).map (·.fragment)) ++ ")",
        cs.flatMap (·.params)⟩) ∧
    (∀ (xs ys : List (Clause α)) (e : Clause α), e.isActive = false →
      all (xs ++ e :: ys) = all (xs ++ ys) ∧ any (xs ++ e :: ys) = any (xs ++ ys)) ∧
    ∀ xs ys : List (Clause α), all [all xs, all ys] = all (xs ++ ys) := by
  refine ⟨join_wellFormed (by decide) false hcs, join_wellFormed (by decide) true hcs, ?_, ?_,
    fun xs ys e he => ⟨join_append_inactive _ _ he xs ys, join_append_inactive _ _ he xs ys⟩,
    all_pair⟩
  · rw [all_eq, flatMap_params_filter_isActive hcs]
  · rw [any, join_eq, flatMap_params_filter_isActive hcs]
    rfl

/-- Two comparisons among empty clauses join under one `and`, parameters in order. -/
theorem all_of_two_comparisons :
    all [empty, ⟨"(a = ?)", ["1"]⟩, empty, ⟨"(b > ?)", ["2"]⟩] =
      ⟨"(a = ?) and (b > ?)", ["1", "2"]⟩ :=
  (joins_keep_placeholders_in_order (by
    simp only [List.mem_cons, List.not_mem_nil, or_false]
    rintro c (rfl | rfl | rfl | rfl) <;> rfl)).2.2.1.trans (by decide)

/-- A disjunction of no clauses is not an empty pair of brackets. -/
theorem any_nil_not_parenthesized :
    (any ([] : List (Clause String))).fragment ≠ "(" ++ " or ".intercalate [] ++ ")" := by
  decide

end Clause

end Joining

/-- A `like` clause is always active. -/
theorem isActive_likeClause (p : String × String) : (likeClause p).isActive = true := by
  simp [likeClause, Clause.isActive, Condition.likeFragment]

/-- Word clauses joined by `or` are the condition that some column contains its pattern. -/
theorem any_map_likeClause : ∀ ps : List (String × String),
    Clause.any (ps.map likeClause) = Condition.clauseOf (anyLike? ps)
  | [] => rfl
  | p :: ps => by
    rw [List.map_cons, Clause.any_cons_of_active fun c hc => by
      obtain ⟨q, -, rfl⟩ := List.mem_map.mp (List.map_cons ▸ hc)
      exact isActive_likeClause q]
    simp [anyLike?, Condition.clauseOf, Condition.clause, Condition.fragment, Condition.params,
      likeClause, Function.comp_def, List.flatMap_map, ← List.map_eq_flatMap]

/-- A condition's clause is always active. -/
theorem Condition.isActive_clause (c : Condition) : c.clause.isActive = true := by
  cases c <;> simp [Condition.clause, Condition.fragment, Clause.isActive]

/-- The active clauses among those of possibly absent conditions are those of the present
ones. -/
theorem filter_isActive_map_clauseOf :
    ∀ os : List (Option Condition),
      (os.map Condition.clauseOf).filter Clause.isActive = (os.filterMap id).map Condition.clause
  | [] => rfl
  | none :: os => by
    simp [Condition.clauseOf, Clause.empty, Clause.isActive, filter_isActive_map_clauseOf os]
  | some c :: os => by
    simp [Condition.clauseOf, Condition.isActive_clause, filter_isActive_map_clauseOf os]

/-- The conjunction of clauses of possibly absent conditions requires the present ones. -/
theorem all_map_clauseOf (os : List (Option Condition)) :
    Clause.all (os.map Condition.clauseOf) = conjunction (os.filterMap id) := by
  rw [Clause.all, ← Clause.join_filter_isActive, filter_isActive_map_clauseOf, ← Clause.all,
    Clause.all_of_active fun c hc => by
      obtain ⟨d, -, rfl⟩ := List.mem_map.mp hc
      exact d.isActive_clause]
  simp [conjunction, Condition.clause, List.map_map, Function.comp_def, List.flatMap_map]

/-- On an identifier column, a qualifier's clause is the clause of its condition. -/
theorem Qualifier.clause_eq_ok {q : Qualifier} (hc : isIdentifier q.column = true)
    (value : String) :
    q.clause value = .ok (Condition.clauseOf (q.condition? value)) := by
  unfold Qualifier.clause Qualifier.condition?
  cases q.kind with
  | relational => exact relationalClause_eq_ok hc value
  | multiWord =>
    rw [multiWordClauses_eq_ok hc]
    exact congrArg Except.ok (any_map_likeClause _)
  | exact => exact exactClause_eq_ok hc value

/-! ## The free-text filter -/

/-- A listed in-field is one of the mapping's public names. -/
theorem mem_names_of_mem_listedFields {columns : ColumnMapping} {inValue f : String}
    (h : f ∈ listedFields columns inValue) : f ∈ columns.names := by
  obtain ⟨n, -, hn⟩ := List.mem_filterMap.mp h
  dsimp only at hn
  split at hn
  · next hk =>
    rw [← Option.some.inj hn]
    simp only [Bool.and_eq_true] at hk
    exact ColumnMapping.contains_iff.mp hk.2
  · cases hn

/-- A listed in-column is one of the mapping's columns. -/
theorem mem_columns_of_mem_listedColumns {columns : ColumnMapping} {inValue c : String}
    (h : c ∈ listedColumns columns inValue) : c ∈ columns.columns := by
  obtain ⟨f, -, hf⟩ := List.mem_filterMap.mp h
  exact ColumnMapping.mem_columns_of_column? hf

/-- Going on from the columns of public names all in the mapping is going on from their
looked-up columns. -/
theorem mapM_columnFor {β : Type} {m : ColumnMapping} {k : String → Except SearchError β} :
    ∀ {fs : List String}, (∀ f ∈ fs, f ∈ m.names) →
      fs.mapM (fun f => do let c ← m.columnFor f; k c) = (fs.filterMap m.column?).mapM k
  | [], _ => rfl
  | f :: fs, h => by
    obtain ⟨c, -, hc⟩ := ColumnMapping.exists_column?_of_mem (h f List.mem_cons_self)
    have hcf : m.columnFor f = .ok c := by simp [ColumnMapping.columnFor, hc]
    have ih := mapM_columnFor (k := k) fun g hg => h g (List.mem_cons_of_mem f hg)
    rw [List.mapM_cons, List.filterMap_cons_some hc, List.mapM_cons, ih, hcf, ok_bind]

/-- The free-text filter over identifier columns is `inCondition?`'s clause: the term's words
matched against listed fields. -/
theorem inClause_eq_ok {columns : ColumnMapping}
    (hm : ∀ c ∈ columns.columns, isIdentifier c = true) (term inValue : String) :
    inClause columns term inValue =
      .ok (Condition.clauseOf (inCondition? columns term inValue)) := by
  unfold inClause inCondition?
  by_cases hb : isBlankText term = true
  · simp [hb, Condition.clauseOf]
  · have hwords := mapM_eq_ok (f := fun c => multiWordClauses c term)
      (g := fun c => (likePairs c term).map likeClause)
      fun c (hc : c ∈ listedColumns columns inValue) =>
        multiWordClauses_eq_ok (hm c (mem_columns_of_mem_listedColumns hc)) term
    simp only [hb, Bool.false_eq_true, if_false]
    rw [mapM_columnFor fun f hf => mem_names_of_mem_listedFields hf]
    rw [show (listedFields columns inValue).filterMap columns.column? =
      listedColumns columns inValue from rfl, hwords, ← any_map_likeClause, List.map_flatMap,
      List.flatMap_def]
    rfl

/-! ## The filter of an entity -/

namespace EntitySearch

/-- The condition a qualifier of an entity sets from a query: none when its decoded, trimmed
value is empty. -/
def qualifierCondition? (q : SearchQuery) (nq : String × Qualifier) : Option Condition :=
  let v := trim (decodeValue (q.get nq.1))
  if v.isEmpty then none else nq.2.condition? v

/-- The conditions a query sets: the free-text condition first, then each qualifier's in the
entity's order, absent ones left out. -/
def conditions (e : EntitySearch) (query : SearchQuery) : List Condition :=
  let q := query.withDefaults [(inQualifier, e.defaultIn)]
  (inCondition? e.inColumns (decodeValue q.term) (decodeValue (q.get inQualifier)) ::
    e.qualifiers.map (qualifierCondition? q)).filterMap id

/-- The columns a filter of the entity may name: its in-columns and its qualifiers' columns. -/
def filterColumns (e : EntitySearch) : List String :=
  e.inColumns.columns ++ e.qualifiers.map (·.2.column)

/-- The filter of a valid entity is the conjunction of the conditions the query sets. -/
theorem filterOf_eq_conjunction {e : EntitySearch} (he : e.Valid) (query : SearchQuery) :
    e.filterOf query = .ok (conjunction (e.conditions query)) := by
  dsimp only [filterOf]
  rw [inClause_eq_ok he.inColumns_identifier, ok_bind,
    mapM_eq_ok (g := fun nq => Condition.clauseOf
      (qualifierCondition? (query.withDefaults [(inQualifier, e.defaultIn)]) nq)) ?step]
  case step =>
    -- an empty value sets no condition; any other is the qualifier's own clause
    intro nq hnq
    simp only [qualifierCondition?]
    split
    · rfl
    · exact Qualifier.clause_eq_ok (he.qualifier_identifier nq hnq) _
  rw [conditions, ← all_map_clauseOf, List.map_cons, List.map_map]
  simp only [ok_bind, pure_eq_ok, Function.comp_def]

end EntitySearch

/-! ## Columns named by a filter -/

/-- A disjunction of `like` pairs reads the pairs' columns, in order. -/
theorem columns_of_anyLike? : ∀ {ps : List (String × String)} {c : Condition},
    anyLike? ps = some c → c.columns = ps.map (·.1)
  | p :: ps, c, h => by
    cases h
    rfl

/-- Every `like` pair made for a column is on that column. -/
theorem fst_of_mem_likePairs {column value : String} {p : String × String}
    (h : p ∈ likePairs column value) : p.1 = column := by
  obtain ⟨w, -, rfl⟩ := List.mem_map.mp h
  rfl

/-- A relational value's condition reads only its column. -/
theorem RelationalValue.columns_of_condition? {column : String} {c : Condition} :
    ∀ {v : RelationalValue}, v.condition? column = some c → ∀ x ∈ c.columns, x = column
  | .comparison _ _, h | .range none (some _), h | .range (some _) none, h
  | .range (some _) (some _), h => by
    cases h
    simp [Condition.columns]

/-- A qualifier's condition reads only the qualifier's column. -/
theorem Qualifier.columns_of_condition? {q : Qualifier} {value : String} {c : Condition}
    (h : q.condition? value = some c) : ∀ x ∈ c.columns, x = q.column := by
  unfold Qualifier.condition? at h
  split at h
  · exact RelationalValue.columns_of_condition? h
  · rw [columns_of_anyLike? h]
    intro x hx
    obtain ⟨p, hp, rfl⟩ := List.mem_map.mp hx
    exact fst_of_mem_likePairs hp
  · cases h
    simp [Condition.columns]

/-- The free text's condition reads only columns of the in-mapping. -/
theorem columns_of_inCondition? {columns : ColumnMapping} {term inValue : String} {c : Condition}
    (h : inCondition? columns term inValue = some c) : ∀ x ∈ c.columns, x ∈ columns.columns := by
  unfold inCondition? at h
  split at h
  · cases h
  · rw [columns_of_anyLike? h]
    intro x hx
    obtain ⟨p, hp, rfl⟩ := List.mem_map.mp hx
    obtain ⟨col, hcol, hp⟩ := List.mem_flatMap.mp hp
    rw [fst_of_mem_likePairs hp]
    exact mem_columns_of_mem_listedColumns hcol

namespace EntitySearch

/-- A query's condition for a qualifier reads only that qualifier's column. -/
theorem columns_of_qualifierCondition? {q : SearchQuery} {nq : String × Qualifier} {c : Condition}
    (h : qualifierCondition? q nq = some c) : ∀ x ∈ c.columns, x = nq.2.column := by
  unfold qualifierCondition? at h
  dsimp only at h
  split at h
  · cases h
  · exact Qualifier.columns_of_condition? h

/-- The qualifiers' conditions read only the qualifiers' columns. -/
theorem mem_qualifierColumns {q : SearchQuery} {qualifiers : List (String × Qualifier)}
    {c : Condition} (hc : c ∈ (qualifiers.map (qualifierCondition? q)).filterMap id) :
    ∀ x ∈ c.columns, x ∈ qualifiers.map (·.2.column) := by
  intro x hx
  obtain ⟨o, ho, hoc⟩ := List.mem_filterMap.mp hc
  obtain ⟨nq, hnq, rfl⟩ := List.mem_map.mp ho
  rw [id] at hoc
  rw [columns_of_qualifierCondition? hoc x hx]
  exact List.mem_map_of_mem hnq

/-- Every column a condition of a query names is an in-column or a qualifier column. -/
theorem columns_mem_filterColumns {e : EntitySearch} {query : SearchQuery} :
    ∀ c ∈ e.conditions query, ∀ x ∈ c.columns, x ∈ e.filterColumns := by
  intro c hc x hx
  simp only [conditions, List.filterMap_cons, id] at hc
  -- the free-text condition, when present, comes first; the qualifiers' follow
  split at hc
  · exact List.mem_append_right _ (mem_qualifierColumns hc x hx)
  · next cin hin =>
    rcases List.mem_cons.mp hc with rfl | hc
    · exact List.mem_append_left _ (columns_of_inCondition? hin x hx)
    · exact List.mem_append_right _ (mem_qualifierColumns hc x hx)

/-- A valid entity filters on identifier columns only. -/
theorem Valid.filterColumns_identifier {e : EntitySearch} (he : e.Valid) :
    ∀ x ∈ e.filterColumns, isIdentifier x = true := by
  intro x hx
  rcases List.mem_append.mp hx with hx | hx
  · exact he.inColumns_identifier x hx
  · obtain ⟨nq, hnq, rfl⟩ := List.mem_map.mp hx
    exact he.qualifier_identifier nq hnq

/-- Compiling against a valid entity succeeds: the query's conditions joined as filter, the
clamped page as window. -/
theorem compile_eq_ok {e : EntitySearch} (he : e.Valid) (query : SearchQuery) (page : PageRequest)
    (sort : SortRequest) :
    ∃ orderBy, e.compile query page sort =
      .ok ⟨(conjunction (e.conditions query)).fragment, (conjunction (e.conditions query)).params,
        orderBy, (clampPage page.page page.perPage e.maxPageSize).1,
        (clampPage page.page page.perPage e.maxPageSize).2⟩ := by
  obtain ⟨orderBy, horder⟩ :=
    orderExpression_eq_ok (m := e.sortColumns) sort.keys (some sort.order) he.defaultSort_mem
  exact ⟨orderBy, by simp [compile, filterOf_eq_conjunction he, horder]⟩

/-- Compiling any raw request against a valid entity succeeds with a filter that is empty or
conditions on its columns joined by ` and `, a placeholder per parameter. -/
theorem compileRequest_filter_shape (e : EntitySearch) (he : e.Valid)
    (q sort order page perPage : Option String) :
    ∃ c, e.compileRequest q sort order page perPage = .ok c ∧
      ∃ cs : List Condition, (∀ cond ∈ cs, ∀ x ∈ cond.columns, x ∈ e.filterColumns) ∧
        c.filter = " and ".intercalate (cs.map Condition.fragment) ∧
        c.params = cs.flatMap Condition.params ∧
        placeholderCount c.filter = c.params.length := by
  obtain ⟨orderBy, h⟩ := compile_eq_ok he (SearchQuery.parse (q.getD ""))
    (PageRequest.ofParams page perPage) (SortRequest.ofParams sort order)
  have hcolumns : ∀ c ∈ e.conditions (SearchQuery.parse (q.getD "")), ∀ x ∈ c.columns,
      x ∈ e.filterColumns := columns_mem_filterColumns
  -- from here on only the list of conditions matters, not how the query sets it
  generalize e.conditions (SearchQuery.parse (q.getD "")) = cs at h hcolumns
  have hcount := placeholderCount_conjunction fun c hc x hx =>
    he.filterColumns_identifier x (hcolumns c hc x hx)
  rw [compileRequest]
  exact ⟨_, h, cs, hcolumns, rfl, rfl, hcount⟩

/-- A packages request with words and two qualifiers compiles to a conjunction of conditions on
filter columns. -/
theorem packages_request_filter_shape :
    ∃ c, packages.compileRequest (some "web framework downloads:>=1000 owner:alice") none none
        none none = .ok c ∧
      ∃ cs : List Condition, (∀ cond ∈ cs, ∀ x ∈ cond.columns, x ∈ packages.filterColumns) ∧
        c.filter = " and ".intercalate (cs.map Condition.fragment) ∧
        c.params = cs.flatMap Condition.params ∧
        placeholderCount c.filter = c.params.length :=
  compileRequest_filter_shape packages packages_valid _ _ _ _ _

end EntitySearch

end PackageRegistry.Search
