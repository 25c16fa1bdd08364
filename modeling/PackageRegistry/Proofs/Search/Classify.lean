import Mathlib
import PackageRegistry.Proofs.Search.Identifier
/-!
# How a qualifier value is classified

A relational value is a comparison when an operator leaves a non-empty operand (`OperandAfter`);
else a range around `..` (`RangeSides`); else an equality (`relationalClause_by_shape`).
-/

namespace PackageRegistry.Search

/-- `r` is the operand after `op` in `v`: the operator, `r` (non-empty, no line feed), at most
one line feed. -/
def OperandAfter (op : Comparator) (v r : String) : Prop :=
  (v = op.text ++ r ∨ v = op.text ++ r ++ "\n") ∧ r ≠ "" ∧ '\n' ∉ r.toList

/-- A value starts a comparison: one of the leading operators leaves an operand. -/
def LeadsComparison (v : String) : Prop :=
  ∃ op ∈ leadingComparators, ∃ r, OperandAfter op v r

/-- The sides of a range: `v` is `lo..hi`, both sides non-empty and free of dots. -/
def RangeSides (v lo hi : String) : Prop :=
  v = lo ++ ".." ++ hi ∧ lo ≠ "" ∧ hi ≠ "" ∧ '.' ∉ lo.toList ∧ '.' ∉ hi.toList

/-! ## A leading operator -/

/-- The operand after an operator is the rest less one final line feed, if non-empty with no
other line feed. -/
theorem comparisonOperand?_eq_some_iff {rest : List Char} {r : String} :
    comparisonOperand? rest = some r ↔
      (rest = r.toList ∨ rest = r.toList ++ ['\n']) ∧ r ≠ "" ∧ '\n' ∉ r.toList := by
  unfold comparisonOperand?
  by_cases hplain : rest ≠ [] ∧ '\n' ∉ rest
  · rw [if_pos hplain, Option.some.injEq]
    constructor
    · rintro rfl
      simpa [String.toList_ofList] using hplain
    · rintro ⟨hrest | hrest, -, -⟩
      · rw [hrest, String.ofList_toList]
      · exact absurd (by simp [hrest]) hplain.2
  · rw [if_neg hplain]
    by_cases hlast : rest.getLast? = some '\n'
    · -- the value ends in a line feed: what comes before it is the operand
      obtain ⟨body, rfl⟩ : ∃ body, rest = body ++ ['\n'] :=
        ⟨rest.dropLast, (List.dropLast_append_getLast? _ hlast).symm⟩
      simp only [List.reverse_append, List.reverse_cons, List.reverse_nil, List.nil_append,
        List.singleton_append, List.reverse_reverse, List.mem_reverse, ne_eq,
        List.reverse_eq_nil_iff]
      split
      · next hbody =>
        rw [Option.some.injEq]
        constructor
        · rintro rfl
          simpa [String.toList_ofList] using hbody
        · rintro ⟨hr | hr, -, hnl⟩
          · exact (hnl (by rw [← hr]; simp)).elim
          · rw [List.append_cancel_right hr, String.ofList_toList]
      · next hbody =>
        simp only [reduceCtorEq, false_iff, not_and]
        rintro (hr | hr) hne hnl
        · exact hnl (hr ▸ by simp)
        · rw [List.append_cancel_right hr] at hbody
          exact hbody ⟨by simpa using hne, hnl⟩
    · have hrev : ∀ body, rest.reverse ≠ '\n' :: body := fun body h =>
        hlast (by rw [← List.head?_reverse, h]; rfl)
      split
      · next body h => exact absurd h (hrev body)
      · simp only [reduceCtorEq, false_iff, not_and]
        rintro (hr | hr) hne hnl
        · exact hplain ⟨by simpa [hr] using hne, hr ▸ hnl⟩
        · exact hlast (by simp [hr])

/-- An operator leaves the operand `r` exactly when the value starts with it and the rest reads
as `r`. -/
theorem operandAfter_iff {op : Comparator} {v r : String} :
    OperandAfter op v r ↔ op.text.toList <+: v.toList ∧
      comparisonOperand? (v.toList.drop op.text.toList.length) = some r := by
  rw [comparisonOperand?_eq_some_iff, OperandAfter]
  constructor
  · rintro ⟨hv | hv, hne, hnl⟩ <;> subst hv
    · exact ⟨by simp, .inl (by simp), hne, hnl⟩
    · exact ⟨by simp, .inr (by simp), hne, hnl⟩
  · rintro ⟨hpre, hrest, hne, hnl⟩
    have hv := List.prefix_iff_eq_append.mp hpre
    refine ⟨?_, hne, hnl⟩
    rcases hrest with hrest | hrest <;> rw [hrest] at hv
    · exact .inl (String.toList_inj.mp (by simp [← hv]))
    · exact .inr (String.toList_inj.mp (by simp [← hv]))

/-- A comparator the value starts with, followed by an operand, gives that comparison. -/
theorem leadingComparison?_cons_of_operand {op : Comparator} {v r : String}
    (h : OperandAfter op v r) (ops : List Comparator) :
    leadingComparison? v.toList (op :: ops) = some (.comparison op r) := by
  obtain ⟨hpre, hrest⟩ := operandAfter_iff.mp h
  simp [leadingComparison?, List.isPrefixOf_iff_prefix.mpr hpre, hrest]

/-- A comparator the value does not start with is passed over. -/
theorem leadingComparison?_cons_of_none {op : Comparator} {v : String}
    (h : ∀ r, ¬ OperandAfter op v r) (ops : List Comparator) :
    leadingComparison? v.toList (op :: ops) = leadingComparison? v.toList ops := by
  simp only [leadingComparison?]
  split
  · next hpre =>
    -- the value starts with the operator, but no operand follows it
    split
    · next r hr => exact absurd (operandAfter_iff.mpr ⟨List.isPrefixOf_iff_prefix.mp hpre, hr⟩) (h r)
    · rfl
  · rfl

/-- The classifier takes the first operator, in the order tried, that leaves an operand. -/
theorem leadingComparison?_of_first {v : String} : ∀ {pre : List Comparator} {op : Comparator}
    {post : List Comparator} {r : String}, (∀ o ∈ pre, ∀ r', ¬ OperandAfter o v r') →
    OperandAfter op v r → leadingComparison? v.toList (pre ++ op :: post) = some (.comparison op r)
  | [], _, _, _, _, hop => leadingComparison?_cons_of_operand hop _
  | o :: pre, _, _, _, hpre, hop => by
    rw [List.cons_append, leadingComparison?_cons_of_none (hpre o List.mem_cons_self)]
    exact leadingComparison?_of_first (fun o' ho' => hpre o' (List.mem_cons_of_mem o ho')) hop

/-- A value starting with none of the comparators has no leading comparison. -/
theorem leadingComparison?_eq_none_of_forall {v : String} :
    ∀ {ops : List Comparator}, (∀ o ∈ ops, ∀ r, ¬ OperandAfter o v r) →
      leadingComparison? v.toList ops = none
  | [], _ => rfl
  | o :: ops, h => by
    rw [leadingComparison?_cons_of_none (h o List.mem_cons_self)]
    exact leadingComparison?_eq_none_of_forall fun o' ho' => h o' (List.mem_cons_of_mem o ho')

/-- What the classifier takes from a leading operator is the comparison of an operand after
it. -/
theorem exists_operandAfter {v : String} : ∀ {ops : List Comparator} {rv : RelationalValue},
    leadingComparison? v.toList ops = some rv →
      ∃ op ∈ ops, ∃ r, OperandAfter op v r ∧ rv = .comparison op r
  | [], _, h => by cases h
  | o :: ops, rv, h => by
    by_cases ho : ∃ r, OperandAfter o v r
    · obtain ⟨r, hr⟩ := ho
      rw [leadingComparison?_cons_of_operand hr, Option.some.injEq] at h
      exact ⟨o, List.mem_cons_self, r, hr, h.symm⟩
    · rw [leadingComparison?_cons_of_none (not_exists.mp ho)] at h
      obtain ⟨op, hop, hr⟩ := exists_operandAfter h
      exact ⟨op, List.mem_cons_of_mem o hop, hr⟩

/-- A value starting with one of the comparators has a leading comparison. -/
theorem leadingComparison?_ne_none {v : String} : ∀ {ops : List Comparator} {op : Comparator}
    {r : String}, op ∈ ops → OperandAfter op v r → leadingComparison? v.toList ops ≠ none
  | o :: ops, op, r, hop, hr => by
    by_cases ho : ∃ r', OperandAfter o v r'
    · obtain ⟨r', hr'⟩ := ho
      simp [leadingComparison?_cons_of_operand hr']
    · rw [leadingComparison?_cons_of_none (not_exists.mp ho)]
      rcases List.mem_cons.mp hop with rfl | hop
      · exact (ho ⟨r, hr⟩).elim
      · exact leadingComparison?_ne_none hop hr

/-- No leading operator is taken exactly when none leaves an operand. -/
theorem leadingComparison?_eq_none_iff {v : String} :
    leadingComparison? v.toList leadingComparators = none ↔ ¬ LeadsComparison v := by
  constructor
  · rintro h ⟨op, hop, r, hr⟩
    exact leadingComparison?_ne_none hop hr h
  · intro h
    exact leadingComparison?_eq_none_of_forall fun o ho r hr => h ⟨o, ho, r, hr⟩

/-! ## A range -/

/-- A value of two sides around `..` reads as the range of those sides. -/
theorem range?_of_rangeSides {v lo hi : String} (h : RangeSides v lo hi) :
    range? v.toList = some (.range (rangeBound lo) (rangeBound hi)) := by
  obtain ⟨rfl, hlo, hhi, hdlo, hdhi⟩ := h
  have hsplit : (lo ++ ".." ++ hi).toList.splitOn '.' = [lo.toList, [], hi.toList] :=
    splitOn_eq_iff.mpr ⟨by simp, by simp [hdlo, hdhi], by simp [String.toList_append]⟩
  obtain ⟨c, cs, hc⟩ := List.exists_cons_of_ne_nil (String.toList_eq_nil_iff.not.mpr hlo)
  obtain ⟨d, ds, hd⟩ := List.exists_cons_of_ne_nil (String.toList_eq_nil_iff.not.mpr hhi)
  rw [range?, hsplit, hc, hd]
  show some (RelationalValue.range (rangeBound (String.ofList (c :: cs)))
    (rangeBound (String.ofList (d :: ds)))) = _
  rw [← hc, ← hd, String.ofList_toList, String.ofList_toList]

/-- A value the range reader takes is `lo..hi`, read as its two bounds. -/
theorem exists_rangeSides {v : String} {rv : RelationalValue} (h : range? v.toList = some rv) :
    ∃ lo hi, RangeSides v lo hi ∧ rv = .range (rangeBound lo) (rangeBound hi) := by
  unfold range? at h
  split at h
  · next c cs d ds hsplit =>
    obtain ⟨-, hdot, hjoin⟩ := splitOn_eq_iff.mp hsplit
    refine ⟨String.ofList (c :: cs), String.ofList (d :: ds), ⟨?_, ?_, ?_, ?_, ?_⟩,
      (Option.some.inj h).symm⟩
    · exact String.toList_inj.mp (by simp [String.toList_append, hjoin])
    · simp
    · simp
    · simpa using hdot (c :: cs) (by simp)
    · simpa using hdot (d :: ds) (by simp)
  · cases h

/-! ## The filter -/

section Filter

variable {v : String}

/-- A value reads as the first comparison it starts with. -/
theorem parse_of_first {pre : List Comparator} {op : Comparator} {post : List Comparator}
    {r : String} (hops : leadingComparators = pre ++ op :: post)
    (hpre : ∀ o ∈ pre, ∀ r', ¬ OperandAfter o v r') (hop : OperandAfter op v r) :
    RelationalValue.parse v = .comparison op r := by
  rw [RelationalValue.parse, hops, leadingComparison?_of_first hpre hop]

/-- A value with no leading comparison and two sides around `..` reads as a range. -/
theorem parse_of_rangeSides (hlead : ¬ LeadsComparison v) {lo hi : String}
    (h : RangeSides v lo hi) :
    RelationalValue.parse v = .range (rangeBound lo) (rangeBound hi) := by
  rw [RelationalValue.parse, leadingComparison?_eq_none_iff.mpr hlead, range?_of_rangeSides h]

/-- A value that is neither a comparison nor a range reads as equality with itself. -/
theorem parse_of_neither (hlead : ¬ LeadsComparison v) (hrange : ∀ lo hi, ¬ RangeSides v lo hi) :
    RelationalValue.parse v = .comparison .eq v := by
  have hnone : range? v.toList = none := by
    cases h : range? v.toList with
    | none => rfl
    | some rv =>
      obtain ⟨lo, hi, hs, -⟩ := exists_rangeSides h
      exact absurd hs (hrange lo hi)
  rw [RelationalValue.parse, leadingComparison?_eq_none_iff.mpr hlead, hnone]

/-- The filter of a range: the two comparisons, the one of a side that is not `*`, or none. -/
theorem clauseOf_range (c lo hi : String) :
    Condition.clauseOf ((RelationalValue.range (rangeBound lo) (rangeBound hi)).condition? c) =
      if lo = "*" then (if hi = "*" then Clause.empty else ⟨"(" ++ c ++ " <= ?)", [hi]⟩)
      else if hi = "*" then ⟨"(" ++ c ++ " >= ?)", [lo]⟩
      else ⟨"(" ++ c ++ " >= ? and " ++ c ++ " <= ?)", [lo, hi]⟩ := by
  unfold rangeBound
  split_ifs <;>
    simp [RelationalValue.condition?, Condition.clauseOf, Condition.clause, Condition.fragment,
      Condition.params, Comparator.text, String.append_assoc]

/-- Every value sets a condition on the column except a range open on both sides. -/
theorem clauseOf_parse_eq_empty_iff {c : String} :
    Condition.clauseOf ((RelationalValue.parse v).condition? c) = Clause.empty ↔
      ¬ LeadsComparison v ∧ RangeSides v "*" "*" := by
  have hactive : ∀ cond : Condition, cond.clause ≠ Clause.empty := fun cond h => by
    simpa [h, Clause.empty, Clause.isActive] using cond.isActive_clause
  constructor
  · intro h
    unfold RelationalValue.parse at h
    cases hlead : leadingComparison? v.toList leadingComparators with
    | some rv =>
      obtain ⟨op, -, r, -, rfl⟩ := exists_operandAfter hlead
      simp [hlead, RelationalValue.condition?, Condition.clauseOf] at h
      exact absurd h (hactive _)
    | none =>
      rw [hlead] at h
      cases hrange : range? v.toList with
      | some rv =>
        obtain ⟨lo, hi, hs, rfl⟩ := exists_rangeSides hrange
        rw [hrange, clauseOf_range] at h
        -- only a range open on both sides writes nothing
        refine ⟨leadingComparison?_eq_none_iff.mp hlead, ?_⟩
        split_ifs at h with hlo hhi
        · subst hlo hhi
          exact hs
        all_goals simp [Clause.empty] at h
      | none =>
        simp [hrange, RelationalValue.condition?, Condition.clauseOf] at h
        exact absurd h (hactive _)
  · rintro ⟨hlead, hs⟩
    rw [parse_of_rangeSides hlead hs, clauseOf_range]
    simp

end Filter

/-- On an identifier column every value's relational filter is made: the comparison of the first
operator leaving an operand; else for `lo..hi` the comparisons of sides not `*`; else equality.
Nothing exactly for `*..*`. -/
theorem relationalClause_by_shape {column : String} (hc : isIdentifier column = true)
    (v : String) :
    (∃ cl, relationalClause column v = .ok cl) ∧
    (∀ pre op post r, leadingComparators = pre ++ op :: post →
      (∀ o ∈ pre, ∀ r', ¬ OperandAfter o v r') → OperandAfter op v r →
      relationalClause column v = .ok ⟨"(" ++ column ++ " " ++ op.text ++ " ?)", [r]⟩) ∧
    (¬ LeadsComparison v → ∀ lo hi, RangeSides v lo hi →
      relationalClause column v = .ok
        (if lo = "*" then (if hi = "*" then Clause.empty else ⟨"(" ++ column ++ " <= ?)", [hi]⟩)
        else if hi = "*" then ⟨"(" ++ column ++ " >= ?)", [lo]⟩
        else ⟨"(" ++ column ++ " >= ? and " ++ column ++ " <= ?)", [lo, hi]⟩)) ∧
    (¬ LeadsComparison v → (∀ lo hi, ¬ RangeSides v lo hi) →
      relationalClause column v = .ok ⟨"(" ++ column ++ " = ?)", [v]⟩) ∧
    (relationalClause column v = .ok Clause.empty ↔ ¬ LeadsComparison v ∧ RangeSides v "*" "*") := by
  have hclause := relationalClause_eq_ok hc v
  refine ⟨⟨_, hclause⟩, ?_, ?_, ?_, ?_⟩
  · intro pre op post r hops hpre hop
    rw [hclause, parse_of_first hops hpre hop]
    rfl
  · intro hlead lo hi hs
    rw [hclause, parse_of_rangeSides hlead hs, clauseOf_range]
  · intro hlead hrange
    rw [hclause, parse_of_neither hlead hrange]
    simp [RelationalValue.condition?, Condition.clauseOf, Condition.clause, Condition.fragment,
      Condition.params, Comparator.text, String.append_assoc]
  · rw [hclause, Except.ok.injEq]
    exact clauseOf_parse_eq_empty_iff

/-- `>=` followed by a line feed is read as `>` with the operand `=`: `>=` leaves no operand,
since the line feed alone is none. -/
theorem relationalClause_ge_newline :
    relationalClause "downloads" ">=\n" = .ok ⟨"(downloads > ?)", ["="]⟩ := by
  have hge : ∀ o ∈ [Comparator.ge], ∀ r', ¬ OperandAfter o ">=\n" r' := by
    simp only [List.mem_singleton, forall_eq]
    rintro r' ⟨hv | hv, hne, hnl⟩ <;> have hchars := congrArg String.toList hv <;>
      simp [Comparator.text, String.toList_append] at hchars
    · exact hnl (by simp [← hchars])
    · exact hne hchars
  have hgt : OperandAfter .gt ">=\n" "=" := ⟨.inr rfl, by decide, by decide⟩
  rw [(relationalClause_by_shape (by decide) ">=\n").2.1 [.ge] .gt [.le, .lt] "=" rfl hge hgt]
  rfl

end PackageRegistry.Search
