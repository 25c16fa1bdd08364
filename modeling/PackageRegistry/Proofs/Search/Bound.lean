import Mathlib
import PackageRegistry.Proofs.Search.Meaning
/-!
# Queries with one relational qualifier

`Bound α` is a comparison or range over operands of `α`. Its text classifies back to it
(`Bound.parse_text`), `key:value` reads as that one qualifier, and such a query sets exactly the
bound's condition on the qualifier's column (`EntitySearch.conditions_bound`).
-/

namespace PackageRegistry.Text

/-- A letter or digit is no blank. -/
theorem isBlank_of_isAlphanum {c : Char} (h : c.isAlphanum = true) : isBlank c = false := by
  simp only [Char.isAlphanum, Char.isAlpha, Char.isUpper, Char.isLower, Char.isDigit,
    Bool.or_eq_true, Bool.and_eq_true, decide_eq_true_eq] at h
  simp only [isBlank, Char.toNat]
  rcases h with (⟨h1, h2⟩ | ⟨h1, h2⟩) | ⟨h1, h2⟩ <;>
  · simp only [UInt32.le_iff_toNat_le] at h1 h2
    simp at h1 h2 ⊢
    omega

section NoBlank

variable {cs : List Char}

/-- Text without blanks loses nothing to dropping leading blanks. -/
theorem dropBlanks_of_forall (h : ∀ c ∈ cs, isBlank c = false) : dropBlanks cs = cs := by
  cases cs with
  | nil => rfl
  | cons c rest => simp [dropBlanks, h c List.mem_cons_self]

/-- Text without blanks is its own trimmed form. -/
theorem trim_of_forall {s : String} (h : ∀ c ∈ s.toList, isBlank c = false) : trim s = s := by
  have hrev : ∀ c ∈ s.toList.reverse, isBlank c = false := fun c hc => h c (List.mem_reverse.mp hc)
  rw [trim, trimBlanks, dropBlanks_of_forall h, dropBlanks_of_forall hrev, List.reverse_reverse,
    String.ofList_toList]

/-- No text has no words. -/
theorem wordsOf_nil : wordsOf [] = [] := by
  rw [wordsOf]
  rfl

/-- Nonempty text without blanks is one word. -/
theorem wordsOf_of_forall (hne : cs ≠ []) (h : ∀ c ∈ cs, isBlank c = false) :
    wordsOf cs = [cs] := by
  obtain ⟨c, rest, rfl⟩ := List.exists_cons_of_ne_nil hne
  have hspan : spanWord rest = (rest, []) := by
    have hr : ∀ d ∈ rest, (!isBlank d) = true := fun d hd => by
      simp [h d (List.mem_cons_of_mem c hd)]
    simp [spanWord, List.takeWhile_eq_self_iff.mpr hr, List.dropWhile_eq_nil_iff.mpr hr]
  rw [wordsOf]
  split
  · next hd =>
    rw [dropBlanks_of_forall h] at hd
    cases hd
  · next c' rest' hd =>
    -- the first word runs to the end, and nothing is left after it
    rw [dropBlanks_of_forall h] at hd
    cases hd
    simp only [hspan, wordsOf_nil]

end NoBlank

end PackageRegistry.Text

namespace PackageRegistry.Search

open PackageRegistry.Text

/-- Whether an operator admits a value's order against its operand, as the database reads it. -/
def Comparator.accepts : Comparator → Ordering → Bool
  | .eq, o => o == .eq
  | .gt, o => o == .gt
  | .ge, o => o != .lt
  | .lt, o => o == .lt
  | .le, o => o != .gt

/-- A relational qualifier value over `α`: a comparison with one operand, or a range with
either, both or no bounds. -/
inductive Bound (α : Type) where
  | compare (op : Comparator) (operand : α)
  | range (lower upper : Option α)
  deriving Repr, DecidableEq

namespace Bound

variable {α : Type}

/-- The classified value a bound stands for, its operands written by `write`. -/
def value (write : α → String) : Bound α → RelationalValue
  | compare op a => .comparison op (write a)
  | range lo hi => .range (lo.map write) (hi.map write)

/-- A bound's qualifier text: operator and operand (operand alone for equality), or two sides
around `..`, `*` if open. -/
def text (write : α → String) : Bound α → String
  | compare .eq a => write a
  | compare op a => op.text ++ write a
  | range lo hi => (lo.map write).getD "*" ++ ".." ++ (hi.map write).getD "*"

/-- Whether a bound admits a value given its order against each operand: a comparison by its
operator, a range by both sides. -/
def admits (ord : α → Ordering) : Bound α → Bool
  | compare op a => op.accepts (ord a)
  | range lo hi => lo.all (fun a => Comparator.ge.accepts (ord a)) &&
      hi.all (fun b => Comparator.le.accepts (ord b))

end Bound

/-! ## Writing and reading a bound -/

/-- An operand that a qualifier carries as it is: a non-empty run of ASCII letters, digits and
`-`. -/
def PlainOperand (s : String) : Prop :=
  s.toList ≠ [] ∧ ∀ c ∈ s.toList, c.isAlphanum = true ∨ c = '-'

namespace PlainOperand

variable {s : String}

/-- A plain operand holds no character but letters, digits and dashes. -/
theorem not_mem {c : Char} (h : PlainOperand s) (hc : c.isAlphanum = false) (hd : c ≠ '-') :
    c ∉ s.toList := fun hm => by
  rcases h.2 c hm with h' | h'
  · rw [hc] at h'
    cases h'
  · exact hd h'

/-- A plain operand holds no dot. -/
theorem dot_not_mem (h : PlainOperand s) : '.' ∉ s.toList := h.not_mem (by decide) (by decide)

/-- A plain operand holds no newline. -/
theorem newline_not_mem (h : PlainOperand s) : '\n' ∉ s.toList := h.not_mem (by decide) (by decide)

/-- A plain operand starts with none of the characters that make a value an operator, a
range or an open side. -/
theorem head_ne (h : PlainOperand s) :
    ∃ c cs, s.toList = c :: cs ∧ c ≠ '>' ∧ c ≠ '<' ∧ c ≠ '=' ∧ c ≠ '*' := by
  obtain ⟨c, cs, hcs⟩ := List.exists_cons_of_ne_nil h.1
  have hc : c ∈ s.toList := hcs ▸ List.mem_cons_self
  refine ⟨c, cs, hcs, ?_, ?_, ?_, ?_⟩ <;>
  · rintro rfl
    exact h.not_mem (by decide) (by decide) hc

/-- A plain operand does not start with `=`. -/
theorem not_prefix_eq (h : PlainOperand s) : ¬ ['='] <+: s.toList := by
  obtain ⟨c, cs, hcs, -, -, heq, -⟩ := h.head_ne
  rw [hcs, List.cons_prefix_cons]
  exact fun hp => heq hp.1.symm

/-- A plain operand is not the wildcard `*`. -/
theorem ne_star (h : PlainOperand s) : s ≠ "*" := by
  rintro rfl
  obtain ⟨c, cs, hcs, -, -, -, hstar⟩ := h.head_ne
  have : ['*'] = c :: cs := hcs
  exact hstar (List.cons.inj this).1.symm

/-- An operand after a leading operator is taken whole. -/
theorem comparisonOperand? (h : PlainOperand s) : comparisonOperand? s.toList = some s := by
  simp [Search.comparisonOperand?, h.1, h.newline_not_mem]

end PlainOperand

/-- Text starting with neither `>` nor `<` has no leading comparison. -/
theorem leadingComparison?_eq_none {c : Char} {cs : List Char} (hgt : c ≠ '>') (hlt : c ≠ '<') :
    leadingComparison? (c :: cs) leadingComparators = none := by
  simp [leadingComparison?, leadingComparators, Comparator.text, hgt.symm, hlt.symm]

/-- One side of a range as it is written: the operand, or `*` when the side is open. -/
def sideText {α : Type} (write : α → String) (side : Option α) : String :=
  (side.map write).getD "*"

/-- A written side is non-empty, has no dot, and starts with no operator. -/
theorem sideText_shape {α : Type} {write : α → String} (hw : ∀ a, PlainOperand (write a))
    (side : Option α) :
    '.' ∉ (sideText write side).toList ∧
      ∃ c cs, (sideText write side).toList = c :: cs ∧ c ≠ '>' ∧ c ≠ '<' := by
  cases side with
  | none => exact ⟨by simp [sideText], '*', [], by simp [sideText], by decide, by decide⟩
  | some a =>
    obtain ⟨c, cs, hcs, hgt, hlt, -, -⟩ := (hw a).head_ne
    exact ⟨(hw a).dot_not_mem, c, cs, hcs, hgt, hlt⟩

/-- A range side written from a plain operand reads back as that operand. -/
theorem rangeBound_sideText {α : Type} {write : α → String} (hw : ∀ a, PlainOperand (write a))
    (side : Option α) : rangeBound (sideText write side) = side.map write := by
  cases side with
  | none => rfl
  | some a => simp [sideText, rangeBound, (hw a).ne_star]

/-- A bound whose operands are plain reads back as itself. -/
theorem Bound.parse_text {α : Type} {write : α → String} (hw : ∀ a, PlainOperand (write a)) :
    ∀ b : Bound α, RelationalValue.parse (b.text write) = b.value write
  | .compare op a => by
    have h1 := (hw a).1
    have h2 := (hw a).newline_not_mem
    have heq := (hw a).not_prefix_eq
    cases op with
    | eq =>
      -- a bare operand: no operator and no `..`, so an equality
      obtain ⟨c, cs, hcs, hgt, hlt, -, -⟩ := (hw a).head_ne
      have hlead : leadingComparison? (write a).toList leadingComparators = none := by
        rw [hcs]
        exact leadingComparison?_eq_none hgt hlt
      have hrange : range? (write a).toList = none := by
        rw [range?, List.splitOn_eq_singleton (by simpa using (hw a).dot_not_mem), hcs]
      simp [RelationalValue.parse, text, value, hlead, hrange]
    | gt | ge | lt | le =>
      simp [RelationalValue.parse, text, value, leadingComparison?, leadingComparators,
        Comparator.text, heq, (hw a).comparisonOperand?]
  | .range lo hi => by
    obtain ⟨hdot₁, c, cs, hcs, hgt, hlt⟩ := sideText_shape hw lo
    obtain ⟨hdot₂, d, ds, hds, -, -⟩ := sideText_shape hw hi
    have htext : (Bound.range lo hi).text write = sideText write lo ++ ".." ++ sideText write hi :=
      rfl
    -- the two sides have no dot, so splitting at dots finds them around an empty piece
    have hsplit : (sideText write lo ++ ".." ++ sideText write hi).toList.splitOn '.' =
        [(sideText write lo).toList, [], (sideText write hi).toList] := by
      have hjoin : (sideText write lo ++ ".." ++ sideText write hi).toList =
          ['.'].intercalate [(sideText write lo).toList, [], (sideText write hi).toList] := by
        simp [String.toList_append]
      rw [hjoin, List.splitOn_intercalate]
      · intro l hl
        simp only [List.mem_cons, List.not_mem_nil, or_false] at hl
        rcases hl with rfl | rfl | rfl
        · exact hdot₁
        · exact List.not_mem_nil
        · exact hdot₂
      · simp
    have hlead : leadingComparison? (sideText write lo ++ ".." ++ sideText write hi).toList
        leadingComparators = none := by
      simp only [String.toList_append, hcs, List.cons_append]
      exact leadingComparison?_eq_none hgt hlt
    have hlo : String.ofList (c :: cs) = sideText write lo := by rw [← hcs, String.ofList_toList]
    have hhi : String.ofList (d :: ds) = sideText write hi := by rw [← hds, String.ofList_toList]
    rw [htext, RelationalValue.parse, hlead]
    simp only [range?, hsplit, hcs, hds, hlo, hhi, rangeBound_sideText hw]
    rfl

/-! ## Quiet text -/

/-- A character a qualifier value keeps: not blank (splitting and trimming leave it) and not `+`
(decoding does). -/
def QuietChar (c : Char) : Prop := isBlank c = false ∧ c ≠ '+'

/-- Letters, digits and dashes are kept in a qualifier value. -/
theorem quietChar_of_plain {c : Char} (h : c.isAlphanum = true ∨ c = '-') : QuietChar c := by
  rcases h with h | rfl
  · refine ⟨isBlank_of_isAlphanum h, ?_⟩
    rintro rfl
    cases h
  · exact ⟨by decide, by decide⟩

/-- Decoding and trimming leave text of quiet characters as it is. -/
theorem trim_decodeValue_of_quiet {s : String} (h : ∀ c ∈ s.toList, QuietChar c) :
    trim (decodeValue s) = s := by
  rw [decodeValue_of_not_mem fun hp => (h '+' hp).2 rfl]
  exact trim_of_forall fun c hc => (h c hc).1

/-- A comparator's text is kept whole in a qualifier value. -/
theorem Comparator.quiet_text (op : Comparator) : ∀ c ∈ op.text.toList, QuietChar c := by
  cases op <;> simp [Comparator.text, QuietChar] <;> decide

/-- A range side written from plain operands is kept whole in a qualifier value. -/
theorem quiet_sideText {α : Type} {write : α → String} (hw : ∀ a, PlainOperand (write a))
    (side : Option α) : ∀ c ∈ (sideText write side).toList, QuietChar c := by
  cases side with
  | none => simp [sideText, QuietChar]; decide
  | some a => exact fun c hc => quietChar_of_plain ((hw a).2 c hc)

/-- The text of a bound over plain operands is non-empty and quiet. -/
theorem Bound.text_quiet {α : Type} {write : α → String} (hw : ∀ a, PlainOperand (write a)) :
    ∀ b : Bound α, (b.text write).toList ≠ [] ∧ ∀ c ∈ (b.text write).toList, QuietChar c
  | .compare .eq a => ⟨(hw a).1, fun c hc => quietChar_of_plain ((hw a).2 c hc)⟩
  | .compare .gt a | .compare .ge a | .compare .lt a | .compare .le a => by
    refine ⟨by simp [text, Comparator.text], fun c hc => ?_⟩
    simp only [text, String.toList_append, List.mem_append] at hc
    rcases hc with hc | hc
    · exact Comparator.quiet_text _ c hc
    · exact quietChar_of_plain ((hw a).2 c hc)
  | .range lo hi => by
    have htext : (Bound.range lo hi).text write = sideText write lo ++ ".." ++ sideText write hi :=
      rfl
    refine ⟨by simp [htext], fun c hc => ?_⟩
    simp only [htext, String.toList_append, List.mem_append] at hc
    rcases hc with (hc | hc) | hc
    · exact quiet_sideText hw lo c hc
    · simp only [show "..".toList = ['.', '.'] from rfl, List.mem_cons, List.not_mem_nil,
        or_false, or_self] at hc
      subst hc
      exact ⟨by decide, by decide⟩
    · exact quiet_sideText hw hi c hc

/-! ## A query of one qualifier -/

/-- A key without colons, a colon and a value read as that qualifier. -/
theorem Token.ofChars_qualifier {key value : List Char} (hk : key ≠ []) (hcolon : ':' ∉ key)
    (hv : value ≠ []) :
    Token.ofChars (key ++ ':' :: value) = .qualifier (String.ofList key) (String.ofList value) := by
  obtain ⟨k, ks, rfl⟩ := List.exists_cons_of_ne_nil hk
  obtain ⟨v, vs, rfl⟩ := List.exists_cons_of_ne_nil hv
  have hkeep : ∀ c ∈ k :: ks, decide (c ≠ ':') = true := fun c hc => by
    rw [decide_eq_true_eq]
    rintro rfl
    exact hcolon hc
  -- the key is the run before the first colon
  have hspan : (k :: ks ++ ':' :: v :: vs).span (· ≠ ':') = (k :: ks, ':' :: v :: vs) := by
    rw [List.span_eq_takeWhile_dropWhile, List.takeWhile_append_of_pos hkeep,
      List.dropWhile_append_of_pos hkeep]
    simp
  rw [Token.ofChars, hspan]
  rfl

/-- A key a query can name as one token: non-empty, with no colon and no blank. -/
structure KeyText (key : String) : Prop where
  ne_nil : key.toList ≠ []
  colon_not_mem : ':' ∉ key.toList
  not_blank : ∀ c ∈ key.toList, isBlank c = false

/-- Text `key:value`, with no blank in the value, reads as that one qualifier and no term. -/
theorem SearchQuery.parse_qualifier {key value : String} (hk : KeyText key)
    (hv : value.toList ≠ []) (hblank : ∀ c ∈ value.toList, isBlank c = false) :
    SearchQuery.parse (key ++ ":" ++ value) = { qualifiers := [(key, value)] } := by
  have hchars : (key ++ ":" ++ value).toList = key.toList ++ ':' :: value.toList := by simp
  have hwords : wordsOf (key ++ ":" ++ value).toList = [key.toList ++ ':' :: value.toList] := by
    rw [hchars]
    refine wordsOf_of_forall (by simp) fun c hc => ?_
    rcases List.mem_append.mp hc with h | h
    · exact hk.not_blank c h
    · rcases List.mem_cons.mp h with rfl | h
      · decide
      · exact hblank c h
  simp only [SearchQuery.parse, tokensOf, hwords, List.map_singleton,
    Token.ofChars_qualifier hk.ne_nil hk.colon_not_mem hv, String.ofList_toList]
  rfl

/-- Picking from pairs with distinct keys by one key they have finds that key's pair alone. -/
theorem filterMap_key {β γ : Type} {l : List (String × β)} (hl : (l.map (·.1)).Nodup)
    {k : String} {b : β} (hk : (k, b) ∈ l) (g : β → Option γ) :
    l.filterMap (fun p => if p.1 = k then g p.2 else none) = (g b).toList := by
  obtain ⟨s, t, rfl⟩ := List.append_of_mem hk
  rw [List.map_append, List.map_cons, List.nodup_middle, List.nodup_cons, List.mem_append] at hl
  have hs : ∀ p ∈ s, p.1 ≠ k := fun p hp h => hl.1 (.inl (List.mem_map.mpr ⟨p, hp, h⟩))
  have ht : ∀ p ∈ t, p.1 ≠ k := fun p hp h => hl.1 (.inr (List.mem_map.mpr ⟨p, hp, h⟩))
  rw [List.filterMap_append, List.filterMap_cons, List.filterMap_eq_nil_iff.mpr fun p hp =>
    if_neg (hs p hp), List.filterMap_eq_nil_iff.mpr fun p hp => if_neg (ht p hp)]
  cases g b <;> simp

namespace EntitySearch

/-- One qualifier of an entity with distinct qualifier names, quiet and non-empty, sets only its
own condition. -/
theorem conditions_qualifier {e : EntitySearch} (he : e.Valid)
    (hkeys : (e.qualifiers.map (·.1)).Nodup) {k : String} {q : Qualifier}
    (hk : (k, q) ∈ e.qualifiers) {v : String} (hv : v.toList ≠ [])
    (hquiet : ∀ c ∈ v.toList, QuietChar c) :
    e.conditions { qualifiers := [(k, v)] } = (q.condition? v).toList := by
  have hin : ∀ inValue, inCondition? e.inColumns (decodeValue "") inValue = none := by
    simp [inCondition?, decodeValue, isBlankText]
  -- each other qualifier reads the empty text and sets nothing
  have hqual : ∀ nq ∈ e.qualifiers,
      qualifierCondition? (({ qualifiers := [(k, v)] } : SearchQuery).withDefaults
        [(inQualifier, e.defaultIn)]) nq = if nq.1 = k then nq.2.condition? v else none := by
    intro nq hnq
    rw [qualifierCondition?_withDefaults he _ hnq]
    by_cases h : nq.1 = k
    · have hne : ¬ v.isEmpty := by simpa [String.isEmpty_iff] using hv
      simp [qualifierCondition?, SearchQuery.get, h, trim_decodeValue_of_quiet hquiet, hne]
    · have hget : SearchQuery.get { qualifiers := [(k, v)] } nq.1 = "" := by
        simp [SearchQuery.get, List.lookup, beq_false_of_ne h]
      simp only [qualifierCondition?, hget, h, if_false]
      rfl
  rw [conditions, term_withDefaults, hin, List.map_congr_left hqual, List.filterMap_cons_none rfl,
    List.filterMap_map, Function.id_comp]
  exact filterMap_key hkeys hk (·.condition? v)

/-- One relational qualifier `key:b` over plain operands sets exactly the bound's condition on
its column. -/
theorem conditions_bound {e : EntitySearch} (he : e.Valid) (hkeys : (e.qualifiers.map (·.1)).Nodup)
    {k : String} {q : Qualifier} (hk : (k, q) ∈ e.qualifiers) (hkey : KeyText k)
    (hrel : q.kind = .relational) {α : Type} {write : α → String}
    (hw : ∀ a, PlainOperand (write a)) (b : Bound α) :
    e.conditions (SearchQuery.parse (k ++ ":" ++ b.text write)) =
      ((b.value write).condition? q.column).toList := by
  obtain ⟨hne, hquiet⟩ := b.text_quiet hw
  rw [SearchQuery.parse_qualifier hkey hne fun c hc => (hquiet c hc).1,
    conditions_qualifier he hkeys hk hne hquiet, Qualifier.condition?, hrel]
  simp only [Bound.parse_text hw]

end EntitySearch

end PackageRegistry.Search
