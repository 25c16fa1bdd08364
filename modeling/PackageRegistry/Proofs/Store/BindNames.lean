import Mathlib
import PackageRegistry.Proofs.Search.Identifier
import PackageRegistry.Proofs.Store.Selection
import PackageRegistry.Proofs.Store.Window
import PackageRegistry.Proofs.Search.Paging
/-!
# The named binds of a search query

The query over a view names the filter's `?` placeholders `:p0`, `:p1`, … and adds `:limit` and
`:offset`. From text whose placeholders stand between blanks (`Spaced`) the names read back are
those sent (`compileRequest_binds_read_back`).
-/

namespace PackageRegistry.Sql

open PackageRegistry.Text

/-! ## Writing names into placeholders -/

/-- Names written in place of a text's `?` placeholders in order: each becomes `:` and the next
name, while any remain. -/
def fillNames : List String → List Char → List Char
  | [], cs => cs
  | _, [] => []
  | n :: names, c :: rest =>
    if c = '?' then ':' :: n.toList ++ fillNames names rest else c :: fillNames (n :: names) rest

/-- With no names left, the text stays as it is. -/
@[simp] theorem fillNames_nil_left (cs : List Char) : fillNames [] cs = cs := by
  cases cs <;> rfl

/-- Filling names into no text gives no text. -/
@[simp] theorem fillNames_nil_right (names : List String) : fillNames names [] = [] := by
  cases names <;> rfl

/-- A character other than a placeholder is written as it is. -/
theorem fillNames_cons_of_ne {c : Char} (hc : c ≠ '?') (names : List String) (rest : List Char) :
    fillNames names (c :: rest) = c :: fillNames names rest := by
  cases names <;> simp [fillNames, hc]

/-- A placeholder becomes a colon and the next name. -/
theorem fillNames_placeholder (n : String) (names : List String) (rest : List Char) :
    fillNames (n :: names) ('?' :: rest) = ':' :: n.toList ++ fillNames names rest := by
  simp [fillNames]

/-- Text without placeholders is written as it is, and the names go on to the text after it. -/
theorem fillNames_append_of_count {a : List Char} (ha : a.count '?' = 0) (names : List String)
    (b : List Char) : fillNames names (a ++ b) = a ++ fillNames names b := by
  induction a with
  | nil => rfl
  | cons c a ih =>
    have hc : c ≠ '?' := fun h => by simp [h] at ha
    rw [List.count_cons, beq_false_of_ne hc] at ha
    rw [List.cons_append, fillNames_cons_of_ne hc, ih (by simpa using ha), List.cons_append]

/-- Filling two texts in turn: the first takes as many names as it has placeholders. -/
theorem fillNames_append {a : List Char} {first : List String} (ha : a.count '?' = first.length)
    (rest : List String) (b : List Char) :
    fillNames (first ++ rest) (a ++ b) = fillNames first a ++ fillNames rest b := by
  induction a generalizing first with
  | nil =>
    obtain rfl : first = [] := List.length_eq_zero_iff.mp (by simpa using ha.symm)
    rfl
  | cons c a ih =>
    by_cases hc : c = '?'
    · subst hc
      cases first with
      | nil => simp at ha
      | cons n first =>
        rw [List.count_cons_self, List.length_cons, Nat.add_right_cancel_iff] at ha
        simp only [List.cons_append, fillNames_placeholder, ih ha, List.append_assoc]
    · rw [List.count_cons, beq_false_of_ne hc] at ha
      rw [List.cons_append, fillNames_cons_of_ne hc, fillNames_cons_of_ne hc, ih (by simpa using ha),
        List.cons_append]

/-- Text that does not start with a placeholder starts as before once names are filled in. -/
theorem head?_fillNames {cs : List Char} (h : cs.head? ≠ some '?') (names : List String) :
    (fillNames names cs).head? = cs.head? := by
  cases cs with
  | nil => simp
  | cons c rest =>
    rw [fillNames_cons_of_ne (by simpa using h)]
    rfl

/-- Once every placeholder has a name, none is left, as long as no name holds one. -/
theorem placeholder_not_mem_fillNames {names : List String}
    (hnames : ∀ n ∈ names, '?' ∉ n.toList) :
    ∀ cs : List Char, cs.count '?' ≤ names.length → '?' ∉ fillNames names cs
  | [], _ => by simp
  | c :: rest, hcount => by
    by_cases hc : c = '?'
    · subst hc
      cases names with
      | nil => simp at hcount
      | cons n names =>
        rw [fillNames_placeholder]
        have ih := placeholder_not_mem_fillNames
          (fun m hm => hnames m (List.mem_cons_of_mem n hm)) rest (by simp at hcount; omega)
        simp [hnames n List.mem_cons_self, ih]
    · rw [fillNames_cons_of_ne hc]
      have ih := placeholder_not_mem_fillNames hnames rest
        (by rw [List.count_cons, beq_false_of_ne hc] at hcount; simpa using hcount)
      simp [Ne.symm hc, ih]

/-! ## Reading the names back -/

/-- The neighbours of a nameable placeholder: a colon after the one before opens a bind, and the
one after ends a name. -/
def PlaceholderNeighbours (a b : Char) : Prop :=
  (b = '?' → opensBind (some a) = true) ∧ (a = '?' → isWordChar b = false ∧ b ≠ ':' ∧ b ≠ '?')

/-- Whether two characters may stand around a placeholder is decided character by character. -/
instance : DecidableRel PlaceholderNeighbours := fun _ _ => by
  unfold PlaceholderNeighbours
  infer_instance

/-- Two characters neither of which is a placeholder may stand side by side. -/
theorem placeholderNeighbours_of_ne {a b : Char} (ha : a ≠ '?') (hb : b ≠ '?') :
    PlaceholderNeighbours a b :=
  ⟨fun h => absurd h hb, fun h => absurd h ha⟩

/-- A character that opens binds and is no placeholder may come before anything. -/
theorem placeholderNeighbours_of_opens {a : Char} (ha : a ≠ '?') (hopen : opensBind (some a) = true)
    (b : Char) : PlaceholderNeighbours a b :=
  ⟨fun _ => hopen, fun h => absurd h ha⟩

/-- A character that ends names and is no placeholder may come after anything. -/
theorem placeholderNeighbours_of_ends {b : Char} (hb : b ≠ '?') (hword : isWordChar b = false)
    (hcolon : b ≠ ':') (a : Char) : PlaceholderNeighbours a b :=
  ⟨fun h => absurd h hb, fun _ => ⟨hword, hcolon, hb⟩⟩

/-- A blank may stand before anything. -/
@[simp] theorem placeholderNeighbours_blank_left (b : Char) : PlaceholderNeighbours ' ' b :=
  placeholderNeighbours_of_opens (by decide) (by decide) b

/-- An opening bracket may stand before anything. -/
@[simp] theorem placeholderNeighbours_paren_left (b : Char) : PlaceholderNeighbours '(' b :=
  placeholderNeighbours_of_opens (by decide) (by decide) b

/-- A blank may stand after anything. -/
@[simp] theorem placeholderNeighbours_blank_right (a : Char) : PlaceholderNeighbours a ' ' :=
  placeholderNeighbours_of_ends (by decide) (by decide) (by decide) a

/-- A closing bracket may stand after anything. -/
@[simp] theorem placeholderNeighbours_paren_right (a : Char) : PlaceholderNeighbours a ')' :=
  placeholderNeighbours_of_ends (by decide) (by decide) (by decide) a

/-- A comma may stand after anything. -/
@[simp] theorem placeholderNeighbours_comma_right (a : Char) : PlaceholderNeighbours a ',' :=
  placeholderNeighbours_of_ends (by decide) (by decide) (by decide) a

/-- A text whose placeholders can be named and read back: no colon, each placeholder's
neighbours as `PlaceholderNeighbours` says. -/
def Spaced (cs : List Char) : Prop := cs.IsChain PlaceholderNeighbours ∧ ':' ∉ cs

/-- Whether a text is spaced is decided on its characters. -/
instance (cs : List Char) : Decidable (Spaced cs) := by
  unfold Spaced
  infer_instance

/-- Two spaced texts whose meeting characters may be neighbours are spaced together. -/
theorem Spaced.append {a b : List Char} (ha : Spaced a) (hb : Spaced b)
    (hab : ∀ x ∈ a.getLast?, ∀ y ∈ b.head?, PlaceholderNeighbours x y) : Spaced (a ++ b) :=
  ⟨List.isChain_append.mpr ⟨ha.1, hb.1, hab⟩, by simp [ha.2, hb.2]⟩

/-- Text without placeholders or colons is spaced. -/
theorem spaced_of_plain {cs : List Char} (h : ∀ c ∈ cs, c ≠ '?' ∧ c ≠ ':') : Spaced cs :=
  ⟨(List.pairwise_of_forall_mem_list fun a ha b hb =>
      placeholderNeighbours_of_ne (h a ha).1 (h b hb).1).isChain,
    fun hc => (h ':' hc).2 rfl⟩

/-- Texts joined by a separator whose first character may follow, and last precede,
anything. -/
theorem Spaced.intercalate {sep : List Char} (hsep : Spaced sep) (hne : sep ≠ [])
    (hhead : ∀ x, ∀ y ∈ sep.head?, PlaceholderNeighbours x y)
    (hlast : ∀ x ∈ sep.getLast?, ∀ y, PlaceholderNeighbours x y) :
    ∀ l : List (List Char), (∀ x ∈ l, Spaced x) → Spaced (sep.intercalate l)
  | [], _ => ⟨.nil, by simp⟩
  | [x], h => by simpa using h x List.mem_cons_self
  | x :: y :: l, h => by
    have hx := h x List.mem_cons_self
    have ih := Spaced.intercalate hsep hne hhead hlast (y :: l)
      fun z hz => h z (List.mem_cons_of_mem x hz)
    obtain ⟨z, hz⟩ := Option.isSome_iff_exists.mp (List.getLast?_isSome.mpr hne)
    rw [List.intercalate_cons_cons]
    refine (hx.append hsep fun a _ b hb => hhead a b hb).append ih fun a ha b _ => ?_
    rw [List.getLast?_append, hz, Option.some_or] at ha
    exact hlast a (hz ▸ ha) b

/-- A name the rule of binds reads whole: a nonempty run of word characters. -/
def BindName (n : String) : Prop := n ≠ "" ∧ ∀ c ∈ n.toList, isWordChar c = true

/-- Whether a name is read whole by the bind rule is decided on its characters. -/
instance (n : String) : Decidable (BindName n) := by
  unfold BindName
  infer_instance

/-- Word characters followed by the end or a non-word non-colon character are a bind's whole
name. -/
theorem bindName_append {n t : List Char} (hn : ∀ c ∈ n, isWordChar c = true)
    (ht : ∀ b ∈ t.head?, isWordChar b = false ∧ b ≠ ':') : bindName (n ++ t) = n := by
  have hrun : t.takeWhile isWordChar = [] := by
    cases t with
    | nil => rfl
    | cons b t => exact List.takeWhile_cons_of_neg (by simp [(ht b rfl).1])
  have htake : (n ++ t).takeWhile isWordChar = n := by
    rw [List.takeWhile_append, List.takeWhile_eq_self_iff.mpr hn, if_pos rfl, hrun, List.append_nil]
  have hcolon : (t.head? == some ':') = false := by
    cases t with
    | nil => rfl
    | cons b t => simpa using (ht b rfl).2
  simp only [bindName, htake, List.drop_left, hcolon, Bool.false_eq_true, if_false]

/-- The bind rule reads back the names written into a spaced text: the text with placeholders,
and the names in order. -/
theorem replaceBinds_fillNames : ∀ (cs : List Char) (names : List String) (prev : Option Char),
    Spaced cs → (cs.head? = some '?' → opensBind prev = true) → names.length = cs.count '?' →
    (∀ n ∈ names, BindName n) → replaceBinds prev (fillNames names cs) = (cs, names)
  | [], names, prev, _, _, hcount, _ => by
    obtain rfl : names = [] := List.length_eq_zero_iff.mp (by simpa using hcount)
    simp [replaceBinds]
  | c :: rest, names, prev, hs, hhead, hcount, hnames => by
    have hrest : Spaced rest := ⟨hs.1.tail, fun h => hs.2 (List.mem_cons_of_mem c h)⟩
    by_cases hc : c = '?'
    · subst hc
      cases names with
      | nil => simp at hcount
      | cons n names =>
        have hnext : ∀ b ∈ rest.head?, isWordChar b = false ∧ b ≠ ':' ∧ b ≠ '?' := by
          intro b hb
          obtain ⟨rest, rfl⟩ : ∃ r, rest = b :: r := ⟨rest.tail, by cases rest <;> simp_all⟩
          exact (List.isChain_cons_cons.mp hs.1).1.2 rfl
        have hnot : rest.head? ≠ some '?' := fun h => (hnext '?' h).2.2 rfl
        obtain ⟨hne, hword⟩ := hnames n List.mem_cons_self
        have hname : bindName (n.toList ++ fillNames names rest) = n.toList := by
          refine bindName_append hword fun b hb => ?_
          rw [head?_fillNames hnot] at hb
          exact ⟨(hnext b hb).1, (hnext b hb).2.1⟩
        have ih := replaceBinds_fillNames rest names n.toList.getLast? hrest
          (fun h => absurd h hnot) (by simp at hcount; omega)
          (fun m hm => hnames m (List.mem_cons_of_mem n hm))
        have hcond : ((':' == ':') && opensBind prev && !n.toList.isEmpty) = true := by
          simp [hhead rfl, hne]
        rw [fillNames_placeholder, List.cons_append, replaceBinds.eq_2, hname, if_pos hcond,
          List.drop_left, ih, String.ofList_toList]
    · have hcolon : c ≠ ':' := fun h => hs.2 (h ▸ List.mem_cons_self)
      -- a placeholder after `c` makes `c` a character after which a colon opens a bind
      have hopen : rest.head? = some '?' → opensBind (some c) = true := by
        intro h
        obtain ⟨rest, rfl⟩ : ∃ r, rest = '?' :: r := ⟨rest.tail, by cases rest <;> simp_all⟩
        exact (List.isChain_cons_cons.mp hs.1).1.1 rfl
      have ih := replaceBinds_fillNames rest names (some c) hrest hopen
        (by rw [List.count_cons, beq_false_of_ne hc] at hcount; simpa using hcount) hnames
      rw [fillNames_cons_of_ne hc, replaceBinds.eq_2, if_neg (by simp [hcolon]), ih]

end PackageRegistry.Sql

namespace PackageRegistry.Search

open PackageRegistry.Sql PackageRegistry.Text

/-! ## The names of a filter's placeholders -/

/-- A digit is a word character. -/
theorem isWordChar_of_isDigit {c : Char} (h : c.isDigit = true) : isWordChar c = true := by
  have hlt : c.toNat < 0x80 := by
    have h9 := (Char.isDigit_iff_toNat.mp h).2
    have : ('9' : Char).toNat = 57 := rfl
    omega
  simp [isWordChar, hlt, Char.isAlphanum, h]

/-- The names `p0`, `p1`, … are read whole, and hold no placeholder. -/
theorem bindName_of_mem_bindNames {n : String} {k : Nat} (h : n ∈ bindNames "p" k) :
    BindName n ∧ '?' ∉ n.toList := by
  obtain ⟨i, -, rfl⟩ := List.mem_map.mp h
  -- the prefix, then the decimal digits of the index
  have hchars : ∀ c ∈ ("p" ++ toString i).toList, c = 'p' ∨ c.isDigit = true := by
    intro c hc
    simp only [String.toList_append, List.mem_append] at hc
    rcases hc with hc | hc
    · exact .inl (by simpa using hc)
    · have hd : c ∈ Nat.toDigits 10 i := by simpa using hc
      exact .inr (Nat.isDigit_of_mem_toDigits (by decide) (by decide) hd)
  refine ⟨⟨by simp, fun c hc => ?_⟩, fun hq => ?_⟩
  · rcases hchars c hc with rfl | hd
    · decide
    · exact isWordChar_of_isDigit hd
  · rcases hchars '?' hq with hq | hq <;> exact absurd hq (by decide)

/-- Text split at its placeholders and joined again with a name in place of each. -/
theorem fillNames_intercalate :
    ∀ (first : List Char) (pieces : List (List Char)) (names : List String),
      '?' ∉ first → (∀ p ∈ pieces, '?' ∉ p) → names.length = pieces.length →
      fillNames names (['?'].intercalate (first :: pieces)) =
        first ++ (names.zip pieces).flatMap fun np => ':' :: np.1.toList ++ np.2
  | first, [], names, hfirst, _, hlen => by
    obtain rfl : names = [] := List.length_eq_zero_iff.mp hlen
    simp
  | _, _ :: _, [], _, _, hlen => by simp at hlen
  | first, p :: ps, n :: names, hfirst, hpieces, hlen => by
    have ih := fillNames_intercalate p ps names (hpieces p List.mem_cons_self)
      (fun q hq => hpieces q (List.mem_cons_of_mem p hq)) (by simpa using hlen)
    rw [List.intercalate_cons_cons, List.append_assoc,
      fillNames_append_of_count (List.count_eq_zero.mpr hfirst), List.singleton_append,
      fillNames_placeholder, ih]
    simp

/-- Naming a fragment's placeholders, one parameter each, writes `:p0`, `:p1`, … and binds each
name to its parameter. -/
theorem bindNamed_eq_ok_fillNames {α : Type} (pfx : String) {fragment : String}
    {params : List α} (h : placeholderCount fragment = params.length) :
    bindNamed pfx fragment params =
      .ok (String.ofList (fillNames (bindNames pfx params.length) fragment.toList),
        (bindNames pfx params.length).zip params) := by
  obtain ⟨first, pieces, hsplit⟩ := List.exists_cons_of_ne_nil (List.splitOn_ne_nil '?' fragment.toList)
  obtain ⟨-, hno, hfrag⟩ := splitOn_eq_iff.mp hsplit
  have hlen : pieces.length = params.length := by
    have := Store.length_splitOnP (· == '?') fragment.toList
    rw [← List.splitOn_eq_splitOnP, hsplit, ← List.count_eq_countP] at this
    simp only [placeholderCount] at h
    simp only [List.length_cons] at this
    omega
  have hnames : (bindNames pfx params.length).length = pieces.length := by
    simp [bindNames, hlen]
  simp only [bindNamed, hsplit, List.map_cons, List.length_map, hlen, if_true, Except.ok.injEq,
    Prod.mk.injEq, and_true]
  rw [← String.toList_inj, hfrag, fillNames_intercalate first pieces _
    (hno first List.mem_cons_self) (fun p hp => hno p (List.mem_cons_of_mem first hp)) hnames]
  simp [String.toList_join, List.zip_map_right, List.flatMap_map]

/-! ## Compiled filters and orderings are spaced -/

/-- An identifier holds no placeholder and no colon. -/
theorem plain_of_isIdentifier {column : String} (h : isIdentifier column = true) :
    ∀ x ∈ column.toList, x ≠ '?' ∧ x ≠ ':' := by
  intro x hx
  have hchar : (isNameChar x = true ∨ x = '.') ∨ x = '\n' :=
    (mem_of_mem_dropFinalNewline x hx).imp_left (isNameChar_of_mem_isQualifiedName h x)
  constructor <;> rintro rfl <;> revert hchar <;> decide

/-- A `like` fragment on an identifier is spaced. -/
theorem spaced_likeFragment {column : String} (h : isIdentifier column = true) :
    Spaced (Condition.likeFragment column).toList := by
  rw [Condition.likeFragment, String.toList_append]
  exact (spaced_of_plain (plain_of_isIdentifier h)).append (by decide +kernel) (by simp)

/-- Each condition over identifiers is spaced: its placeholders stand after a blank, and before
a blank or `)`. -/
theorem Condition.spaced_fragment {c : Condition} (h : ∀ col ∈ c.columns, isIdentifier col = true) :
    Spaced c.fragment.toList := by
  have hparen : Spaced "(".toList := by decide
  cases c with
  | compare col op v =>
    have hcol := plain_of_isIdentifier (h col (by simp [Condition.columns]))
    have hop : ∀ x ∈ op.text.toList, x ≠ '?' ∧ x ≠ ':' := by
      cases op <;> simp [Comparator.text]
    -- everything before the placeholder is plain
    rw [Condition.fragment, String.toList_append]
    refine (spaced_of_plain fun x hx => ?_).append (by decide +kernel) (by simp)
    simp only [String.toList_append, List.mem_append] at hx
    rcases hx with ((hx | hx) | hx) | hx
    · simp_all
    · exact hcol x hx
    · simp_all
    · exact hop x hx
  | between col lo hi =>
    have hcol := spaced_of_plain (plain_of_isIdentifier (h col (by simp [Condition.columns])))
    simp only [Condition.fragment, String.toList_append]
    exact (((hparen.append hcol (by simp)).append (by decide +kernel) (by simp)).append hcol
      (by simp [List.getLast?_cons, List.getLast?_append])).append (by decide +kernel) (by simp)
  | anyLike p ps =>
    have hlikes : ∀ x ∈ ((p :: ps).map (Condition.likeFragment ·.1)).map String.toList, Spaced x := by
      simp only [List.map_map, List.mem_map]
      rintro x ⟨q, hq, rfl⟩
      exact spaced_likeFragment (h q.1 (List.mem_map_of_mem hq))
    have hor := Spaced.intercalate (by decide +kernel : Spaced " or ".toList) (by simp) (by simp)
      (by simp) _ hlikes
    simp only [Condition.fragment, String.toList_append, String.toList_intercalate]
    exact (hparen.append hor (by simp)).append (by decide) (by simp)

/-- A conjunction of conditions over identifiers is spaced. -/
theorem Spaced.conjunction {cs : List Condition}
    (h : ∀ c ∈ cs, ∀ col ∈ c.columns, isIdentifier col = true) :
    Spaced (conjunction cs).fragment.toList := by
  rw [conjunction_fragment, String.toList_intercalate]
  refine Spaced.intercalate (by decide +kernel : Spaced " and ".toList) (by simp) (by simp)
    (by simp) _ ?_
  simp only [List.map_map, List.mem_map]
  rintro x ⟨c, hc, rfl⟩
  exact Condition.spaced_fragment (h c hc)

/-- An ordering over identifiers is spaced and has no placeholder. -/
theorem spaced_orderText {columns : List String} (hcols : ∀ c ∈ columns, isIdentifier c = true)
    {s : String} (h : OrderText columns s) : Spaced s.toList ∧ placeholderCount s = 0 := by
  obtain ⟨cols, dir, -, hmem, rfl⟩ := h
  have hterm : ∀ c ∈ cols, ∀ x ∈ (c ++ " " ++ dir.text).toList, x ≠ '?' ∧ x ≠ ':' := by
    intro c hc x hx
    have hdir : ∀ x ∈ (" " ++ dir.text).toList, x ≠ '?' ∧ x ≠ ':' := by
      cases dir <;> simp [SortOrder.text]
    rw [String.append_assoc, String.toList_append, List.mem_append] at hx
    exact hx.elim (plain_of_isIdentifier (hcols c (hmem c hc)) x) (hdir x)
  constructor
  · rw [String.toList_intercalate]
    refine Spaced.intercalate (by decide : Spaced ", ".toList) (by simp) (by simp) (by simp) _ ?_
    simp only [List.map_map, List.mem_map]
    rintro x ⟨c, hc, rfl⟩
    exact spaced_of_plain (hterm c hc)
  · rw [placeholderCount_intercalate (by decide)]
    apply List.sum_eq_zero
    simp only [List.map_map, List.mem_map, Function.comp_apply]
    rintro n ⟨c, hc, rfl⟩
    exact List.count_eq_zero.mpr fun hq => (hterm c hc '?' hq).1 rfl

end PackageRegistry.Search

namespace PackageRegistry.Store

open PackageRegistry.Sql PackageRegistry.Search PackageRegistry.Text

/-! ## The text and binds of a query over a view -/

/-- A filter with a value per placeholder is sent with `:p0`, `:p1`, … in their places, each
bound to its value. -/
theorem boundFilter_eq_ok_fillNames {filter : String} {params : List Parameter}
    (h : placeholderCount filter = params.length) :
    boundFilter filter params =
      .ok (String.ofList (fillNames (bindNames "p" params.length) filter.toList),
        (bindNames "p" params.length).zip params) := by
  unfold boundFilter
  split
  · next hempty =>
    -- an empty filter has no placeholder, so no value either
    obtain rfl : filter = "" := by simpa using hempty
    obtain rfl : params = [] := List.length_eq_zero_iff.mp (by rw [← h]; rfl)
    rfl
  · exact bindNamed_eq_ok_fillNames "p" h

/-- The text after a view with the window's binds still placeholders. -/
def queryTemplate (filter orderBy : String) (offset : Int) : String :=
  queryTail filter orderBy none none ++ " LIMIT ?" ++ (if offset != 0 then " OFFSET ?" else "")

/-- The names of a window's binds: `limit`, then `offset` for a non-zero offset. -/
def windowNames (offset : Int) : List String :=
  "limit" :: (if offset != 0 then ["offset"] else [])

/-- The window's binds are named `limit` and, for a non-zero offset, `offset`. -/
theorem windowBinds_keys (limit offset : Int) :
    (windowBinds limit offset).map (·.1) = windowNames offset := by
  unfold windowBinds windowNames
  split <;> rfl

/-- The window's clauses are its placeholders with the window's names filled in. -/
theorem windowClauses_eq_fillNames (offset : Int) :
    (windowClauses offset).toList =
      fillNames (windowNames offset) (" LIMIT ?" ++ if offset != 0 then " OFFSET ?" else "").toList := by
  unfold windowClauses windowNames
  split <;> simp [fillNames]

/-- Filling names into text that is not empty gives text that is not empty. -/
theorem fillNames_ne_nil {cs : List Char} (h : cs ≠ []) (names : List String) :
    fillNames names cs ≠ [] := by
  obtain ⟨c, rest, rfl⟩ := List.exists_cons_of_ne_nil h
  cases names with
  | nil => simp
  | cons n names =>
    simp only [fillNames]
    split <;> simp

/-- The text before the window is the template's, with the filter's names in its place. -/
theorem queryTail_none_eq_fillNames {filter orderBy : String} {names : List String}
    (hcount : placeholderCount filter = names.length) :
    (queryTail (String.ofList (fillNames names filter.toList)) orderBy none none).toList =
      fillNames names (queryTail filter orderBy none none).toList := by
  by_cases hF : filter = ""
  · subst hF
    obtain rfl : names = [] := List.length_eq_zero_iff.mp (by rw [← hcount]; rfl)
    simp
  · have hfill : String.ofList (fillNames names filter.toList) ≠ "" := by
      rw [ne_eq, ← String.toList_inj, String.toList_ofList]
      exact fillNames_ne_nil (by simpa using hF) names
    have hwhere : (" WHERE ".toList).count '?' = 0 := by simp
    simp only [queryTail, String.isEmpty_iff, hF, hfill, if_false, String.append_empty,
      String.toList_append, String.toList_ofList]
    rw [← List.append_nil names, fillNames_append (by simpa [placeholderCount] using hcount),
      fillNames_append_of_count hwhere, fillNames_nil_left, List.append_nil]

/-- The whole text: the filter takes the first names and the window its own. -/
theorem queryTail_eq_fillNames {filter orderBy : String} {names : List String}
    (hcount : placeholderCount filter = names.length) (horder : placeholderCount orderBy = 0)
    (limit offset : Int) :
    (queryTail (String.ofList (fillNames names filter.toList)) orderBy (some limit)
        (some offset)).toList =
      fillNames (names ++ windowNames offset) (queryTemplate filter orderBy offset).toList := by
  have hhead : ((queryTail filter orderBy none none).toList).count '?' = names.length := by
    simp only [placeholderCount] at hcount horder
    simp only [queryTail]
    split_ifs <;> simp_all
  rw [queryTail_window, queryTemplate, String.append_assoc, String.toList_append,
    String.toList_append, fillNames_append hhead, queryTail_none_eq_fillNames hcount,
    windowClauses_eq_fillNames]

/-- The names a template takes: one for each of the filter's placeholders, then the window's. -/
theorem count_queryTemplate (filter : String) {orderBy : String}
    (horder : placeholderCount orderBy = 0) (offset : Int) :
    (queryTemplate filter orderBy offset).toList.count '?' =
      placeholderCount filter + (windowNames offset).length := by
  simp only [placeholderCount] at horder ⊢
  simp only [queryTemplate, queryTail, windowNames]
  split_ifs <;> simp_all

/-- A spaced text followed by spaced text starting with a blank is spaced. -/
theorem Spaced.append_blank {a b : List Char} (ha : Spaced a) (hb : Spaced b)
    (h : ∀ y ∈ b.head?, y = ' ') : Spaced (a ++ b) :=
  ha.append hb fun x _ y hy => h y hy ▸ placeholderNeighbours_blank_right x

/-- A clause, empty for an empty text, else a blank-bounded keyword then the text, is spaced,
opening with a blank. -/
theorem spaced_optionalClause {kw : String} (hkw : Spaced kw.toList)
    (hhead : kw.toList.head? = some ' ') (hlast : kw.toList.getLast? = some ' ') {s : String}
    (hs : Spaced s.toList) :
    Spaced (if s.isEmpty then "" else kw ++ s).toList ∧
      ∀ y ∈ (if s.isEmpty then "" else kw ++ s).toList.head?, y = ' ' := by
  split
  · exact ⟨by decide, by simp⟩
  · rw [String.toList_append]
    refine ⟨hkw.append hs fun x hx y _ => ?_, fun y hy => ?_⟩
    · obtain rfl : x = ' ' := Option.some.inj (hx.symm.trans hlast)
      exact placeholderNeighbours_blank_left y
    · rw [List.head?_append, hhead] at hy
      exact (Option.some.inj hy).symm

/-- A spaced filter and ordering make a spaced template: every clause starts with a blank. -/
theorem spaced_queryTemplate {filter orderBy : String} (hF : Spaced filter.toList)
    (hO : Spaced orderBy.toList) (offset : Int) : Spaced (queryTemplate filter orderBy offset).toList := by
  have hwhere := spaced_optionalClause (by decide +kernel : Spaced " WHERE ".toList) rfl rfl hF
  have horder := spaced_optionalClause (by decide +kernel : Spaced " ORDER BY ".toList) rfl rfl hO
  have hoffset : Spaced (if offset != 0 then " OFFSET ?" else "").toList ∧
      ∀ y ∈ (if offset != 0 then " OFFSET ?" else "").toList.head?, y = ' ' := by
    split
    · exact ⟨by decide +kernel, by simp⟩
    · exact ⟨by decide, by simp⟩
  simp only [queryTemplate, queryTail, String.append_empty, String.toList_append]
  have hfirst := Spaced.append_blank hwhere.1 horder.1 horder.2
  exact Spaced.append_blank (Spaced.append_blank hfirst (by decide +kernel) (by simp)) hoffset.1
    hoffset.2

/-- The window's names are read whole and hold no placeholder. -/
theorem bindName_of_mem_windowNames {n : String} {offset : Int} (h : n ∈ windowNames offset) :
    BindName n ∧ '?' ∉ n.toList := by
  unfold windowNames at h
  split at h <;> simp only [List.mem_cons, List.not_mem_nil, or_false] at h <;>
    rcases h with rfl | rfl <;> simp [BindName] <;> decide

/-- A query over a view with a spaced filter, a value per placeholder and an ordering without
one: its binds read back are `p0`, `p1`, … and the window's, the keys sent, `pᵢ` bound to the
`i`-th value. -/
theorem binds_read_back_of_spaced {filter orderBy : String} {params : List Parameter}
    (hF : Spaced filter.toList) (hcount : placeholderCount filter = params.length)
    (hO : Spaced orderBy.toList) (horder : placeholderCount orderBy = 0) (limit offset : Int) :
    ∃ fragment binds, boundFilter filter params = .ok (fragment, binds) ∧
      replaceBinds none (queryTail fragment orderBy (some limit) (some offset)).toList =
        ((queryTemplate filter orderBy offset).toList,
          bindNames "p" params.length ++ windowNames offset) ∧
      (binds ++ windowBinds limit offset).map (·.1) =
        bindNames "p" params.length ++ windowNames offset ∧
      binds = (bindNames "p" params.length).zip params ∧
      '?' ∉ (queryTail fragment orderBy (some limit) (some offset)).toList := by
  have hlen : (bindNames "p" params.length).length = params.length := by simp [bindNames]
  have hnames : ∀ n ∈ bindNames "p" params.length ++ windowNames offset,
      BindName n ∧ '?' ∉ n.toList := by
    intro n hn
    rcases List.mem_append.mp hn with hn | hn
    · exact bindName_of_mem_bindNames hn
    · exact bindName_of_mem_windowNames hn
  have htemplate := count_queryTemplate filter horder offset
  have htext := queryTail_eq_fillNames (hcount.trans hlen.symm) horder limit offset
  refine ⟨_, _, boundFilter_eq_ok_fillNames hcount, ?_, ?_, rfl, ?_⟩
  · rw [htext]
    exact replaceBinds_fillNames _ _ none (spaced_queryTemplate hF hO offset) (fun _ => rfl)
      (by rw [htemplate, List.length_append, hlen, hcount]) fun n hn => (hnames n hn).1
  · rw [List.map_append, windowBinds_keys, List.map_fst_zip hlen.le]
  · rw [htext]
    exact placeholder_not_mem_fillNames (fun n hn => (hnames n hn).2) _
      (by rw [htemplate, List.length_append, hlen, hcount])

/-- Every request compiled for a valid entity is sent as text whose binds read back are `p0` …
`p(n-1)`, then `limit`, then `offset` when positive: the keys sent, in order, `pᵢ` bound to the
`i`-th parameter; the query runs whenever its window fits in 64 bits. -/
theorem compileRequest_binds_read_back {e : EntitySearch} (he : e.Valid)
    (hsort : e.sortColumns.Valid) (q sort order page perPage : Option String) :
    ∃ c, e.compileRequest q sort order page perPage = .ok c ∧
      ∃ fragment binds, boundFilter c.filter (c.params.map .text) = .ok (fragment, binds) ∧
        (c.limit ≤ maxWindow ∧ c.offset ≤ maxWindow → ∀ run db,
          (queryViewWith run db c.filter (c.params.map .text) c.orderBy (some c.limit)
              (some c.offset)).2 =
            ((run (queryTail fragment c.orderBy (some c.limit) (some c.offset))
              (binds ++ windowBinds c.limit c.offset)).2).mapError .queryFailed) ∧
        (replaceBinds none (queryTail fragment c.orderBy (some c.limit) (some c.offset)).toList).2 =
          bindNames "p" c.params.length ++ "limit" :: (if 0 < c.offset then ["offset"] else []) ∧
        (binds ++ windowBinds c.limit c.offset).map (·.1) =
          bindNames "p" c.params.length ++ "limit" :: (if 0 < c.offset then ["offset"] else []) ∧
        binds = (bindNames "p" c.params.length).zip (c.params.map .text) ∧
        '?' ∉ (queryTail fragment c.orderBy (some c.limit) (some c.offset)).toList := by
  obtain ⟨orderBy, hcompile⟩ := EntitySearch.compile_eq_ok he (SearchQuery.parse (q.getD ""))
    (PageRequest.ofParams page perPage) (SortRequest.ofParams sort order)
  obtain ⟨c, hc⟩ : ∃ c, e.compile (SearchQuery.parse (q.getD "")) (PageRequest.ofParams page perPage)
      (SortRequest.ofParams sort order) = .ok c := ⟨_, hcompile⟩
  refine ⟨c, hc, ?_⟩
  -- the ordering is over the sort columns and the offset is not negative
  obtain ⟨hO, horder⟩ := spaced_orderText hsort.columns_identifier
    (EntitySearch.compile_orderText he hc)
  have hoffset := (compile_window he hc).2
  -- the filter is a conjunction of conditions over identifiers
  have hid : ∀ c ∈ e.conditions (SearchQuery.parse (q.getD "")), ∀ x ∈ c.columns,
      isIdentifier x = true := fun c hc x hx =>
    he.filterColumns_identifier x (EntitySearch.columns_mem_filterColumns c hc x hx)
  rw [hcompile] at hc
  -- from here on only the list of conditions matters, not how the query sets it
  generalize e.conditions (SearchQuery.parse (q.getD "")) = cs at hc hid
  have hparts : c.filter = (conjunction cs).fragment ∧ c.params = (conjunction cs).params := by
    cases hc
    exact ⟨rfl, rfl⟩
  have hF : Spaced c.filter.toList := by
    rw [hparts.1]
    exact Spaced.conjunction hid
  have hcount : placeholderCount c.filter = (c.params.map Parameter.text).length := by
    rw [hparts.1, hparts.2, List.length_map]
    exact placeholderCount_conjunction hid
  obtain ⟨fragment, binds, hbound, hread, hkeys, hbinds, hplaceholder⟩ :=
    binds_read_back_of_spaced hF hcount hO horder c.limit c.offset
  have hwindow : windowNames c.offset = "limit" :: (if 0 < c.offset then ["offset"] else []) := by
    unfold windowNames
    by_cases hpos : 0 < c.offset
    · simp [hpos, show c.offset ≠ 0 by omega]
    · simp [show c.offset = 0 by omega]
  rw [List.length_map] at hread hkeys hbinds
  refine ⟨fragment, binds, hbound, fun hw run db => ?_, by rw [hread, hwindow],
    by rw [hkeys, hwindow], hbinds, hplaceholder⟩
  rw [queryTail_window]
  exact queryViewWith_within run db _ _ _ hw hbound

/-- A packages search by a word and a download count on page two: the binds read back are the
filter's two, then the window's. -/
theorem packages_second_page_binds :
    ∃ c, EntitySearch.packages.compileRequest (some "web downloads:>=10") none none (some "2")
        none = .ok c ∧
      ∃ fragment binds, boundFilter c.filter (c.params.map Parameter.text) = .ok (fragment, binds) ∧
        (replaceBinds none (queryTail fragment c.orderBy (some c.limit) (some c.offset)).toList).2 =
          bindNames "p" c.params.length ++ "limit" :: (if 0 < c.offset then ["offset"] else []) := by
  obtain ⟨c, hc, fragment, binds, hbound, -, hread, -⟩ :=
    compileRequest_binds_read_back EntitySearch.packages_valid EntitySearch.packages_sortColumns_valid
      (some "web downloads:>=10") none none (some "2") none
  exact ⟨c, hc, fragment, binds, hbound, hread⟩

end PackageRegistry.Store
