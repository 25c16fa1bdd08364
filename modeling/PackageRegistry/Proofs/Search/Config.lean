import Mathlib
import PackageRegistry.Search.Entity
/-!
# Valid search configurations

`EntitySearch.Valid` records what building an entity checks and compiling relies on. Every built
entity is valid (`build_valid`), and so are the registry's.
-/

namespace PackageRegistry.Search

open PackageRegistry.Text

/-! ## Results of checks -/

section Results

variable {ε α β : Type}

/-- A pure value succeeds. -/
@[simp] theorem pure_eq_ok (a : α) : (pure a : Except ε α) = .ok a := rfl

/-- A thrown failure stops the computations after it. -/
@[simp] theorem throw_bind (e : ε) (f : α → Except ε β) : (throw e >>= f) = .error e := rfl

/-- A success passes its value on. -/
@[simp] theorem ok_bind (a : α) (f : α → Except ε β) : (Except.ok a >>= f) = f a := rfl

/-- Two steps that succeed: the first succeeds, and the second on its value. -/
theorem exists_of_bind_eq_ok {x : Except ε α} {f : α → Except ε β} {b : β}
    (h : (x >>= f) = .ok b) : ∃ a, x = .ok a ∧ f a = .ok b := by
  cases x with
  | error e => cases h
  | ok a => exact ⟨a, rfl, h⟩

/-- A traversal whose every step succeeds succeeds with the results in order. -/
theorem mapM_eq_ok {f : α → Except ε β} {g : α → β} :
    ∀ {xs : List α}, (∀ x ∈ xs, f x = .ok (g x)) → xs.mapM f = .ok (xs.map g)
  | [], _ => rfl
  | x :: xs, h => by
    have hx : f x = .ok (g x) := h x List.mem_cons_self
    have hxs : xs.mapM f = .ok (xs.map g) := mapM_eq_ok fun y hy => h y (List.mem_cons_of_mem x hy)
    simp [hx, hxs]

/-- A step that succeeds on every item succeeds on the list. -/
theorem exists_mapM_eq_ok {f : α → Except ε β} :
    ∀ {xs : List α}, (∀ x ∈ xs, ∃ y, f x = .ok y) → ∃ ys, xs.mapM f = .ok ys
  | [], _ => ⟨[], rfl⟩
  | x :: xs, h => by
    obtain ⟨y, hy⟩ := h x List.mem_cons_self
    obtain ⟨ys, hys⟩ := exists_mapM_eq_ok fun z hz => h z (List.mem_cons_of_mem x hz)
    exact ⟨y :: ys, by simp [hy, hys]⟩

/-- Steps that agree on every item agree on the list. -/
theorem mapM_congr_of_mem {f g : α → Except ε β} :
    ∀ {xs : List α}, (∀ x ∈ xs, f x = g x) → xs.mapM f = xs.mapM g
  | [], _ => rfl
  | x :: xs, h => by
    rw [List.mapM_cons, List.mapM_cons, h x List.mem_cons_self,
      mapM_congr_of_mem fun y hy => h y (List.mem_cons_of_mem x hy)]

end Results

/-! ## Identifiers -/

/-- A character that may start a name may stand in one. -/
theorem isNameChar_of_isNameStart {c : Char} (h : isNameStart c = true) : isNameChar c = true := by
  simp only [isNameStart, Bool.or_eq_true, decide_eq_true_eq] at h
  simp only [isNameChar, Char.isAlphanum, Bool.or_eq_true, decide_eq_true_eq]
  tauto

/-- Every character of a plain name is a name character. -/
theorem isNameChar_of_mem_isPlainName {cs : List Char} (h : isPlainName cs = true) :
    ∀ c ∈ cs, isNameChar c = true := by
  match cs, h with
  | c :: rest, h =>
    simp only [isPlainName, Bool.and_eq_true, List.all_eq_true] at h
    intro x hx
    rcases List.mem_cons.mp hx with rfl | hx
    · exact isNameChar_of_isNameStart h.1
    · exact h.2 x hx

/-- Every character of a qualified name is a name character or the dot between its parts. -/
theorem isNameChar_of_mem_isQualifiedName {cs : List Char} (h : isQualifiedName cs = true) :
    ∀ c ∈ cs, isNameChar c = true ∨ c = '.' := by
  intro c hc
  -- the name is its dot-separated parts joined by dots again
  have hjoin : [('.' : Char)].intercalate (cs.splitOn '.') = cs := List.intercalate_splitOn '.'
  rw [← hjoin] at hc
  unfold isQualifiedName at h
  split at h
  · next a ha =>
    rw [ha] at hc
    exact .inl (isNameChar_of_mem_isPlainName h c (by simpa using hc))
  · next a b hab =>
    rw [hab] at hc
    simp only [Bool.and_eq_true] at h
    simp only [List.intercalate_cons_cons, List.intercalate_singleton, List.mem_append,
      List.mem_singleton] at hc
    rcases hc with (hc | hc) | hc
    · exact .inl (isNameChar_of_mem_isPlainName h.1 c hc)
    · exact .inr hc
    · exact .inl (isNameChar_of_mem_isPlainName h.2 c hc)
  · cases h

/-- A character of a text is kept without its final newline, or is that newline. -/
theorem mem_of_mem_dropFinalNewline {cs : List Char} :
    ∀ c ∈ cs, c ∈ dropFinalNewline cs ∨ c = '\n' := by
  intro c hc
  unfold dropFinalNewline
  split
  · next body hrev =>
    have hcs : cs = body.reverse ++ ['\n'] := by
      rw [← List.reverse_reverse cs, hrev]
      simp
    rw [hcs] at hc
    simpa using hc
  · exact .inl hc

/-- An identifier has no placeholder: its characters are name characters, dots and at most one
final line feed. -/
theorem question_not_mem_of_isIdentifier {column : String} (h : isIdentifier column = true) :
    '?' ∉ column.toList := by
  intro hq
  rcases mem_of_mem_dropFinalNewline '?' hq with hq | hq
  · rcases isNameChar_of_mem_isQualifiedName h '?' hq with h' | h'
    · exact absurd h' (by decide)
    · exact absurd h' (by decide)
  · exact absurd hq (by decide)

/-- The placeholders of joined texts are those of each. -/
@[simp] theorem placeholderCount_append (a b : String) :
    placeholderCount (a ++ b) = placeholderCount a + placeholderCount b := by
  simp [placeholderCount]

/-- An identifier holds no placeholder. -/
theorem placeholderCount_of_isIdentifier {column : String} (h : isIdentifier column = true) :
    placeholderCount column = 0 :=
  List.count_eq_zero.mpr (question_not_mem_of_isIdentifier h)

/-- An identifier passes the check unchanged. -/
theorem checkIdentifier_eq_ok {column : String} (h : isIdentifier column = true) :
    checkIdentifier column = .ok column := by
  simp [checkIdentifier, h]

/-! ## Column mappings -/

namespace ColumnMapping

/-- What building a column mapping checks: public names distinct, non-empty, trimmed lowercase;
columns identifiers. -/
structure Valid (m : ColumnMapping) : Prop where
  names_nodup : m.names.Nodup
  names_public : ∀ n ∈ m.names, isPublicName n = true
  columns_identifier : ∀ c ∈ m.columns, isIdentifier c = true

/-- Removing repeats never lengthens a list. -/
theorem length_eraseDups_le (l : List String) : l.eraseDups.length ≤ l.length := by
  induction h : l.length using Nat.strong_induction_on generalizing l with
  | _ n ih =>
    match l with
    | [] => simp
    | a :: as =>
      rw [List.eraseDups_cons, List.length_cons]
      have hle := List.length_filter_le (fun b => !b == a) as
      simp only [List.length_cons] at h
      have := ih _ (by omega) (as.filter fun b => !b == a) rfl
      omega

/-- A list that removing repeats leaves as long has none. -/
theorem nodup_of_length_eraseDups (l : List String) (h : l.eraseDups.length = l.length) :
    l.Nodup := by
  induction hn : l.length using Nat.strong_induction_on generalizing l with
  | _ n ih =>
    match l with
    | [] => exact List.nodup_nil
    | a :: as =>
      rw [List.eraseDups_cons, List.length_cons, List.length_cons] at h
      have hle := length_eraseDups_le (as.filter fun b => !b == a)
      have hlen : (as.filter fun b => !b == a).length = as.length :=
        le_antisymm (List.length_filter_le _ _) (by omega)
      -- no later name repeats `a`, so the filter removed nothing
      have hkeep := List.length_filter_eq_length_iff.mp hlen
      have hself : (as.filter fun b => !b == a) = as := List.filter_eq_self.mpr hkeep
      rw [hself] at h
      simp only [List.length_cons] at hn
      refine List.nodup_cons.mpr ⟨fun ha => ?_, ih as.length (by omega) as (by omega) rfl⟩
      simpa using hkeep a ha

/-- What `ofLists` accepts is the pairing of its lists, and it is valid. -/
theorem ofLists_eq_ok {names columns : List String} {m : ColumnMapping}
    (h : ofLists names columns = .ok m) :
    m = ⟨names.zip columns⟩ ∧ names.length = columns.length ∧ m.Valid := by
  unfold ofLists at h
  by_cases hlen : names.length = columns.length
  · by_cases hdup : names.eraseDups.length = names.length
    · cases hn : names.find? (!isPublicName ·) with
      | some bad => simp [hlen, hdup, hn] at h
      | none =>
        cases hc : columns.find? (!isIdentifier ·) with
        | some bad => simp [hlen, hdup, hn, hc] at h
        | none =>
          simp only [hlen, hdup, hn, hc, ne_eq, not_true_eq_false, if_false,
            pure_eq_ok, Except.ok.injEq] at h
          rw [List.find?_eq_none] at hn hc
          subst h
          have hnames : (names.zip columns).map (·.1) = names := List.map_fst_zip (by omega)
          have hcolumns : (names.zip columns).map (·.2) = columns := List.map_snd_zip (by omega)
          refine ⟨rfl, hlen, ⟨?_, ?_, ?_⟩⟩
          · simp only [ColumnMapping.names, hnames]
            exact nodup_of_length_eraseDups names hdup
          · simp only [ColumnMapping.names, hnames]
            intro n hn'
            simpa using hn n hn'
          · simp only [ColumnMapping.columns, hcolumns]
            intro c hc'
            simpa using hc c hc'
    · rw [hlen] at hdup
      simp [hlen, hdup] at h
  · simp [hlen] at h

/-- A mapping built from pairs holds those pairs and is valid. -/
theorem ofPairs_eq_ok {pairs : List (String × String)} {m : ColumnMapping}
    (h : ofPairs pairs = .ok m) : m = ⟨pairs⟩ ∧ m.Valid := by
  obtain ⟨rfl, -, hv⟩ := ofLists_eq_ok h
  refine ⟨?_, hv⟩
  have := List.zip_unzip pairs
  simp only [List.unzip_fst, List.unzip_snd] at this
  rw [this]

/-! ### Lookups -/

/-- A mapping contains exactly its public names. -/
theorem contains_iff {m : ColumnMapping} {n : String} : m.contains n = true ↔ n ∈ m.names := by
  simp [contains]

/-- A public name of a mapping has a column, one of the mapping's columns. -/
theorem exists_column?_of_mem {n : String} :
    ∀ {m : ColumnMapping}, n ∈ m.names → ∃ c ∈ m.columns, m.column? n = some c
  | ⟨[]⟩, h => by simp [names] at h
  | ⟨(k, c) :: es⟩, h => by
    by_cases hk : n = k
    · subst hk
      exact ⟨c, by simp [columns], by simp [column?]⟩
    · have htail : n ∈ (⟨es⟩ : ColumnMapping).names := by simpa [names, hk] using h
      obtain ⟨c', hc', hl⟩ := exists_column?_of_mem htail
      refine ⟨c', by simp_all [columns], ?_⟩
      have hbeq : (n == k) = false := beq_eq_false_iff_ne.mpr hk
      simpa [column?, List.lookup_cons, hbeq] using hl

/-- The column a public name maps to is one of the mapping's columns. -/
theorem mem_columns_of_column? {n c : String} :
    ∀ {m : ColumnMapping}, m.column? n = some c → c ∈ m.columns
  | ⟨[]⟩, h => by simp [column?] at h
  | ⟨(k, d) :: es⟩, h => by
    by_cases hk : n = k
    · subst hk
      simp only [column?, List.lookup_cons, beq_self_eq_true, Option.some.injEq] at h
      simp [columns, h]
    · have hbeq : (n == k) = false := beq_eq_false_iff_ne.mpr hk
      have htail : (⟨es⟩ : ColumnMapping).column? n = some c := by
        simpa [column?, List.lookup_cons, hbeq] using h
      simpa [columns] using Or.inr (mem_columns_of_column? htail)

/-- A name that is not public maps to no column. -/
theorem column?_eq_none {m : ColumnMapping} {n : String} (h : n ∉ m.names) :
    m.column? n = none := by
  rw [column?, List.lookup_eq_none_iff]
  intro p hp
  rw [bne_iff_ne]
  rintro rfl
  exact h (List.mem_map_of_mem hp)

/-- A public name is not empty, and trimming and lowercasing it gives it back. -/
theorem toLower_trim_of_isPublicName {n : String} (h : isPublicName n = true) :
    toLower (trim n) = n ∧ n ≠ "" := by
  simp only [isPublicName, Bool.and_eq_true, Bool.not_eq_true', String.isEmpty_eq_false_iff,
    beq_iff_eq] at h
  exact ⟨h.2.symm, h.1⟩

/-- A public name maps to one of the mapping's columns. -/
theorem exists_columnFor_of_mem {m : ColumnMapping} {n : String} (h : n ∈ m.names) :
    ∃ c ∈ m.columns, m.columnFor n = .ok c := by
  obtain ⟨c, hc, hl⟩ := exists_column?_of_mem h
  exact ⟨c, hc, by simp [columnFor, hl]⟩

/-- Looking up the public names of a mapping without repeats gives its columns, in order. -/
theorem filterMap_column?_names :
    ∀ {m : ColumnMapping}, m.names.Nodup → m.names.filterMap m.column? = m.columns
  | ⟨[]⟩, _ => rfl
  | ⟨(k, c) :: es⟩, hnd => by
    have hnd' : (k :: es.map (·.1)).Nodup := hnd
    obtain ⟨hk, hes⟩ := List.nodup_cons.mp hnd'
    -- the later names differ from `k`, so looking them up skips the first entry
    have hskip : ∀ n ∈ es.map (·.1), (⟨(k, c) :: es⟩ : ColumnMapping).column? n =
        (⟨es⟩ : ColumnMapping).column? n := by
      intro n hn
      have hbeq : (n == k) = false := beq_eq_false_iff_ne.mpr fun h => hk (h ▸ hn)
      simp [column?, List.lookup_cons, hbeq]
    have ih := filterMap_column?_names (m := ⟨es⟩) hes
    simp only [names, columns, List.map_cons, List.filterMap_cons] at ih ⊢
    rw [List.filterMap_congr hskip, ih]
    simp [column?]

end ColumnMapping

/-! ## Entities -/

namespace EntitySearch

/-- What compiling relies on: identifier columns, in-fields named once, no qualifier `in`, a
default sort key and a positive ceiling. -/
structure Valid (e : EntitySearch) : Prop where
  inColumns_identifier : ∀ c ∈ e.inColumns.columns, isIdentifier c = true
  inNames_nodup : e.inColumns.names.Nodup
  not_reserved : inQualifier ∉ e.qualifiers.map (·.1)
  qualifier_identifier : ∀ nq ∈ e.qualifiers, isIdentifier nq.2.column = true
  defaultSort_mem : e.defaultSort ∈ e.sortColumns.names
  maxPageSize_pos : 0 < e.maxPageSize

/-- What `check` accepts is the entity itself, with its qualifiers and sort key in order. -/
theorem check_eq_ok {e e' : EntitySearch} (h : e.check = .ok e') :
    e' = e ∧ inQualifier ∉ e.qualifiers.map (·.1) ∧
      (∀ nq ∈ e.qualifiers, isIdentifier nq.2.column = true) ∧
      e.defaultSort ∈ e.sortColumns.names ∧ 0 < e.maxPageSize := by
  unfold check at h
  by_cases hres : e.qualifiers.any (·.1 == inQualifier) = true
  · simp [hres] at h
  · cases hq : e.qualifiers.find? (fun q => !isIdentifier q.2.column) with
    | some q => simp [hres, hq] at h
    | none =>
      by_cases hd : e.sortColumns.contains e.defaultSort = true
      · by_cases hp : e.maxPageSize ≤ 0
        · simp [hres, hq, hd, hp] at h
        · simp only [hres, hq, hd, hp, Bool.false_eq_true, if_false, Bool.not_true,
            pure_eq_ok, Except.ok.injEq] at h
          rw [List.find?_eq_none] at hq
          refine ⟨h.symm, ?_, fun nq hnq => by simpa using hq nq hnq,
            ColumnMapping.contains_iff.mp hd, by omega⟩
          simpa [List.any_eq_true] using hres
      · simp [hres, hq, hd] at h

/-- Every entity that `build` accepts is valid, and so are both of its column mappings. -/
theorem build_valid {name defaultSort : String} {inPairs sortPairs : List (String × String)}
    {specs : List (String × String × String)} {maxPageSize : Int} {e : EntitySearch}
    (h : build name inPairs specs sortPairs defaultSort maxPageSize = .ok e) :
    e.Valid ∧ e.inColumns.Valid ∧ e.sortColumns.Valid := by
  unfold build at h
  obtain ⟨inColumns, hin, h⟩ := exists_of_bind_eq_ok h
  obtain ⟨_, -, h⟩ := exists_of_bind_eq_ok h
  obtain ⟨sortColumns, hsort, h⟩ := exists_of_bind_eq_ok h
  obtain ⟨rfl, hres, hqual, hdef, hpos⟩ := check_eq_ok h
  obtain ⟨-, hinv⟩ := ColumnMapping.ofPairs_eq_ok hin
  obtain ⟨-, hsortv⟩ := ColumnMapping.ofPairs_eq_ok hsort
  exact ⟨⟨hinv.columns_identifier, hinv.names_nodup, hres, hqual, hdef, hpos⟩, hinv, hsortv⟩

/-- Changing the page-size ceiling of a valid entity, when the check accepts it, keeps it
valid. -/
theorem withMaxPageSize_valid {e e' : EntitySearch} {n : Int} (he : e.Valid)
    (h : e.withMaxPageSize n = .ok e') : e'.Valid := by
  obtain ⟨rfl, -, -, -, hpos⟩ := check_eq_ok h
  exact ⟨he.inColumns_identifier, he.inNames_nodup, he.not_reserved, he.qualifier_identifier,
    he.defaultSort_mem, hpos⟩

/-- The packages entity is valid. -/
theorem packages_valid : packages.Valid where
  inColumns_identifier := by decide
  inNames_nodup := by decide
  not_reserved := by decide
  qualifier_identifier := by decide
  defaultSort_mem := by decide
  maxPageSize_pos := by decide

/-- The users entity is valid. -/
theorem users_valid : users.Valid where
  inColumns_identifier := by decide
  inNames_nodup := by decide
  not_reserved := by decide
  qualifier_identifier := by decide
  defaultSort_mem := by decide
  maxPageSize_pos := by decide

end EntitySearch

/-! ## Orderings -/

/-- A sort key kept is one of those allowed. -/
theorem mem_of_mem_sanitizeSort {requested allowed : List String} {k : String}
    (h : k ∈ sanitizeSort requested allowed) : k ∈ allowed := by
  obtain ⟨key, -, hkey⟩ := List.mem_filterMap.mp h
  dsimp only at hkey
  split at hkey
  · next hc =>
    rw [← Option.some.inj hkey]
    simp only [Bool.and_eq_true, List.contains_iff_mem] at hc
    exact hc.2
  · cases hkey

/-- The ordering never fails when the default key is a name of the mapping: every key it keeps
is one. -/
theorem orderExpression_eq_ok {m : ColumnMapping} {default : String} (requested : List String)
    (order : Option String) (hd : default ∈ m.names) :
    ∃ s, orderExpression m requested order default = .ok s := by
  have hpart : ∀ k ∈ m.names, ∃ s, (do
      let c ← m.columnFor k
      pure (c ++ " " ++ (sanitizeOrder order).text) : Except SearchError String) = .ok s := by
    intro k hk
    obtain ⟨c, -, hc⟩ := ColumnMapping.exists_columnFor_of_mem hk
    exact ⟨c ++ " " ++ (sanitizeOrder order).text, by simp [hc]⟩
  cases hs : sanitizeSort requested m.names with
  | nil =>
    -- no requested key is a sort key: the default orders alone
    obtain ⟨parts, hparts⟩ := exists_mapM_eq_ok fun k (hk : k ∈ [default]) =>
      hpart k (by rw [List.mem_singleton.mp hk]; exact hd)
    exact ⟨", ".intercalate parts, by simp only [orderExpression, hs]; rw [hparts]; rfl⟩
  | cons k ks =>
    obtain ⟨parts, hparts⟩ := exists_mapM_eq_ok fun k' (hk' : k' ∈ k :: ks) =>
      hpart k' (mem_of_mem_sanitizeSort (hs ▸ hk'))
    exact ⟨", ".intercalate parts, by simp only [orderExpression, hs]; rw [hparts]; rfl⟩

end PackageRegistry.Search
