import Mathlib
import PackageRegistry.Proofs.Search.QueryText
/-!
# The columns a filter may name

`checkIdentifier` is the last gate before columns are written into query text. It accepts
identifiers with an optional dotted part (`IdentifierChars`), also followed by one line feed;
every column of a built mapping or entity is of that form.
-/

namespace PackageRegistry.Search

/-- A list splits at `x` into the pieces exactly when it is their join by `x` and no piece holds
`x`. -/
theorem splitOn_eq_iff {cs : List Char} {x : Char} {ls : List (List Char)} :
    cs.splitOn x = ls ↔ ls ≠ [] ∧ (∀ l ∈ ls, x ∉ l) ∧ cs = [x].intercalate ls := by
  constructor
  · rintro rfl
    refine ⟨List.splitOn_ne_nil x cs, fun l hl hx => ?_, (List.intercalate_splitOn x).symm⟩
    rw [List.splitOn_eq_splitOnP] at hl
    simpa using Text.forall_not_of_mem_splitOnP hl x hx
  · rintro ⟨hne, hx, rfl⟩
    exact List.splitOn_intercalate x hx hne

/-- A plain name: an ASCII letter or `_`, then ASCII letters, digits and `_`. -/
def PlainName (cs : List Char) : Prop :=
  ∃ c rest, cs = c :: rest ∧ (c.isAlpha = true ∨ c = '_') ∧
    ∀ d ∈ rest, d.isAlphanum = true ∨ d = '_'

/-- An identifier: a plain name, or two plain names joined by one `.`. -/
def IdentifierChars (cs : List Char) : Prop :=
  PlainName cs ∨ ∃ a b, PlainName a ∧ PlainName b ∧ cs = a ++ '.' :: b

/-- What the gate lets through: an identifier, perhaps followed by one line feed. -/
def IdentifierLine (s : String) : Prop :=
  IdentifierChars s.toList ∨ ∃ t, IdentifierChars t ∧ s.toList = t ++ ['\n']

/-- The check of plain names accepts exactly the plain names. -/
theorem isPlainName_iff {cs : List Char} : isPlainName cs = true ↔ PlainName cs := by
  cases cs with
  | nil => simp [isPlainName, PlainName]
  | cons c rest => simp [isPlainName, PlainName, isNameStart, isNameChar]

/-- A plain name holds only letters, digits and underscores. -/
theorem PlainName.not_mem {cs : List Char} (h : PlainName cs) {x : Char}
    (hx : x.isAlphanum = false ∧ x ≠ '_') : x ∉ cs := by
  obtain ⟨c, rest, rfl, hc, hrest⟩ := h
  have hstart : x.isAlpha = false := by
    have hnum := hx.1
    simp only [Char.isAlphanum, Bool.or_eq_false_iff] at hnum
    exact hnum.1
  rintro (_ | ⟨_, hmem⟩)
  · rcases hc with hc | hc
    · rw [hstart] at hc
      cases hc
    · exact hx.2 hc
  · rcases hrest x hmem with hd | hd
    · rw [hx.1] at hd
      cases hd
    · exact hx.2 hd

/-- The check of qualified names accepts exactly identifier characters. -/
theorem isQualifiedName_iff {cs : List Char} :
    isQualifiedName cs = true ↔ IdentifierChars cs := by
  have hdot : ∀ {a}, PlainName a → '.' ∉ a := fun h => h.not_mem (by decide)
  constructor
  · intro h
    unfold isQualifiedName at h
    split at h
    · next a ha =>
      obtain ⟨-, -, rfl⟩ := splitOn_eq_iff.mp ha
      exact .inl (by simpa [isPlainName_iff] using h)
    · next a b hab =>
      obtain ⟨-, -, rfl⟩ := splitOn_eq_iff.mp hab
      simp only [Bool.and_eq_true, isPlainName_iff] at h
      exact .inr ⟨a, b, h.1, h.2, by simp⟩
    · cases h
  · rintro (h | ⟨a, b, ha, hb, rfl⟩)
    · simp [isQualifiedName, List.splitOn_eq_singleton (hdot h), isPlainName_iff.mpr h]
    · have hsplit : (a ++ '.' :: b).splitOn '.' = [a, b] :=
        splitOn_eq_iff.mpr ⟨by simp, by simp [hdot ha, hdot hb], by simp⟩
      simp [isQualifiedName, hsplit, isPlainName_iff.mpr ha, isPlainName_iff.mpr hb]

/-- Identifier characters hold no newline. -/
theorem IdentifierChars.newline_not_mem {cs : List Char} (h : IdentifierChars cs) : '\n' ∉ cs := by
  have hplain : ∀ {a}, PlainName a → '\n' ∉ a := fun h => h.not_mem (by decide)
  rcases h with h | ⟨a, b, ha, hb, rfl⟩
  · exact hplain h
  · simp [hplain ha, hplain hb]

/-- A final newline is dropped. -/
theorem dropFinalNewline_append (body : List Char) : dropFinalNewline (body ++ ['\n']) = body := by
  simp [dropFinalNewline]

/-- Text not ending in a newline keeps all of it. -/
theorem dropFinalNewline_of_getLast? {cs : List Char} (h : cs.getLast? ≠ some '\n') :
    dropFinalNewline cs = cs := by
  unfold dropFinalNewline
  split
  · next body hrev =>
    have : cs.getLast? = some '\n' := by rw [← List.head?_reverse, hrev]; rfl
    exact absurd this h
  · rfl

/-- The gate accepts exactly the identifiers, each perhaps followed by one line feed. -/
theorem isIdentifier_iff {s : String} : isIdentifier s = true ↔ IdentifierLine s := by
  unfold isIdentifier IdentifierLine
  by_cases hlast : s.toList.getLast? = some '\n'
  · -- one final line feed is dropped, and the identifier must be what comes before it
    obtain ⟨body, hbody⟩ : ∃ body, s.toList = body ++ ['\n'] :=
      ⟨s.toList.dropLast, (List.dropLast_append_getLast? _ hlast).symm⟩
    rw [hbody, dropFinalNewline_append, isQualifiedName_iff]
    constructor
    · exact fun h => .inr ⟨body, h, rfl⟩
    · rintro (h | ⟨t, ht, heq⟩)
      · exact absurd (by simp) h.newline_not_mem
      · rwa [List.append_cancel_right heq]
  · rw [dropFinalNewline_of_getLast? hlast, isQualifiedName_iff]
    constructor
    · exact .inl
    · rintro (h | ⟨t, -, heq⟩)
      · exact h
      · exact absurd (by simp [heq]) hlast

/-- The identifier check passes a text unchanged exactly when it is an identifier line. -/
theorem checkIdentifier_eq_ok_iff {s : String} : checkIdentifier s = .ok s ↔ IdentifierLine s := by
  rw [← isIdentifier_iff]
  unfold checkIdentifier
  split <;> simp_all

/-- The identifier check refuses a text that is no identifier line, naming it. -/
theorem checkIdentifier_of_not {s : String} (h : ¬ IdentifierLine s) :
    checkIdentifier s = .error (.invalidIdentifier s) := by
  rw [← isIdentifier_iff] at h
  simp [checkIdentifier, h]

/-- The gate admits exactly identifiers, maybe with one line feed; every column building accepts
is such a line. -/
theorem written_columns_identifierLines (s : String) :
    (checkIdentifier s = .ok s ↔ IdentifierLine s) ∧
    (¬ IdentifierLine s → checkIdentifier s = .error (.invalidIdentifier s)) ∧
    (∀ names columns m, ColumnMapping.ofLists names columns = .ok m → s ∈ m.columns →
      IdentifierLine s) ∧
    (∀ name inPairs specs sortPairs defaultSort maxPageSize e,
      EntitySearch.build name inPairs specs sortPairs defaultSort maxPageSize = .ok e →
      s ∈ e.inColumns.columns ++ e.sortColumns.columns ++ e.qualifiers.map (·.2.column) →
      IdentifierLine s) := by
  refine ⟨checkIdentifier_eq_ok_iff, checkIdentifier_of_not, ?_, ?_⟩
  · intro names columns m h hs
    exact isIdentifier_iff.mp ((ColumnMapping.ofLists_eq_ok h).2.2.columns_identifier s hs)
  · intro name inPairs specs sortPairs defaultSort maxPageSize e h hs
    obtain ⟨he, -, hsort⟩ := EntitySearch.build_valid h
    simp only [List.mem_append, List.mem_map] at hs
    rcases hs with (hs | hs) | ⟨nq, hnq, rfl⟩
    · exact isIdentifier_iff.mp (he.inColumns_identifier s hs)
    · exact isIdentifier_iff.mp (hsort.columns_identifier s hs)
    · exact isIdentifier_iff.mp (he.qualifier_identifier nq hnq)

/-- An entity built from the packages configuration names only such columns. -/
theorem packages_build_columns :
    EntitySearch.build "packages" [("name", "name"), ("desc", "description")]
        [("owner", "owner_username", "exact")] [("id", "id")] "id" 100 =
      .ok ⟨"packages", ⟨[("name", "name"), ("desc", "description")]⟩,
        [("owner", ⟨"owner_username", .exact⟩)], ⟨[("id", "id")]⟩, "id", 100⟩ ∧
      ∀ c ∈ ["name", "description", "id", "owner_username"], IdentifierLine c :=
  have h : EntitySearch.build "packages" [("name", "name"), ("desc", "description")]
      [("owner", "owner_username", "exact")] [("id", "id")] "id" 100 =
      .ok ⟨"packages", ⟨[("name", "name"), ("desc", "description")]⟩,
        [("owner", ⟨"owner_username", .exact⟩)], ⟨[("id", "id")]⟩, "id", 100⟩ := by rfl
  ⟨h, fun c hc => (written_columns_identifierLines c).2.2.2 _ _ _ _ _ _ _ h hc⟩

/-- `abc` followed by a line feed is no identifier, yet the gate lets it through. -/
theorem checkIdentifier_accepts_final_newline :
    checkIdentifier "abc\n" = .ok "abc\n" ∧ ¬ IdentifierChars "abc\n".toList := by
  refine ⟨by rfl, fun h => h.newline_not_mem (by simp)⟩

end PackageRegistry.Search
