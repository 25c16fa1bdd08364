import Mathlib
import PackageRegistry.Package.Platform
import PackageRegistry.Proofs.Search.Identifier
/-!
# Platform names read back

`platforms` reads an `os` field into names with no blank at either end or around their one
`:`. Blanks at the ends of the field go with its first and last entries, and names joined by
`, ` read back as the non-empty ones (`platforms_rejoined`).
-/

namespace PackageRegistry.Package

open PackageRegistry.Text PackageRegistry.Search

/-- Characters with no blank at either end. -/
def Trimmed (cs : List Char) : Prop := dropBlanks cs = cs ∧ dropBlanks cs.reverse = cs.reverse

variable {sep c : Char} {a b bs cs : List Char}

/-- Trimmed text is its own trimmed form. -/
theorem Trimmed.trimBlanks_eq (h : Trimmed cs) : trimBlanks cs = cs := by
  rw [trimBlanks, h.1, h.2, List.reverse_reverse]

/-- Trimming gives trimmed text. -/
theorem trimmed_trimBlanks (cs : List Char) : Trimmed (trimBlanks cs) := by
  refine ⟨?_, by simp [trimBlanks, dropBlanks, List.dropWhile_idempotent]⟩
  -- the trimmed text starts where `dropBlanks cs` does, at a character that is not blank
  obtain ⟨t, ht⟩ := List.rdropWhile_prefix (p := isBlank) (l := dropBlanks cs)
  show dropBlanks (List.rdropWhile isBlank (dropBlanks cs)) = List.rdropWhile isBlank _
  cases h : List.rdropWhile isBlank (dropBlanks cs) with
  | nil => rfl
  | cons d r =>
    rw [h] at ht
    rw [dropBlanks, List.dropWhile_cons_of_neg (by simp [isBlank_of_dropBlanks_eq_cons ht.symm])]

/-- Text starting with no blank, followed by a non-blank and more, loses nothing to dropping blanks.
-/
theorem dropBlanks_append_cons (ha : dropBlanks a = a) (hc : isBlank c = false) :
    dropBlanks (a ++ c :: b) = a ++ c :: b := by
  rw [dropBlanks, List.dropWhile_append, ← dropBlanks, ha]
  cases a <;> simp [hc]

/-- Two trimmed texts around a non-blank character are trimmed together. -/
theorem Trimmed.append_cons (ha : Trimmed a) (hb : Trimmed b) (hc : isBlank c = false) :
    Trimmed (a ++ c :: b) :=
  ⟨dropBlanks_append_cons ha.1 hc, by simpa using dropBlanks_append_cons (b := a.reverse) hb.2 hc⟩

/-- Trimming ignores blanks before a text. -/
theorem trimBlanks_blanks_append (hb : ∀ b ∈ bs, isBlank b) (cs : List Char) :
    trimBlanks (bs ++ cs) = trimBlanks cs := by
  unfold trimBlanks dropBlanks
  rw [List.dropWhile_append_of_pos hb]

/-- Trimming ignores blanks after a text. -/
theorem trimBlanks_append_blanks (hb : ∀ b ∈ bs, isBlank b) (cs : List Char) :
    trimBlanks (cs ++ bs) = trimBlanks cs := by
  unfold trimBlanks dropBlanks
  rw [List.dropWhile_append]
  split
  · next h => simp [List.isEmpty_iff.mp h, List.dropWhile_eq_nil_iff.mpr hb]
  · rw [List.reverse_append, List.dropWhile_append_of_pos (by simpa using hb)]

/-! ## Pieces -/

/-- A character of one of the texts is in their join. -/
theorem mem_intercalate_of_mem {l : List Char} :
    ∀ {ls : List (List Char)}, l ∈ ls → c ∈ l → c ∈ [sep].intercalate ls
  | [_], hl, hc => by simp_all
  | l' :: l'' :: ls, hl, hc => by
    rw [List.intercalate_cons_cons]
    rcases List.mem_cons.mp hl with rfl | hl
    · simp [hc]
    · exact List.mem_append_right _ (mem_intercalate_of_mem hl hc)

/-- A trimmed piece holds characters of the text other than the separator. -/
theorem mem_of_mem_splitTrimmed {p : List Char} (hp : p ∈ splitTrimmed sep cs) (hc : c ∈ p) :
    c ∈ cs ∧ c ≠ sep := by
  obtain ⟨q, hq, rfl⟩ := List.mem_map.mp hp
  obtain ⟨-, hfree, hcs⟩ := splitOn_eq_iff.mp (rfl : cs.splitOn sep = _)
  simp only [trimBlanks, dropBlanks, List.mem_reverse] at hc
  have hcq := (List.dropWhile_sublist _).subset (List.mem_reverse.mp
    ((List.dropWhile_sublist _).subset hc))
  exact ⟨hcs ▸ mem_intercalate_of_mem hq hcq, fun h => hfree q hq (h ▸ hcq)⟩

/-- Text added after the last of the joined texts comes after the join. -/
theorem intercalate_concat_append (us : List (List Char)) (u : List Char) :
    [sep].intercalate (us ++ [u ++ bs]) = [sep].intercalate (us ++ [u]) ++ bs := by
  induction us with
  | nil => simp
  | cons v us ih => simp [List.intercalate_cons_of_ne_nil, ih]

section EndBlanks

variable (hs : isBlank sep = false) (hb : ∀ b ∈ bs, isBlank b)
include hs hb

/-- The separator is not among the blanks. -/
theorem sep_not_mem_blanks : sep ∉ bs := fun h => by simpa [hs] using hb sep h

/-- Blanks before a text go with its first piece, where trimming removes them. -/
theorem splitTrimmed_blanks_append (cs : List Char) :
    splitTrimmed sep (bs ++ cs) = splitTrimmed sep cs := by
  obtain ⟨u, us, hu⟩ := List.exists_cons_of_ne_nil (List.splitOn_ne_nil sep cs)
  obtain ⟨-, hfree, hcs⟩ := splitOn_eq_iff.mp hu
  have hsplit : (bs ++ cs).splitOn sep = (bs ++ u) :: us := by
    refine splitOn_eq_iff.mpr ⟨List.cons_ne_nil _ _, ?_, ?_⟩
    · simp only [List.forall_mem_cons, List.mem_append, not_or] at hfree ⊢
      exact ⟨⟨sep_not_mem_blanks hs hb, hfree.1⟩, hfree.2⟩
    · rw [hcs]
      cases us <;> simp [List.intercalate_cons_cons]
  simp [splitTrimmed, hu, hsplit, trimBlanks_blanks_append hb]

/-- Blanks after a text go with its last piece, where trimming removes them. -/
theorem splitTrimmed_append_blanks (cs : List Char) :
    splitTrimmed sep (cs ++ bs) = splitTrimmed sep cs := by
  obtain ⟨us, u, hu⟩ := (List.eq_nil_or_concat _).resolve_left (List.splitOn_ne_nil sep cs)
  rw [List.concat_eq_append] at hu
  obtain ⟨-, hfree, hcs⟩ := splitOn_eq_iff.mp hu
  have hsplit : (cs ++ bs).splitOn sep = us ++ [u ++ bs] := by
    refine splitOn_eq_iff.mpr ⟨by simp, ?_, ?_⟩
    · simp only [List.mem_append, List.mem_singleton] at hfree ⊢
      rintro l (hl | rfl)
      · exact hfree l (.inl hl)
      · simpa [sep_not_mem_blanks hs hb] using hfree u (.inr rfl)
    · rw [hcs, intercalate_concat_append]
  simp [splitTrimmed, hu, hsplit, trimBlanks_append_blanks hb]

end EndBlanks

/-- Blanks at the ends of the field are insignificant: they go with its first and last
entries. -/
theorem platforms_eq (value : String) :
    platforms value = ((splitTrimmed ',' value.toList).filter (!·.isEmpty)).map platformOf := by
  have hcomma : isBlank ',' = false := by decide
  have htrim : splitTrimmed ',' (trimBlanks value.toList) = splitTrimmed ',' value.toList := by
    conv_rhs => rw [← List.takeWhile_append_dropWhile (p := isBlank) (l := value.toList),
      ← List.rdropWhile_append_rtakeWhile (p := isBlank) (l := value.toList.dropWhile isBlank)]
    rw [splitTrimmed_blanks_append hcomma fun b hb => List.mem_takeWhile_imp hb,
      splitTrimmed_append_blanks hcomma fun b hb => List.mem_rtakeWhile_imp hb]
    rfl
  simp only [platforms]
  split
  · next h =>
    rw [← htrim, List.isEmpty_iff.mp h]
    rfl
  · rw [htrim]

/-! ## Names -/

/-- A part of a platform name: trimmed, with no `,` or `:`. -/
def NamePart (p : List Char) : Prop := Trimmed p ∧ ',' ∉ p ∧ ':' ∉ p

/-- The names `platformOf` gives: an operating system, perhaps with `:` and an architecture. -/
inductive PlatformName : List Char → Prop
  | os {os} : NamePart os → PlatformName os
  | withArch {os arch} : NamePart os → NamePart arch → arch ≠ [] → PlatformName (os ++ ':' :: arch)

/-- Each part of an entry without commas, split at colons and trimmed, is a name part. -/
theorem namePart_of_mem {e p : List Char} (he : ',' ∉ e) (hp : p ∈ splitTrimmed ':' e) :
    NamePart p := by
  obtain ⟨q, -, rfl⟩ := List.mem_map.mp hp
  exact ⟨trimmed_trimBlanks q, fun hc => he (mem_of_mem_splitTrimmed hp hc).1,
    fun hc => (mem_of_mem_splitTrimmed hp hc).2 rfl⟩

/-- The platform read from an entry without commas is a platform name. -/
theorem platformName_platformOf {e : List Char} (he : ',' ∉ e) :
    PlatformName (platformOf e).toList := by
  unfold platformOf
  split
  · next os arch _ h =>
    have hos := namePart_of_mem he (h ▸ List.mem_cons_self)
    have harch := namePart_of_mem he (h ▸ List.mem_cons_of_mem _ List.mem_cons_self)
    cases arch with
    | nil => simpa using PlatformName.os hos
    | cons d r => simpa using PlatformName.withArch hos harch (List.cons_ne_nil d r)
  · next os h => simpa using PlatformName.os (namePart_of_mem he (h ▸ List.mem_cons_self))
  · exact .os ⟨⟨rfl, rfl⟩, by simp⟩

namespace PlatformName

variable {n : List Char}

/-- A platform name is trimmed. -/
theorem trimmed : PlatformName n → Trimmed n
  | .os hos => hos.1
  | .withArch hos harch _ => hos.1.append_cons harch.1 (by decide)

/-- A platform name holds no comma. -/
theorem comma_not_mem : PlatformName n → ',' ∉ n
  | .os hos => hos.2.1
  | .withArch hos harch _ => by simp [hos.2.1, harch.2.1]

/-- A name has at most two parts around `:`, each trimmed. -/
theorem parts_trimmed : PlatformName n →
    (n.splitOn ':').length ≤ 2 ∧ ∀ part ∈ n.splitOn ':', trimBlanks part = part
  | .os hos => by simp [List.splitOn_eq_singleton hos.2.2, hos.1.trimBlanks_eq]
  | .withArch hos harch _ => by
    simp [List.splitOn_append_cons_self_of_not_mem hos.2.2, List.splitOn_eq_singleton harch.2.2,
      hos.1.trimBlanks_eq, harch.1.trimBlanks_eq]

/-- A name read again as an entry is itself. -/
theorem platformOf_eq : PlatformName n → platformOf n = String.ofList n
  | .os hos => by simp [platformOf, splitTrimmed, List.splitOn_eq_singleton hos.2.2,
      hos.1.trimBlanks_eq]
  | .withArch hos harch hne => by
    simp [platformOf, splitTrimmed, List.splitOn_append_cons_self_of_not_mem hos.2.2,
      List.splitOn_eq_singleton harch.2.2, hos.1.trimBlanks_eq, harch.1.trimBlanks_eq, hne,
      String.append_assoc]

end PlatformName

/-- Every platform read from a value is a platform name. -/
theorem platformName_of_mem {value n : String} (h : n ∈ platforms value) :
    PlatformName n.toList := by
  rw [platforms_eq] at h
  obtain ⟨e, he, rfl⟩ := List.mem_map.mp h
  exact platformName_platformOf fun hc =>
    (mem_of_mem_splitTrimmed (List.mem_filter.mp he).1 hc).2 rfl

/-! ## Joining names again -/

/-- Joining with a comma and a blank is joining with a comma texts after the first led by a blank.
-/
theorem intercalate_comma_space (m : List Char) (ms : List (List Char)) :
    [',', ' '].intercalate (m :: ms) = [','].intercalate (m :: ms.map (' ' :: ·)) := by
  induction ms generalizing m with
  | nil => rfl
  | cons m' ms ih => simp [List.intercalate_cons_cons, List.intercalate_cons_cons_left, ih]

/-- Names joined by `, ` split at `,` into themselves. -/
theorem splitTrimmed_rejoin {m : List Char} {ms : List (List Char)}
    (h : ∀ n ∈ m :: ms, PlatformName n) :
    splitTrimmed ',' ([',', ' '].intercalate (m :: ms)) = m :: ms := by
  have hblank : ∀ b ∈ [' '], isBlank b := by simp only [List.mem_singleton, forall_eq]; rfl
  have hspace : ∀ n ∈ ms, trimBlanks (' ' :: n) = n := fun n hn =>
    (trimBlanks_blanks_append hblank n).trans (h n (List.mem_cons_of_mem m hn)).trimmed.trimBlanks_eq
  rw [intercalate_comma_space, splitTrimmed, List.splitOn_intercalate]
  · rw [List.map_cons, (h m List.mem_cons_self).trimmed.trimBlanks_eq, List.map_map]
    exact congrArg _ ((List.map_congr_left hspace).trans (List.map_id' ms))
  · intro l hl
    rcases List.mem_cons.mp hl with rfl | hl
    · exact (h l List.mem_cons_self).comma_not_mem
    · obtain ⟨n, hn, rfl⟩ := List.mem_map.mp hl
      simpa using (h n (List.mem_cons_of_mem m hn)).comma_not_mem
  · simp

/-- Reading the names back as entries keeps the non-empty ones. -/
theorem platformOf_filter {ns : List String} (h : ∀ n ∈ ns, PlatformName n.toList) :
    ((ns.map String.toList).filter (!·.isEmpty)).map platformOf = ns.filter (· ≠ "") := by
  induction ns with
  | nil => rfl
  | cons n ns ih =>
    have hn := (h n List.mem_cons_self).platformOf_eq
    have hns := ih fun m hm => h m (List.mem_cons_of_mem n hm)
    by_cases he : n = "" <;> simp [he, hn, hns]

/-- The names read from an `os` field have no blanks at either end or around their `:`, of
which they have at most one; joined by `, ` they read back as themselves, less the empty name
that an entry of colons leaves. -/
theorem platforms_rejoined (value : String) :
    (∀ n ∈ platforms value, trim n = n ∧ (n.toList.splitOn ':').length ≤ 2 ∧
      ∀ part ∈ n.toList.splitOn ':', trimBlanks part = part) ∧
    platforms (", ".intercalate (platforms value)) = (platforms value).filter (· ≠ "") := by
  have hnames : ∀ n ∈ platforms value, PlatformName n.toList := fun n hn => platformName_of_mem hn
  refine ⟨fun n hn => ⟨?_, (hnames n hn).parts_trimmed⟩, ?_⟩
  · rw [trim, (hnames n hn).trimmed.trimBlanks_eq, String.ofList_toList]
  · rw [platforms_eq, String.toList_intercalate, ← platformOf_filter hnames]
    cases hN : platforms value with
    | nil => rfl
    | cons n ns =>
      rw [hN] at hnames
      rw [List.map_cons, show ", ".toList = [',', ' '] from rfl,
        splitTrimmed_rejoin (by simpa using hnames)]

example : platforms " : , linux :amd64 " = ["", "linux:amd64"] := by decide

end PackageRegistry.Package
