import Mathlib
import PackageRegistry.Proofs.Sql.Utf8Read
import PackageRegistry.Proofs.Store.Selection
/-!
# A word under `LIKE`

A search looks for a word with `column LIKE '%word%'`. Without `%`, `_` or zero in the word
(`LikeWord`), this finds exactly the text containing it, ASCII letters in either case
(`likeMatches_word_iff`); otherwise they are wildcards.
-/

namespace PackageRegistry.Sql

/-! ## Characters compared as `LIKE` compares them -/

/-- Lowering changes no code into zero, nor zero into any other. -/
theorem lowerAscii_eq_zero {c : Nat} : lowerAscii c = 0 ↔ c = 0 := by
  unfold lowerAscii
  split_ifs with h
  · simp only [Bool.and_eq_true, decide_eq_true_eq] at h
    exact ⟨False.elim, fun h' => by omega⟩
  · rfl

/-- Two code points lower alike exactly when equal or ASCII and lowering alike: case folding
only relates ASCII. -/
theorem lowerAscii_eq_iff (a b : Nat) :
    lowerAscii a = lowerAscii b ↔ a = b ∨ a < 0x80 ∧ b < 0x80 ∧ lowerAscii a = lowerAscii b := by
  unfold lowerAscii
  split_ifs with ha hb hb <;> simp only [Bool.and_eq_true, decide_eq_true_eq] at * <;> omega

/-- The matcher's test of a literal character `a` against the text's `b`. -/
theorem likeSame_iff (a b : Nat) :
    (a == b || (a < 0x80 && b < 0x80 && lowerAscii a == lowerAscii b)) = true ↔
      lowerAscii a = lowerAscii b := by
  simp only [Bool.or_eq_true, beq_iff_eq, Bool.and_eq_true, decide_eq_true_eq, and_assoc]
  exact (lowerAscii_eq_iff a b).symm

/-- The search's test of the text's character `a` against the pattern's `c`. -/
theorem likeHit_iff (a c : Nat) :
    (a == c || (likeRules.noCase && c < 0x80 && a < 0x80 && lowerAscii a == lowerAscii c)) = true ↔
      lowerAscii a = lowerAscii c := by
  simp only [likeRules, Bool.true_and, Bool.or_eq_true, beq_iff_eq, Bool.and_eq_true,
    decide_eq_true_eq, and_assoc]
  rw [and_left_comm]
  exact (lowerAscii_eq_iff a c).symm

/-- A character a word may hold for `LIKE` to read it as itself: no zero character and neither
wildcard. -/
structure LikeChar (c : Char) : Prop where
  ne_zero : c.toNat ≠ 0
  ne_percent : c ≠ '%'
  ne_underscore : c ≠ '_'

/-- A character's code is a number below `U+FFFD` only if it is that character's. -/
theorem charCode_ne {c : Char} {n : Nat} (hn : n < 0xFFFD) (h : c.toNat ≠ n) : charCode c ≠ n := by
  unfold charCode
  split_ifs <;> omega

/-- A character allowed in a `like` word is not the end, `%` or `_`. -/
theorem LikeChar.code {c : Char} (h : LikeChar c) :
    charCode c ≠ 0 ∧ charCode c ≠ 37 ∧ charCode c ≠ 95 := by
  refine ⟨charCode_ne (by decide) h.ne_zero, charCode_ne (by decide) fun h' => h.ne_percent ?_,
    charCode_ne (by decide) fun h' => h.ne_underscore ?_⟩
  · exact Char.toNat_inj.mp h'
  · exact Char.toNat_inj.mp h'

/-- The code points of characters as `LIKE` compares them, ASCII letters lowered. -/
def lowerCodes (cs : List Char) : List Nat := cs.map fun c => lowerAscii (charCode c)

/-- No text has no codes. -/
@[simp] theorem lowerCodes_nil : lowerCodes [] = [] := rfl

/-- A text's codes are its first character's, lowered, then the rest's. -/
@[simp] theorem lowerCodes_cons (c : Char) (cs : List Char) :
    lowerCodes (c :: cs) = lowerAscii (charCode c) :: lowerCodes cs := rfl

/-- Some tail of text begins with a word exactly when the word stands somewhere in the text. -/
theorem exists_tails_prefix_iff (v us : List Char) :
    (∃ t ∈ us.tails, lowerCodes v <+: lowerCodes t) ↔ lowerCodes v <:+: lowerCodes us := by
  rw [List.infix_iff_prefix_suffix]
  constructor
  · rintro ⟨t, ht, hpre⟩
    exact ⟨lowerCodes t, hpre, ((List.mem_tails _ _).mp ht).map _⟩
  · rintro ⟨t', hpre, hsuf⟩
    obtain ⟨t, ht, rfl⟩ := List.suffix_map_iff.mp hsuf
    exact ⟨t, (List.mem_tails _ _).mpr ht, hpre⟩

/-! ## The matcher on `%word%` -/

/-- A literal pattern character matches the next text character if equal or one letter in
either case, rest against rest. -/
theorem patternCompare_literal {c fuel : Nat} {pat pat' : List UInt8} (hnext : nextChar pat = (c, pat'))
    (h0 : c ≠ 0) (hall : c ≠ 37) (hone : c ≠ 95) (str : List UInt8) :
    patternCompare likeRules (fuel + 1) pat str =
      if lowerAscii c = lowerAscii (nextChar str).1 then
        patternCompare likeRules fuel pat' (nextChar str).2
      else .noMatch := by
  rw [patternCompare, hnext]
  have hc0 : (c == 0) = false := by simpa using h0
  have hc37 : (c == 37) = false := by simpa using hall
  have hc95 : (c == 95) = false := by simpa using hone
  obtain ⟨c2, str'⟩ := nextChar str
  simp only [likeRules, hc0, hc37, hc95, Bool.false_eq_true, if_false, Bool.and_false,
    Bool.false_and, Bool.not_true, Bool.true_and]
  by_cases hsame : c = c2
  · subst hsame
    simp
  · have hx := likeSame_iff c c2
    rw [show (c == c2) = false by simpa using hsame, Bool.false_or] at hx
    rw [if_neg (by simpa using hsame)]
    exact if_congr hx rfl rfl


/-- The byte of `%` is a whole character. -/
theorem startsChar_percent : StartsChar [37] := by
  intro b hb
  rw [List.head?_cons, Option.mem_def, Option.some.injEq] at hb
  subst hb
  decide

/-- The rest of a word pattern matches text exactly when the word, compared as `LIKE` compares,
begins the text. -/
theorem patternCompare_wordRest : ∀ (ws : List Char), (∀ c ∈ ws, LikeChar c) →
    ∀ (us : List Char) (fuel : Nat), ws.length < fuel →
      patternCompare likeRules fuel (ws.flatMap String.utf8EncodeChar ++ [37])
          (us.flatMap String.utf8EncodeChar) =
        if lowerCodes ws <+: lowerCodes us then .matched else .noMatch
  | [], _, us, fuel + 1, _ => by
    -- the closing `%` matches whatever text is left
    rw [lowerCodes_nil, if_pos List.nil_prefix]
    rfl
  | d :: ws, hws, us, fuel + 1, hlen => by
    obtain ⟨h0, h37, h95⟩ := (hws d List.mem_cons_self).code
    have hrest : ∀ c ∈ ws, LikeChar c := fun c hc => hws c (List.mem_cons_of_mem d hc)
    rw [patternCompare_literal (nextChar_flatMap d ws startsChar_percent) h0 h37 h95]
    cases us with
    | nil =>
      have hend : lowerAscii (charCode d) ≠ lowerAscii 0 := by
        rw [show lowerAscii 0 = 0 from rfl]
        exact fun h => h0 (lowerAscii_eq_zero.mp h)
      rw [show nextChar (([] : List Char).flatMap String.utf8EncodeChar) = (0, []) from rfl,
        if_neg hend, if_neg]
      simp
    | cons e us =>
      have ih := patternCompare_wordRest ws hrest us fuel (by simp at hlen; omega)
      rw [nextChar_text, ih]
      rw [lowerCodes_cons, lowerCodes_cons]
      by_cases h : lowerAscii (charCode d) = lowerAscii (charCode e)
      · rw [if_pos h]
        exact if_congr (by simp [List.cons_prefix_cons, h]) rfl rfl
      · rw [if_neg h, if_neg (by simp [List.cons_prefix_cons, h])]


/-- The `LIKE` search for a word's first character finds a match exactly when the word begins
some tail. -/
theorem find_suffixesAfter (d : Char) (ws : List Char) (hws : ∀ c ∈ ws, LikeChar c) :
    ∀ (us : List Char) (fuel fuel' : Nat), us.length < fuel → ws.length < fuel' →
      ((suffixesAfter likeRules (charCode d) fuel (us.flatMap String.utf8EncodeChar)).map
          (patternCompare likeRules fuel' (ws.flatMap String.utf8EncodeChar ++ [37]))).find?
          (· != .noMatch) =
        if ∃ t ∈ us.tails, lowerCodes (d :: ws) <+: lowerCodes t then some .matched else none
  | [], fuel + 1, fuel', _, _ => by
    rw [if_neg (by simp)]
    rfl
  | e :: us, fuel + 1, fuel', hus, hws' => by
    have ih := find_suffixesAfter d ws hws us fuel fuel' (by simp at hus; omega) hws'
    have hhit := likeHit_iff (charCode e) (charCode d)
    rw [suffixesAfter, readChar_text]
    dsimp only
    simp only [List.tails_cons, List.mem_cons, exists_eq_or_imp, lowerCodes_cons,
      List.cons_prefix_cons]
    by_cases h : lowerAscii (charCode e) = lowerAscii (charCode d)
    · rw [if_pos (hhit.mpr h), List.map_cons,
        patternCompare_wordRest ws hws us fuel' hws']
      by_cases hrest : lowerCodes ws <+: lowerCodes us
      · rw [if_pos hrest, if_pos (.inl ⟨h.symm, hrest⟩)]
        rfl
      · rw [if_neg hrest, List.find?_cons_of_neg (by decide), ih]
        exact if_congr (by simp [h, hrest]) rfl rfl
    · rw [if_neg (mt hhit.mp h), ih]
      exact if_congr (by simp [Ne.symm h]) rfl rfl


/-- `%word%` matches exactly when the word, compared as `LIKE` does, begins some tail. -/
theorem patternCompare_word (d : Char) (ws : List Char) (hws : ∀ c ∈ d :: ws, LikeChar c)
    (us : List Char) :
    let pat := 37 :: ((d :: ws).flatMap String.utf8EncodeChar ++ [37])
    patternCompare likeRules (pat.length + 1) pat (us.flatMap String.utf8EncodeChar) =
      if ∃ t ∈ us.tails, lowerCodes (d :: ws) <+: lowerCodes t then .matched
      else .noWildcardMatch := by
  intro pat
  obtain ⟨h0, h37, h95⟩ := (hws d List.mem_cons_self).code
  have hrest : ∀ c ∈ ws, LikeChar c := fun c hc => hws c (List.mem_cons_of_mem d hc)
  have hc0 : (charCode d == 0) = false := by simpa using h0
  have hc37 : (charCode d == 37) = false := by simpa using h37
  have hc95 : (charCode d == 95) = false := by simpa using h95
  have hnext := nextChar_flatMap d ws startsChar_percent
  -- after the opening `%` the first character of the word is looked for
  have hskip : ∀ fuel str, skipWildcards likeRules (fuel + 1)
      ((d :: ws).flatMap String.utf8EncodeChar ++ [37]) str =
        some (charCode d, ws.flatMap String.utf8EncodeChar ++ [37], str) := by
    intro fuel str
    rw [skipWildcards, hnext]
    simp [likeRules, hc37, hc95]
  have hlen : ws.length < pat.length := by
    have := length_le_flatMap ws
    simp only [pat, List.flatMap_cons, List.length_cons, List.length_append,
      String.length_utf8EncodeChar]
    have := Char.utf8Size_pos d
    omega
  have hfind := find_suffixesAfter d ws hrest us
    ((us.flatMap String.utf8EncodeChar).length + 1) pat.length (by
      have := length_le_flatMap us
      omega) hlen
  have hfirst : nextChar pat = (37, (d :: ws).flatMap String.utf8EncodeChar ++ [37]) := rfl
  have hall : likeRules.matchAll = 37 := rfl
  have hother : likeRules.matchOther = 0 := rfl
  have hsets : likeRules.sets = false := rfl
  have h370 : ((37 : Nat) == 0) = false := rfl
  have h3737 : ((37 : Nat) == 37) = true := rfl
  rw [patternCompare, hfirst]
  simp only [h370, h3737, hskip, hall, hother, hsets, hc0, Bool.false_eq_true, if_false,
    if_true, Bool.and_false, Bool.not_true, hfind]
  by_cases h : ∃ t ∈ us.tails, lowerCodes (d :: ws) <+: lowerCodes t
  · rw [if_pos h, if_pos h]
    rfl
  · rw [if_neg h, if_neg h]
    rfl


/-- The pattern `%%` matches every text. -/
theorem patternCompare_anything (str : List UInt8) :
    patternCompare likeRules 3 [37, 37] str = .matched := rfl

/-! ## `LIKE` on text -/

/-- `LIKE` without escape within the limit matches pattern against text, each to its first
zero. -/
theorem likeMatches_ofString {s p : String}
    (hlen : (p.toList.flatMap String.utf8EncodeChar).length ≤ maxPatternLength) :
    likeMatches (.ofString s) p =
      (patternCompare likeRules ((beforeNul (p.toList.flatMap String.utf8EncodeChar)).length + 1)
        (beforeNul (p.toList.flatMap String.utf8EncodeChar))
        (beforeNul (s.toList.flatMap String.utf8EncodeChar)) == .matched) := by
  rw [likeMatches, matchPattern, ofString_eq, ofString_eq]
  simp only [SqlValue.textBytes, SqlValue.textBytes?, Option.getD_some]
  have hfit : ¬ (p.toList.flatMap String.utf8EncodeChar).length > maxPatternLength := by omega
  simp only [Bool.or_false, Bool.false_eq_true, if_false, hfit]
  by_cases hm : (patternCompare likeRules
      ((beforeNul (p.toList.flatMap String.utf8EncodeChar)).length + 1)
      (beforeNul (p.toList.flatMap String.utf8EncodeChar))
      (beforeNul (s.toList.flatMap String.utf8EncodeChar)) == .matched) = true
  · simp [hm]
  · simp [hm]


/-- `NULL` matches no pattern. -/
theorem likeMatches_null (pattern : String) : likeMatches .null pattern = false := by
  unfold likeMatches matchPattern
  rw [ofString_eq]
  by_cases h : (SqlValue.text (pattern.toList.flatMap String.utf8EncodeChar)).textBytes.length >
      maxPatternLength
  · simp [h]
  · simp [h, SqlValue.textBytes?]

/-- Text contains a word as `%w%` finds it: its characters, ASCII letters in either case,
together before the first zero. -/
def ContainsLike (s w : String) : Prop :=
  lowerCodes w.toList <:+: lowerCodes (s.toList.takeWhile fun c => c.toNat ≠ 0)

/-- A word a `LIKE` pattern reads as itself: no wildcard or zero, the pattern within the
engine's length limit. -/
structure LikeWord (w : String) : Prop where
  chars : ∀ c ∈ w.toList, LikeChar c
  fits : (w.toList.flatMap String.utf8EncodeChar).length + 2 ≤ maxPatternLength

/-- The UTF-8 of `%` is one byte, 37. -/
theorem percent_bytes : String.utf8EncodeChar '%' = [37] := rfl

/-- The UTF-8 of a word between `%` is the word's UTF-8 between bytes 37. -/
theorem wordPattern_bytes (w : String) :
    ("%" ++ w ++ "%").toList.flatMap String.utf8EncodeChar =
      37 :: (w.toList.flatMap String.utf8EncodeChar ++ [37]) := by
  simp [String.toList_append, List.flatMap_append, percent_bytes]

/-- Text is like %w% exactly when it contains the word w, for a word LIKE reads as itself. -/
theorem likeMatches_word_iff {w : String} (hw : LikeWord w) (s : String) :
    likeMatches (.ofString s) ("%" ++ w ++ "%") = true ↔ ContainsLike s w := by
  have hlen : (("%" ++ w ++ "%").toList.flatMap String.utf8EncodeChar).length ≤
      maxPatternLength := by
    rw [wordPattern_bytes, List.length_cons, List.length_append, List.length_singleton]
    exact hw.fits
  -- the pattern has no zero character, so all of it is read
  have hpat : beforeNul (("%" ++ w ++ "%").toList.flatMap String.utf8EncodeChar) =
      37 :: (w.toList.flatMap String.utf8EncodeChar ++ [37]) := by
    rw [beforeNul_flatMap, List.takeWhile_eq_self_iff.mpr, wordPattern_bytes]
    intro c hc
    simp only [String.toList_append, List.mem_append] at hc
    rcases hc with (hc | hc) | hc
    · simp_all
    · simpa using (hw.chars c hc).ne_zero
    · simp_all
  rw [likeMatches_ofString hlen, hpat, beforeNul_flatMap, ContainsLike]
  cases hws : w.toList with
  | nil =>
    rw [List.flatMap_nil, List.nil_append]
    exact iff_of_true (by rw [List.length_cons, List.length_singleton, patternCompare_anything]; rfl)
      List.nil_infix
  | cons d ws =>
    have hchars : ∀ c ∈ d :: ws, LikeChar c := hws ▸ hw.chars
    have hcmp := patternCompare_word d ws hchars (s.toList.takeWhile fun c => c.toNat ≠ 0)
    dsimp only at hcmp
    rw [hcmp, ← exists_tails_prefix_iff]
    by_cases h : ∃ t ∈ (s.toList.takeWhile fun c => c.toNat ≠ 0).tails, lowerCodes (d :: ws) <+: lowerCodes t
    · rw [if_pos h]
      exact iff_of_true rfl h
    · rw [if_neg h]
      exact iff_of_false (by decide) h

example : likeMatches (.ofString "logxfmt") ("%" ++ "log_fmt" ++ "%") = true := by decide +kernel

end PackageRegistry.Sql
