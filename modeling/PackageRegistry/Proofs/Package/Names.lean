import Mathlib
import PackageRegistry.Package.Name
import PackageRegistry.Text.Percent
import PackageRegistry.Proofs.Text.Codecs
/-!
# The names a package may take

`validateName` reports the first rule a name breaks: length, lowercasing, URL-safety (after
encoding as UTF-8) and the reserved `@ . ~`. Together they leave exactly the names of 1 to 213
characters over `a-z 0-9 _ - $ & + : =` (`validateName_rules`).
-/

namespace PackageRegistry.Package

open PackageRegistry.Text

/-- The characters package names are made of: `a`–`z`, `0`–`9` and `_ - $ & + : =`. -/
def isNameChar (c : Char) : Bool :=
  ('a' ≤ c && c ≤ 'z') || ('0' ≤ c && c ≤ '9') || "_-$&+:=".toList.contains c

/-! ## Percent-encoding -/

/-- What `percentEncode` writes for one character: the character itself when it is kept, else
`%XX` for each of its UTF-8 octets. -/
def percentPiece (safe : String) (c : Char) : List Char :=
  if isUnreserved c || safe.toList.contains c then [c]
  else (utf8Bytes c.toString).flatMap fun b => '%' :: (hexPadded 2 b.toNat).map Char.toUpper

/-- A character kept by percent-encoding is written as it is. -/
theorem percentPiece_of_kept {safe : String} {c : Char}
    (hk : (isUnreserved c || safe.toList.contains c) = true) : percentPiece safe c = [c] := by
  rw [percentPiece, if_pos hk]

/-- Percent-encoding writes each character's piece in turn. -/
theorem percentEncode_toList (safe s : String) :
    (percentEncode safe s).toList = s.toList.flatMap (percentPiece safe) := by
  simp only [percentEncode, String.toList_join, List.flatMap_map]
  apply List.flatMap_congr
  intro c _
  unfold percentPiece
  split
  · simp
  · simp [String.toList_join, List.flatMap_map]

/-- An escape is longer than the one character it stands for. -/
theorem length_percentPiece_of_escaped {safe : String} {c : Char}
    (hk : (isUnreserved c || safe.toList.contains c) = false) :
    3 ≤ (percentPiece safe c).length := by
  have hbytes : utf8Bytes c.toString = String.utf8EncodeChar c := by
    unfold utf8Bytes
    simpa using Sql.SqlValue.text.inj (Sql.ofString_eq c.toString)
  have hsize : (String.utf8EncodeChar c).length = c.utf8Size := String.length_utf8EncodeChar c
  obtain ⟨b, bs, hb⟩ := List.exists_cons_of_length_pos (hsize ▸ c.utf8Size_pos)
  have hpad : 2 ≤ (hexPadded 2 b.toNat).length := by simp [hexPadded]; omega
  rw [percentPiece, hk, if_neg Bool.false_ne_true, hbytes, hb, List.flatMap_cons,
    List.length_append, List.length_cons, List.length_map]
  omega

/-- Each character's piece holds at least one character. -/
theorem length_le_length_percentPiece (safe : String) (c : Char) :
    1 ≤ (percentPiece safe c).length := by
  cases hk : (isUnreserved c || safe.toList.contains c)
  · have := length_percentPiece_of_escaped hk
    omega
  · simp [percentPiece_of_kept hk]

/-- Percent-encoding leaves text as it is exactly when it keeps every character. -/
theorem percentEncode_eq_self_iff (safe s : String) :
    percentEncode safe s = s ↔
      ∀ c ∈ s.toList, (isUnreserved c || safe.toList.contains c) = true := by
  rw [← String.toList_inj, percentEncode_toList]
  generalize s.toList = cs
  -- each character is written as at least one character, and an escaped one as three
  have hlen : ∀ ds : List Char, ds.length ≤ (ds.flatMap (percentPiece safe)).length := by
    intro ds
    induction ds with
    | nil => simp
    | cons d ds ih =>
      have := length_le_length_percentPiece safe d
      rw [List.flatMap_cons, List.length_append, List.length_cons]
      omega
  induction cs with
  | nil => simp
  | cons c cs ih =>
    rw [List.flatMap_cons]
    cases hk : (isUnreserved c || safe.toList.contains c)
    · simp only [List.mem_cons, forall_eq_or_imp, hk, Bool.false_eq_true, false_and, iff_false]
      intro heq
      have h1 := congrArg List.length heq
      have h2 := length_percentPiece_of_escaped hk
      have h3 := hlen cs
      simp only [List.length_append, List.length_cons] at h1
      omega
    · simp only [percentPiece_of_kept hk, List.singleton_append, List.cons.injEq, true_and,
        List.mem_cons, forall_eq_or_imp, hk, ih]

/-! ## The rules character by character -/

/-- The characters safe in a URL are those percent-encoding keeps with `$&+:=@`. -/
theorem isUrlSafe_eq_kept (c : Char) :
    isUrlSafe c = (isUnreserved c || "$&+:=@".toList.contains c) := by
  simp [isUrlSafe, isUnreserved, Bool.or_assoc]

/-- A character safe in a URL is ASCII. -/
theorem ascii_of_isUrlSafe {c : Char} (h : isUrlSafe c = true) : c.toNat < 0x80 := by
  simp only [isUrlSafe, Bool.or_eq_true, Bool.and_eq_true, decide_eq_true_eq] at h
  rcases h with ⟨-, h⟩ | h
  · exact h
  · simp at h
    rcases h with rfl | rfl | rfl | rfl | rfl | rfl | rfl | rfl | rfl | rfl <;> decide

/-- A name character is ASCII. -/
theorem ascii_of_isNameChar {c : Char} (h : isNameChar c = true) : c.toNat < 0x80 := by
  simp only [isNameChar, Bool.or_eq_true, Bool.and_eq_true, decide_eq_true_eq] at h
  rcases h with (⟨-, h⟩ | ⟨-, h⟩) | h
  · exact Nat.lt_of_le_of_lt h (by decide)
  · exact Nat.lt_of_le_of_lt h (by decide)
  · simp at h
    rcases h with rfl | rfl | rfl | rfl | rfl | rfl | rfl <;> decide

/-- A name character is kept by URL-safety, not reserved, and unchanged by lowercasing; both
sides only hold of ASCII. -/
theorem isNameChar_iff (c : Char) :
    isNameChar c = true ↔
      isUrlSafe c = true ∧ isReservedChar c = false ∧ c.toLower = c := by
  have hascii : ∀ n : Fin 128, (isNameChar (Char.ofNat n) = true ↔
      isUrlSafe (Char.ofNat n) = true ∧ isReservedChar (Char.ofNat n) = false ∧
        (Char.ofNat n).toLower = Char.ofNat n) := by decide
  by_cases hc : c.toNat < 0x80
  · simpa using hascii ⟨c.toNat, hc⟩
  · exact ⟨fun h => absurd (ascii_of_isNameChar h) hc,
      fun ⟨h, _⟩ => absurd (ascii_of_isUrlSafe h) hc⟩

/-- Among the characters the URL-safety rule keeps, the reserved ones are `@ . ~`. -/
theorem isReservedChar_of_isUrlSafe {c : Char} (h : isUrlSafe c = true) :
    isReservedChar c = true ↔ c = '@' ∨ c = '.' ∨ c = '~' := by
  have hascii : ∀ n : Fin 128, isUrlSafe (Char.ofNat n) = true →
      (isReservedChar (Char.ofNat n) = true ↔
        Char.ofNat n = '@' ∨ Char.ofNat n = '.' ∨ Char.ofNat n = '~') := by decide
  simpa using hascii ⟨c.toNat, ascii_of_isUrlSafe h⟩ (by simpa using h)

/-- ASCII text is lowered character by character. -/
theorem lowerFrom_of_ascii (before : List Char) {cs : List Char}
    (h : ∀ c ∈ cs, c.toNat < 0x80) : lowerFrom before cs = cs.map Char.toLower := by
  induction cs generalizing before with
  | nil => rfl
  | cons c cs ih =>
    have hc := h c (by simp)
    have hsigma : c ≠ 'Σ' := by
      rintro rfl
      exact absurd hc (by decide)
    rw [lowerFrom, if_neg hsigma, if_pos hc, ih _ (fun d hd => h d (by simp [hd]))]
    rfl

/-- ASCII text is its own lowercase exactly when each character is. -/
theorem toLower_eq_self_of_ascii {name : String} (h : ∀ c ∈ name.toList, c.toNat < 0x80) :
    toLower name = name ↔ ∀ c ∈ name.toList, c.toLower = c := by
  rw [toLower, lowerFrom_of_ascii [] h, ← String.toList_inj, String.toList_ofList]
  conv_lhs => rhs; rw [← List.map_id name.toList]
  exact List.map_inj_left

/-! ## Names -/

/-- An ASCII character stands in for no surrogate. -/
theorem isStandIn_of_ascii {c : Char} (h : c.toNat < 0x80) : isStandIn c = false := by
  have hsmall : ¬standInOffset ≤ c.toNat := by
    unfold standInOffset
    omega
  simp [isStandIn, standInUnit?, hsmall]

/-- A name passes exactly when it has 1 to 213 characters, all over `a-z 0-9 _ - $ & + : =`. -/
theorem validateName_eq_ok_iff (name : String) :
    validateName name = .ok () ↔ 0 < name.length ∧ name.length < nameLengthLimit ∧
      ∀ c ∈ name.toList, isNameChar c = true := by
  unfold validateName
  by_cases hlen : name.length = 0 ∨ name.length ≥ nameLengthLimit
  · rw [if_pos hlen]
    simp only [reduceCtorEq, false_iff]
    omega
  rw [if_neg hlen]
  have hrange : 0 < name.length ∧ name.length < nameLengthLimit := by omega
  simp only [hrange, true_and]
  -- the name characters are the ASCII ones that the three character rules pass
  have hchars : (∀ c ∈ name.toList, isNameChar c = true) ↔
      (∀ c ∈ name.toList, isUrlSafe c = true) ∧ (∀ c ∈ name.toList, isReservedChar c = false) ∧
        toLower name = name := by
    simp only [isNameChar_iff]
    constructor
    · intro h
      refine ⟨fun c hc => (h c hc).1, fun c hc => (h c hc).2.1, ?_⟩
      rw [toLower_eq_self_of_ascii (fun c hc => ascii_of_isUrlSafe (h c hc).1)]
      exact fun c hc => (h c hc).2.2
    · rintro ⟨hsafe, hres, hlow⟩ c hc
      rw [toLower_eq_self_of_ascii (fun c hc => ascii_of_isUrlSafe (hsafe c hc))] at hlow
      exact ⟨hsafe c hc, hres c hc, hlow c hc⟩
  rw [hchars]
  by_cases hlow : toLower name ≠ name
  · rw [if_pos hlow]
    simp [hlow]
  rw [if_neg hlow]
  simp only [not_not] at hlow
  cases henc : encodeUtf8 name with
  | error e =>
    simp only [reduceCtorEq, false_iff, not_and]
    -- ASCII text has a UTF-8 form
    intro hsafe _ _
    have hnone : ∀ c ∈ name.toList, isStandIn c = false :=
      fun c hc => isStandIn_of_ascii (ascii_of_isUrlSafe (hsafe c hc))
    cases henc.symm.trans (encodeUtf8_eq_ok_iff.mpr ⟨hnone, rfl⟩)
  | ok _ =>
    dsimp only
    simp only [hlow, and_true]
    by_cases hall : ∀ c ∈ name.toList, isUrlSafe c = true
    · have hkept : ¬(!name.toList.all isUrlSafe) = true := by simpa using hall
      rw [if_neg hkept]
      split <;> simp_all [List.any_eq_true]
    · have hescaped : (!name.toList.all isUrlSafe) = true := by simpa using hall
      rw [if_pos hescaped]
      simp [hall]

/-- Checking a name reports the first rule it breaks, in order: length, lowercasing, URL-safety
(after encoding as UTF-8, which fails on a surrogate stand-in), and the reserved `@ . ~`; the
names breaking none are those of 1 to 213 characters over `a-z 0-9 _ - $ & + : =`. -/
theorem validateName_rules (name : String) :
    (validateName name =
      if name.length = 0 ∨ nameLengthLimit ≤ name.length then .error (.inr (.name .length))
      else if toLower name ≠ name then .error (.inr (.name .notLowercase))
      else match encodeUtf8 name with
        | .error e => .error (.inl e)
        | .ok _ =>
          if percentEncode "$&+:=@" name ≠ name then .error (.inr (.name .notUrlSafe))
          else if '@' ∈ name.toList ∨ '.' ∈ name.toList ∨ '~' ∈ name.toList then
            .error (.inr (.name .specialCharacter))
          else .ok ()) ∧
    (validateName name = .ok () ↔ 0 < name.length ∧ name.length < nameLengthLimit ∧
      ∀ c ∈ name.toList, isNameChar c = true) := by
  refine ⟨?_, validateName_eq_ok_iff name⟩
  have hurl : percentEncode "$&+:=@" name = name ↔ ∀ c ∈ name.toList, isUrlSafe c = true := by
    simp only [percentEncode_eq_self_iff, isUrlSafe_eq_kept]
  -- once every character is kept, the reserved ones left are `@ . ~`
  have hreserved : (∀ c ∈ name.toList, isUrlSafe c = true) →
      ((name.toList.any isReservedChar = true) ↔
        '@' ∈ name.toList ∨ '.' ∈ name.toList ∨ '~' ∈ name.toList) := by
    intro hall
    simp only [List.any_eq_true]
    constructor
    · rintro ⟨c, hc, hr⟩
      rcases (isReservedChar_of_isUrlSafe (hall c hc)).mp hr with rfl | rfl | rfl <;> simp [hc]
    · rintro (h | h | h) <;> exact ⟨_, h, (isReservedChar_of_isUrlSafe (hall _ h)).mpr (by simp)⟩
  unfold validateName
  simp only [ge_iff_le]
  by_cases hlen : name.length = 0 ∨ nameLengthLimit ≤ name.length
  · rw [if_pos hlen, if_pos hlen]
  rw [if_neg hlen, if_neg hlen]
  by_cases hlow : toLower name ≠ name
  · rw [if_pos hlow, if_pos hlow]
  rw [if_neg hlow, if_neg hlow]
  cases encodeUtf8 name with
  | error e => rfl
  | ok _ =>
    dsimp only
    by_cases hall : ∀ c ∈ name.toList, isUrlSafe c = true
    · have hkept : ¬(!name.toList.all isUrlSafe) = true := by simpa using hall
      rw [if_neg hkept, if_neg (not_not_intro (hurl.mpr hall))]
      by_cases hany : name.toList.any isReservedChar = true
      · rw [if_pos hany, if_pos ((hreserved hall).mp hany)]
      · rw [if_neg hany, if_neg (mt (hreserved hall).mpr hany)]
    · have hescaped : (!name.toList.all isUrlSafe) = true := by simpa using hall
      rw [if_pos hescaped, if_pos (mt hurl.mp hall)]

end PackageRegistry.Package
