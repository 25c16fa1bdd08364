import Mathlib
import PackageRegistry.Package.Version
import PackageRegistry.Proofs.Text.Integer
import PackageRegistry.Proofs.Search.Bound
/-!
# Versions and their stored form

`SemverText` is the version pattern `v?N(.N)?(.N)?(-P)?(+B)?` as text, which `versionParts?`
reads exactly. The stored form reads back as the version it prints (`SemVer.parse_text`), so
stored forms are normal forms that tell versions apart (`sanitizeVersion_normal_form`).
-/

namespace PackageRegistry.Text

/-! ## Values of decimal digits -/

/-- A run the search finds is in the table and holds the code point. -/
theorem CodeRun.searchBetween_eq_some {table : Array CodeRun} {n lo hi : Nat} {r : CodeRun}
    (h : CodeRun.searchBetween table n lo hi = some r) : r ∈ table ∧ r.lo ≤ n ∧ n ≤ r.hi := by
  fun_induction CodeRun.searchBetween table n lo hi with
  | case1 lo hi hlt mid hmid run hn ih => exact ih h
  | case2 lo hi hlt mid hmid run hn hhi ih => exact ih h
  | case3 lo hi hlt mid hmid run hn hhi =>
    obtain rfl := Option.some.inj h
    exact ⟨Array.getElem_mem hmid, by omega, by omega⟩
  | case4 | case5 => cases h

/-- Every decimal digit, of any script, stands for one of zero to nine. -/
theorem decimalValue?_lt {c : Char} {d : Nat} (h : decimalValue? c = some d) : d < 10 := by
  unfold decimalValue? at h
  split at h
  · split at h
    · next hdigit =>
      cases h
      simp only [Char.isDigit, Bool.and_eq_true, decide_eq_true_eq] at hdigit
      have h9 : c.toNat ≤ '9'.toNat := hdigit.2
      simp only [Char.reduceToNat] at h9 ⊢
      omega
    · cases h
  · -- every run of the table spans ten code points
    obtain ⟨r, hr, rfl⟩ := Option.map_eq_some_iff.mp h
    obtain ⟨hmem, hlo, hhi⟩ := CodeRun.searchBetween_eq_some hr
    obtain ⟨r', -, rfl⟩ := Array.mem_map.mp hmem
    simp only at hlo hhi ⊢
    omega

/-- An ASCII digit's decimal value is its distance from `0`. -/
theorem decimalValue?_of_isDigit {c : Char} (h : c.isDigit = true) :
    decimalValue? c = some (c.toNat - 48) := by
  have h9 : c.toNat ≤ '9'.toNat := by
    simp only [Char.isDigit, Bool.and_eq_true, decide_eq_true_eq] at h
    exact h.2
  have hascii : c.toNat < 0x80 := by
    simp only [Char.reduceToNat] at h9
    omega
  simp [decimalValue?, hascii, h]

/-- A run of decimal digits has a value for each digit. -/
theorem exists_digitValues {cs : List Char} (h : ∀ c ∈ cs, isDecimalDigit c = true) :
    ∃ ds : List Nat, cs.map decimalValue? = ds.map some := by
  induction cs with
  | nil => exact ⟨[], rfl⟩
  | cons c cs ih =>
    obtain ⟨d, hd⟩ := Option.isSome_iff_exists.mp (h c List.mem_cons_self)
    obtain ⟨ds, hds⟩ := ih fun x hx => h x (List.mem_cons_of_mem c hx)
    exact ⟨d :: ds, by simp [hd, hds]⟩

/-- The digits a number is printed with are read back as that number. -/
theorem valueOfDigits_toDigits (n : Nat) :
    valueOfDigits ((Nat.toDigits 10 n).map fun c => c.toNat - 48) = n := by
  -- the printed form is that of `n / 10`, then the last digit
  induction n using Nat.strong_induction_on with
  | _ n ih =>
    rw [Nat.toDigits_eq_if (by decide)]
    split
    · next hlt => simp [valueOfDigits, Nat.toNat_digitChar_sub_48_of_lt_ten hlt]
    · next hge =>
      have hlast := Nat.toNat_digitChar_sub_48_of_lt_ten (Nat.mod_lt n (show 10 > 0 by decide))
      rw [List.map_append, valueOfDigits, List.foldl_append, ← valueOfDigits,
        ih (n / 10) (by omega)]
      simp only [List.map_cons, List.map_nil, List.foldl_cons, List.foldl_nil, hlast]
      omega

end PackageRegistry.Text

namespace PackageRegistry.Package

open PackageRegistry.Text

/-- A version number as the pattern reads it: `0`, or `1`–`9` then decimal digits of any
script. -/
def IsVersionNumber (ds : List Char) : Prop :=
  ds = ['0'] ∨ ∃ d rest, ds = d :: rest ∧ '1' ≤ d ∧ d ≤ '9' ∧ ∀ c ∈ rest, isDecimalDigit c

/-- An optional part: nothing, or `sep` then dot-separated identifiers. -/
def IsIdentifierPart (sep : Char) (part : List Char) : Prop :=
  part = [] ∨ ∃ ids, part = sep :: ids ∧ isDottedIdentifiers ids

/-- Text of the pattern `v?N(.N)?(.N)?(-P)?(+B)?`, `nums` its one to three `N`, with `P`, `B`
dot-separated identifiers. -/
def SemverText (cs : List Char) (nums : List (List Char)) : Prop :=
  ∃ lead pre build, (lead = [] ∨ lead = ['v']) ∧ nums ≠ [] ∧ nums.length ≤ 3 ∧
    (∀ n ∈ nums, IsVersionNumber n) ∧ IsIdentifierPart '-' pre ∧ IsIdentifierPart '+' build ∧
    cs = lead ++ ['.'].intercalate nums ++ pre ++ build

/-! ## Reading the parts -/

/-- The number read off the front of a text is a version number, and the text goes on with the rest.
-/
theorem numberPrefix?_eq_some {cs n rest : List Char} (h : numberPrefix? cs = some (n, rest)) :
    cs = n ++ rest ∧ IsVersionNumber n := by
  unfold numberPrefix? at h
  split at h
  · cases h
    exact ⟨rfl, .inl rfl⟩
  · next c rest' hc =>
    split at h
    · next hd =>
      cases h
      refine ⟨by simp [List.takeWhile_append_dropWhile], .inr ⟨c, _, rfl, hd.1, hd.2, ?_⟩⟩
      intro d hd'
      exact List.mem_takeWhile_imp hd'
    · cases h
  · cases h

/-- A version number followed by anything but a decimal digit is read whole. -/
theorem numberPrefix?_append {n rest : List Char} (hn : IsVersionNumber n)
    (hrest : ∀ c ∈ rest.head?, isDecimalDigit c = false) :
    numberPrefix? (n ++ rest) = some (n, rest) := by
  rcases hn with rfl | ⟨d, ds, rfl, hlo, hhi, hds⟩
  · rfl
  · have hd : d ≠ '0' := by
      rintro rfl
      exact absurd hlo (by decide)
    have hstop : rest.takeWhile isDecimalDigit = [] := by
      cases rest with
      | nil => rfl
      | cons c rest => simp [hrest c rfl]
    have hdrop : rest.dropWhile isDecimalDigit = rest := by
      cases rest with
      | nil => rfl
      | cons c rest => simp [hrest c rfl]
    rw [List.cons_append, numberPrefix?.eq_2 d _ (by simpa using hd), if_pos ⟨hlo, hhi⟩,
      List.takeWhile_append_of_pos hds, List.dropWhile_append_of_pos hds, hstop, hdrop,
      List.append_nil]

/-- After a dot a number is read, or nothing and the text is left whole. -/
theorem dottedNumber?_eq_some {cs rest : List Char} {m : Option (List Char)}
    (h : dottedNumber? cs = some (m, rest)) :
    m = none ∧ rest = cs ∨ ∃ n, m = some n ∧ cs = '.' :: (n ++ rest) ∧ IsVersionNumber n := by
  unfold dottedNumber? at h
  split at h
  · split at h
    · next n after hn =>
      cases h
      obtain ⟨rfl, hv⟩ := numberPrefix?_eq_some hn
      exact .inr ⟨n, rfl, rfl, hv⟩
    · cases h
  · cases h
    exact .inl ⟨rfl, rfl⟩

/-- A dot followed by a version number that ends the digits reads that number. -/
theorem dottedNumber?_dot {n rest : List Char} (hn : IsVersionNumber n)
    (hrest : ∀ c ∈ rest.head?, isDecimalDigit c = false) :
    dottedNumber? ('.' :: (n ++ rest)) = some (some n, rest) := by
  simp [dottedNumber?, numberPrefix?_append hn hrest]

/-- Text not starting with a dot reads no number and is left whole. -/
theorem dottedNumber?_of_head {cs : List Char} (h : '.' ∉ cs.head?) :
    dottedNumber? cs = some (none, cs) := by
  unfold dottedNumber?
  split
  · simp at h
  · rfl

/-- A pre-release part read off the front is a `-` identifier part, without its dash. -/
theorem prereleasePart?_eq_some {t pre after : List Char}
    (h : prereleasePart? t = some (pre, after)) :
    ∃ part, IsIdentifierPart '-' part ∧ t = part ++ after ∧ pre = part.drop 1 := by
  unfold prereleasePart? at h
  split at h
  · next rest =>
    dsimp only at h
    split at h
    · next hids =>
      cases h
      exact ⟨'-' :: rest.takeWhile (· ≠ '+'), .inr ⟨_, rfl, hids⟩,
        by simp [List.takeWhile_append_dropWhile], rfl⟩
    · cases h
  · cases h
    exact ⟨[], .inl rfl, rfl, rfl⟩

/-- A build part read is the whole text, a `+` identifier part, without its plus. -/
theorem buildPart?_eq_some {t build : List Char} (h : buildPart? t = some build) :
    IsIdentifierPart '+' t ∧ build = t.drop 1 := by
  unfold buildPart? at h
  split at h
  · split at h
    · next hids =>
      cases h
      exact ⟨.inr ⟨_, rfl, hids⟩, rfl⟩
    · cases h
  · cases h
    exact ⟨.inl rfl, rfl⟩
  · cases h

/-- The characters of dot-separated identifiers are dots and identifier characters. -/
theorem mem_of_isDottedIdentifiers {ids : List Char} (h : isDottedIdentifiers ids = true) :
    ∀ c ∈ ids, c = '.' ∨ isIdentifierChar c = true := by
  intro c hc
  have hsplit : ['.'].intercalate (ids.splitOn '.') = ids := List.intercalate_splitOn '.'
  rw [← hsplit] at hc
  rcases Search.mem_of_mem_intercalate hc with hc | ⟨part, hpart, hc⟩
  · exact .inl (List.mem_singleton.mp hc)
  · simp only [isDottedIdentifiers, List.all_eq_true, Bool.and_eq_true] at h
    exact .inr ((h part hpart).2 c hc)

/-- A `-` part followed by a `+` part reads the first as the pre-release and leaves the second. -/
theorem prereleasePart?_parts {pre build : List Char} (hpre : IsIdentifierPart '-' pre)
    (hbuild : IsIdentifierPart '+' build) :
    prereleasePart? (pre ++ build) = some (pre.drop 1, build) := by
  rcases hpre with rfl | ⟨ids, rfl, hids⟩
  · rcases hbuild with rfl | ⟨b, rfl, -⟩ <;> rfl
  · -- identifiers hold no `+`, so the prerelease ends where the build starts
    have hall : ∀ c ∈ ids, decide (c ≠ '+') = true := by
      intro c hc
      have hplus : isIdentifierChar '+' = false := by decide
      rcases mem_of_isDottedIdentifiers hids c hc with rfl | hc
      · decide
      · simp only [ne_eq, decide_eq_true_eq]
        rintro rfl
        simp [hplus] at hc
    have htake : build.takeWhile (fun c => decide (c ≠ '+')) = [] := by
      rcases hbuild with rfl | ⟨b, rfl, -⟩ <;> simp
    have hdrop : build.dropWhile (fun c => decide (c ≠ '+')) = build := by
      rcases hbuild with rfl | ⟨b, rfl, -⟩ <;> simp
    simp only [List.cons_append, prereleasePart?, List.takeWhile_append_of_pos hall,
      List.dropWhile_append_of_pos hall, htake, hdrop, List.append_nil, hids, if_true,
      List.drop_one, List.tail_cons]

/-- A `+` identifier part reads as the build, without its plus. -/
theorem buildPart?_part {build : List Char} (h : IsIdentifierPart '+' build) :
    buildPart? build = some (build.drop 1) := by
  rcases h with rfl | ⟨b, rfl, hb⟩
  · rfl
  · simp [buildPart?, hb]

/-- The text after the numbers starts with `-`, `+` or nothing. -/
theorem head_of_parts {pre build : List Char} (hpre : IsIdentifierPart '-' pre)
    (hbuild : IsIdentifierPart '+' build) :
    ∀ c ∈ (pre ++ build).head?, isDecimalDigit c = false ∧ c ≠ '.' := by
  rcases hpre with rfl | ⟨ids, rfl, -⟩
  · rcases hbuild with rfl | ⟨b, rfl, -⟩
    · simp
    · simp only [List.nil_append, List.head?_cons, Option.mem_def, Option.some.injEq]
      rintro c rfl
      decide
  · simp only [List.cons_append, List.head?_cons, Option.mem_def, Option.some.injEq]
    rintro c rfl
    decide

/-! ## The pattern's texts -/

/-- What `versionParts?` reads is text of the pattern with its numbers; its prerelease empty or
identifiers. -/
theorem semverText_of_versionParts? {cs major pre build : List Char}
    {minor patch : Option (List Char)}
    (h : versionParts? cs = some (major, minor, patch, pre, build)) :
    SemverText cs (major :: (minor.toList ++ patch.toList)) ∧
      (pre = [] ∨ isDottedIdentifiers pre = true) := by
  simp only [versionParts?, bind, Option.bind_eq_some_iff, pure] at h
  obtain ⟨⟨M, r₁⟩, hM, ⟨mi, r₂⟩, hmi, h⟩ := h
  -- the patch is read only after a minor
  obtain ⟨⟨pa, r₃⟩, hpa, ⟨pr, r₄⟩, hpr, b, hb, hres⟩ : ∃ x,
      mi.elim (some (none, r₂)) (fun _ => dottedNumber? r₂) = some x ∧
      ∃ y, prereleasePart? x.2 = some y ∧ ∃ b, buildPart? y.2 = some b ∧
        (M, mi, x.1, y.1, b) = (major, minor, patch, pre, build) := by
    cases mi <;> simpa [Option.bind_eq_some_iff] using h
  simp only [Prod.mk.injEq] at hres
  obtain ⟨rfl, rfl, rfl, rfl, rfl⟩ := hres
  dsimp only at hmi hpr hb
  obtain ⟨hbody, hMv⟩ := numberPrefix?_eq_some hM
  obtain ⟨part, hpart, hr₃, hpre⟩ := prereleasePart?_eq_some hpr
  obtain ⟨hr₄, -⟩ := buildPart?_eq_some hb
  -- the numbers and what follows them
  have hnums : ∃ nums : List (List Char), nums ≠ [] ∧ nums.length ≤ 3 ∧
      (∀ n ∈ nums, IsVersionNumber n) ∧
      M :: (mi.toList ++ pa.toList) = nums ∧ M ++ r₁ = ['.'].intercalate nums ++ r₃ := by
    rcases dottedNumber?_eq_some hmi with ⟨rfl, hr₂⟩ | ⟨m, rfl, hr₁, hmv⟩
    · -- no minor, so no patch
      obtain ⟨rfl, hr₃'⟩ : pa = none ∧ r₃ = r₂ := by simpa using hpa.symm
      exact ⟨[M], by simp, by simp, by simpa using hMv, rfl, by simp [hr₃', hr₂]⟩
    · rcases dottedNumber?_eq_some hpa with ⟨rfl, hr₃'⟩ | ⟨p, rfl, hr₂, hpv⟩
      · exact ⟨[M, m], by simp, by simp, by simp [hMv, hmv], rfl,
          by simp [List.intercalate_cons_cons, hr₁, hr₃']⟩
      · exact ⟨[M, m, p], by simp, by simp, by simp [hMv, hmv, hpv], rfl,
          by simp [List.intercalate_cons_cons, hr₁, hr₂]⟩
  obtain ⟨nums, hne, hlen, hv, hM', hsplit⟩ := hnums
  rw [hM']
  -- the optional `v` before the numbers
  have hlead : ∃ lead : List Char, (lead = [] ∨ lead = ['v']) ∧ cs = lead ++ (M ++ r₁) := by
    rw [← hbody]
    unfold dropLeadingV
    split
    · exact ⟨['v'], .inr rfl, rfl⟩
    · exact ⟨[], .inl rfl, rfl⟩
  obtain ⟨lead, hlead, hcs⟩ := hlead
  refine ⟨⟨lead, part, r₄, hlead, hne, hlen, hv, hpart, hr₄, by rw [hcs, hsplit, hr₃]; simp⟩, ?_⟩
  rcases hpart with rfl | ⟨ids, rfl, hids⟩
  · exact .inl hpre
  · exact .inr (by simpa [hpre] using hids)

/-- Text of the pattern is read into its numbers, prerelease and build. -/
theorem versionParts?_append {lead pre build : List Char} {nums : List (List Char)}
    (hlead : lead = [] ∨ lead = ['v']) (hne : nums ≠ []) (hlen : nums.length ≤ 3)
    (hv : ∀ n ∈ nums, IsVersionNumber n) (hpre : IsIdentifierPart '-' pre)
    (hbuild : IsIdentifierPart '+' build) :
    versionParts? (lead ++ ['.'].intercalate nums ++ pre ++ build) =
      some (nums.headD [], nums[1]?, nums[2]?, pre.drop 1, build.drop 1) := by
  have htail := head_of_parts hpre hbuild
  have hdot : ∀ c ∈ (pre ++ build).head?, isDecimalDigit c = false :=
    fun c hc => (htail c hc).1
  -- the text after an optional `v` starts with a digit, so is never a `v` itself
  have hbody : dropLeadingV (lead ++ ['.'].intercalate nums ++ pre ++ build) =
      ['.'].intercalate nums ++ (pre ++ build) := by
    obtain ⟨n, ns, rfl⟩ := List.exists_cons_of_ne_nil hne
    obtain ⟨d, ds, hd, hnv⟩ : ∃ d ds, n = d :: ds ∧ d ≠ 'v' := by
      rcases hv n List.mem_cons_self with rfl | ⟨d, ds, rfl, hlo, hhi, -⟩
      · exact ⟨'0', [], rfl, by decide⟩
      · refine ⟨d, ds, rfl, ?_⟩
        rintro rfl
        exact absurd hhi (by decide)
    rcases hlead with rfl | rfl <;> cases ns <;>
      simp [dropLeadingV, hd, List.intercalate_cons_cons, hnv]
  have hnodot : '.' ∉ (pre ++ build).head? := fun h => (htail '.' h).2 rfl
  have hdotHead : ∀ rest : List Char, ∀ c ∈ ('.' :: rest).head?, isDecimalDigit c = false := by
    intro rest c hc
    simp only [List.head?_cons, Option.mem_def, Option.some.injEq] at hc
    subst hc
    decide
  simp only [versionParts?, bind, pure, hbody]
  -- one, two or three numbers, each read up to the dot or the part after it
  match nums, hne, hlen, hv with
  | [M], _, _, hv =>
    simp [numberPrefix?_append (hv M (by simp)) hdot, dottedNumber?_of_head hnodot,
      prereleasePart?_parts hpre hbuild, buildPart?_part hbuild]
  | [M, m], _, _, hv =>
    simp [List.intercalate_cons_cons, numberPrefix?_append (hv M (by simp)) (hdotHead _),
      dottedNumber?_dot (hv m (by simp)) hdot, dottedNumber?_of_head hnodot,
      prereleasePart?_parts hpre hbuild, buildPart?_part hbuild]
  | [M, m, p], _, _, hv =>
    simp [List.intercalate_cons_cons, numberPrefix?_append (hv M (by simp)) (hdotHead _),
      dottedNumber?_dot (hv m (by simp)) (hdotHead _), dottedNumber?_dot (hv p (by simp)) hdot,
      prereleasePart?_parts hpre hbuild, buildPart?_part hbuild]
  | _ :: _ :: _ :: _ :: _, _, hlen, _ =>
    simp only [List.length_cons] at hlen
    omega

/-- Text in the version form reads into its numbers, pre-release and build. -/
theorem versionParts?_of_semverText {cs : List Char} {nums : List (List Char)}
    (h : SemverText cs nums) :
    ∃ pre build, versionParts? cs = some (nums.headD [], nums[1]?, nums[2]?, pre, build) := by
  obtain ⟨lead, pre, build, hlead, hne, hlen, hv, hpre, hbuild, rfl⟩ := h
  exact ⟨_, _, versionParts?_append hlead hne hlen hv hpre hbuild⟩

/-! ## Number values -/

/-- A version number is a nonempty run of decimal digits. -/
theorem IsVersionNumber.digits {ds : List Char} (h : IsVersionNumber ds) :
    ds ≠ [] ∧ ∀ c ∈ ds, isDecimalDigit c = true := by
  rcases h with rfl | ⟨d, rest, rfl, hlo, hhi, hrest⟩
  · exact ⟨by simp, by simp; decide⟩
  · have hd : d.isDigit = true := by
      simp only [Char.isDigit, Bool.and_eq_true, decide_eq_true_eq]
      exact ⟨le_trans (by decide) hlo, hhi⟩
    refine ⟨by simp, fun c hc => ?_⟩
    rcases List.mem_cons.mp hc with rfl | hc
    · simp [isDecimalDigit, decimalValue?_of_isDigit hd]
    · exact hrest c hc

/-- A version number is read as the number its digits write, unless it has more digits than
integers may. -/
theorem numberValue_of_isVersionNumber {ds : List Char} (h : IsVersionNumber ds) :
    ∃ vs : List Nat, vs.length = ds.length ∧ (∀ v ∈ vs, v < 10) ∧
      numberValue ds = if maxIntegerDigits < ds.length then .error (.tooManyDigits ds.length)
        else .ok (Nat.ofDigits 10 vs.reverse) := by
  obtain ⟨hne, hdigits⟩ := h.digits
  obtain ⟨vs, hvs⟩ := exists_digitValues hdigits
  have hlen : vs.length = ds.length := by simpa using (congrArg List.length hvs).symm
  have hlt : ∀ v ∈ vs, v < 10 := by
    intro v hv
    have hmem := List.mem_map_of_mem (f := some) hv
    rw [← hvs] at hmem
    obtain ⟨c, -, hc⟩ := List.mem_map.mp hmem
    exact decimalValue?_lt hc
  refine ⟨vs, hlen, hlt, ?_⟩
  simp only [numberValue, readDigitRun, digitRun_of_digits hne hvs, hlen, gt_iff_lt,
    valueOfDigits_eq_ofDigits]
  split_ifs <;> rfl

/-- A number that reading gives has at most `maxIntegerDigits` digits. -/
theorem length_toDigits_of_numberValue {ds : List Char} {n : Nat} (hds : IsVersionNumber ds)
    (h : numberValue ds = .ok n) : (Nat.toDigits 10 n).length ≤ maxIntegerDigits := by
  obtain ⟨vs, hlen, hlt, hval⟩ := numberValue_of_isVersionNumber hds
  rw [hval] at h
  split at h
  · cases h
  · next hle =>
    cases h
    rw [Nat.length_toDigits_le_iff (by decide) (by decide)]
    calc Nat.ofDigits 10 vs.reverse < 10 ^ vs.reverse.length :=
          Nat.ofDigits_lt_base_pow_length (by decide) (by simpa using hlt)
      _ ≤ 10 ^ maxIntegerDigits := Nat.pow_le_pow_right (by decide) (by simp; omega)

/-- The decimal digits of a positive number start with `1` to `9`. -/
theorem toDigits_head {n : Nat} (hn : 0 < n) :
    ∃ d rest, Nat.toDigits 10 n = d :: rest ∧ '1' ≤ d ∧ d ≤ '9' := by
  induction n using Nat.strong_induction_on with
  | _ n ih =>
    rw [Nat.toDigits_eq_if (by decide)]
    split
    · next hlt =>
      refine ⟨_, [], rfl, ?_⟩
      interval_cases n <;> decide
    · next hge =>
      obtain ⟨d, rest, hd, hlo, hhi⟩ := ih (n / 10) (by omega) (by omega)
      exact ⟨d, rest ++ _, by rw [hd, List.cons_append], hlo, hhi⟩

/-- Numbers are printed as version numbers: no leading zero. -/
theorem isVersionNumber_toDigits (n : Nat) : IsVersionNumber (Nat.toDigits 10 n) := by
  rcases Nat.eq_zero_or_pos n with rfl | hn
  · exact .inl (Nat.toDigits_zero 10)
  · obtain ⟨d, rest, hd, hlo, hhi⟩ := toDigits_head hn
    refine .inr ⟨d, rest, hd, hlo, hhi, fun c hc => ?_⟩
    have hmem : c ∈ Nat.toDigits 10 n := hd ▸ List.mem_cons_of_mem d hc
    simp [isDecimalDigit,
      decimalValue?_of_isDigit (Nat.isDigit_of_mem_toDigits (by decide) (by decide) hmem)]

/-- A printed number of at most `maxIntegerDigits` digits is read back. -/
theorem numberValue_toDigits {n : Nat} (h : (Nat.toDigits 10 n).length ≤ maxIntegerDigits) :
    numberValue (Nat.toDigits 10 n) = .ok n := by
  have hmap : (Nat.toDigits 10 n).map decimalValue? =
      ((Nat.toDigits 10 n).map fun c => c.toNat - 48).map some := by
    rw [List.map_map]
    refine List.map_congr_left fun c hc => ?_
    exact decimalValue?_of_isDigit (Nat.isDigit_of_mem_toDigits (by decide) (by decide) hc)
  have hne : Nat.toDigits 10 n ≠ [] := List.ne_nil_of_length_pos Nat.length_toDigits_pos
  simp only [numberValue, readDigitRun, digitRun_of_digits hne hmap, List.length_map,
    valueOfDigits_toDigits]
  rw [if_neg (by omega)]

/-- A version number never reads as malformed, and reads whole when it is short enough. -/
theorem numberValue_ok_iff {ds : List Char} (h : IsVersionNumber ds) :
    numberValue ds ≠ .error .invalid ∧
      ((∃ n, numberValue ds = .ok n) ↔ ds.length ≤ maxIntegerDigits) := by
  obtain ⟨vs, -, -, hval⟩ := numberValue_of_isVersionNumber h
  rw [hval]
  split_ifs with hbig
  · exact ⟨by simp, by simp only [exists_false, false_iff]; omega⟩
  · exact ⟨by simp, by simp only [Except.ok.injEq, exists_eq', true_iff]; omega⟩

/-! ## Reading and printing versions -/

/-- A version reading can give: numbers of at most `maxIntegerDigits` digits, a prerelease empty
or identifiers. -/
def SemVer.Readable (v : SemVer) : Prop :=
  (Nat.toDigits 10 v.major).length ≤ maxIntegerDigits ∧
    (Nat.toDigits 10 v.minor).length ≤ maxIntegerDigits ∧
    (Nat.toDigits 10 v.patch).length ≤ maxIntegerDigits ∧
    (v.prerelease = "" ∨ isDottedIdentifiers v.prerelease.toList = true)

/-- Versions compare with `==` as they are equal. -/
theorem SemVer.beq_eq_decide (a b : SemVer) : (a == b) = decide (a = b) := by
  cases a
  cases b
  simp [BEq.beq, instBEqSemVer.beq]

/-- A failure stops the computations after it. -/
@[simp] theorem error_bind {ε α β : Type} (e : ε) (f : α → Except ε β) :
    (Except.error e >>= f) = .error e := rfl

/-- Two steps that cannot fail with `e` together cannot either. -/
theorem bind_ne_error {ε α β : Type} {x : Except ε α} {f : α → Except ε β} {e : ε}
    (hx : x ≠ .error e) (hf : ∀ a, f a ≠ .error e) : (x >>= f) ≠ .error e := by
  cases x with
  | error e' =>
    rw [error_bind]
    simpa using hx
  | ok a => exact hf a

/-- What reading a version needs: the pattern's parts and each number's value. -/
theorem parse_eq_ok {s : String} {v : SemVer} (h : SemVer.parse s = .ok v) :
    ∃ major minor patch pre build,
      versionParts? (trimBlanks s.toList) = some (major, minor, patch, pre, build) ∧
      numberValue major = .ok v.major ∧ numberValue (minor.getD ['0']) = .ok v.minor ∧
      numberValue (patch.getD ['0']) = .ok v.patch ∧ v.prerelease = String.ofList pre := by
  unfold SemVer.parse at h
  split at h
  · cases h
  · next major minor patch pre build hparts =>
    obtain ⟨ma, hma, h⟩ := Search.exists_of_bind_eq_ok h
    obtain ⟨mi, hmi, h⟩ := Search.exists_of_bind_eq_ok h
    obtain ⟨pa, hpa, h⟩ := Search.exists_of_bind_eq_ok h
    cases h
    exact ⟨major, minor, patch, pre, build, hparts, hma, hmi, hpa, rfl⟩

/-- The three numbers reading takes, a missing minor or patch read as `0`, are version
numbers. -/
theorem versionNumbers_of_versionParts? {cs major pre build : List Char}
    {minor patch : Option (List Char)}
    (h : versionParts? cs = some (major, minor, patch, pre, build)) :
    IsVersionNumber major ∧ IsVersionNumber (minor.getD ['0']) ∧
      IsVersionNumber (patch.getD ['0']) := by
  obtain ⟨⟨-, -, -, -, -, -, hv, -⟩, -⟩ := semverText_of_versionParts? h
  have hopt : ∀ o : Option (List Char), (∀ n ∈ o.toList, IsVersionNumber n) →
      IsVersionNumber (o.getD ['0']) := by
    rintro (_ | n) ho
    · exact .inl rfl
    · exact ho n (by simp)
  exact ⟨hv major (by simp), hopt minor fun n hn => hv n (by simp [hn]),
    hopt patch fun n hn => hv n (by simp [hn])⟩

/-- A version read from text has numbers short enough and a pre-release of identifiers. -/
theorem SemVer.readable_of_parse {s : String} {v : SemVer} (h : SemVer.parse s = .ok v) :
    v.Readable := by
  obtain ⟨M, mi, pa, pre, b, hparts, hM, hmi, hpa, hpre⟩ := parse_eq_ok h
  obtain ⟨vM, vmi, vpa⟩ := versionNumbers_of_versionParts? hparts
  refine ⟨length_toDigits_of_numberValue vM hM, length_toDigits_of_numberValue vmi hmi,
    length_toDigits_of_numberValue vpa hpa, ?_⟩
  rw [hpre]
  rcases (semverText_of_versionParts? hparts).2 with rfl | hids
  · exact .inl rfl
  · exact .inr (by simpa using hids)

/-- A digit may stand in an identifier. -/
theorem isIdentifierChar_of_isDigit {c : Char} (h : c.isDigit = true) :
    isIdentifierChar c = true := by
  have h9 : c.toNat ≤ '9'.toNat := by
    simp only [Char.isDigit, Bool.and_eq_true, decide_eq_true_eq] at h
    exact h.2
  simp only [Char.reduceToNat] at h9
  simp [isIdentifierChar, Char.isAlphanum, h]
  omega

/-- Dots and identifier characters are ASCII and none is a blank. -/
theorem isBlank_of_isIdentifierChar {c : Char} (h : c = '.' ∨ isIdentifierChar c = true) :
    isBlank c = false := by
  have hascii : c.toNat < 0x80 := by
    rcases h with rfl | h
    · decide
    · simp only [isIdentifierChar, Bool.or_eq_true, Bool.and_eq_true, decide_eq_true_eq] at h
      rcases h with ⟨-, h⟩ | rfl
      · exact h
      · decide
  have hall : ∀ n : Fin 128, (Char.ofNat n = '.' ∨ isIdentifierChar (Char.ofNat n) = true) →
      isBlank (Char.ofNat n) = false := by decide
  simpa using hall ⟨c.toNat, hascii⟩ (by simpa using h)

/-- A version's text: its three numbers joined by dots, then its pre-release after a dash. -/
theorem SemVer.text_toList (v : SemVer) :
    v.text.toList = [] ++ ['.'].intercalate [Nat.toDigits 10 v.major, Nat.toDigits 10 v.minor,
      Nat.toDigits 10 v.patch] ++ (if v.prerelease = "" then [] else '-' :: v.prerelease.toList) ++
      [] := by
  by_cases hpre : v.prerelease = "" <;>
    simp [SemVer.text, hpre, Nat.toString_eq_repr, Nat.toList_repr, List.intercalate_cons_cons]

/-- A readable version's stored form reads back as that version. -/
theorem SemVer.parse_text {v : SemVer} (hv : v.Readable) : SemVer.parse v.text = .ok v := by
  obtain ⟨hma, hmi, hpa, hpre⟩ := hv
  have hpart : IsIdentifierPart '-'
      (if v.prerelease = "" then [] else '-' :: v.prerelease.toList) := by
    split
    · exact .inl rfl
    · next hne => exact .inr ⟨_, rfl, hpre.resolve_left hne⟩
  have hnums : ∀ n ∈ [Nat.toDigits 10 v.major, Nat.toDigits 10 v.minor, Nat.toDigits 10 v.patch],
      IsVersionNumber n := by simp [isVersionNumber_toDigits]
  have hparts := versionParts?_append (.inl rfl) (by simp) (by simp) hnums hpart (.inl rfl)
  rw [← SemVer.text_toList] at hparts
  -- the stored form has no blanks to trim
  have hchars : ∀ c ∈ v.text.toList, isBlank c = false := by
    intro c hc
    apply isBlank_of_isIdentifierChar
    rw [SemVer.text_toList] at hc
    simp only [List.nil_append, List.append_nil, List.mem_append] at hc
    rcases hc with hc | hc
    · rcases Search.mem_of_mem_intercalate hc with hc | ⟨part, hpart, hc⟩
      · exact .inl (List.mem_singleton.mp hc)
      · right
        simp only [List.mem_cons, List.not_mem_nil, or_false] at hpart
        apply isIdentifierChar_of_isDigit
        rcases hpart with rfl | rfl | rfl <;>
          exact Nat.isDigit_of_mem_toDigits (by decide) (by decide) hc
    · split at hc
      · simp at hc
      · next hne =>
        rcases List.mem_cons.mp hc with rfl | hc
        · exact .inr (by decide)
        · exact mem_of_isDottedIdentifiers (hpre.resolve_left hne) c hc
  have htrim : trimBlanks v.text.toList = v.text.toList := by
    have hrev : ∀ c ∈ v.text.toList.reverse, isBlank c = false :=
      fun c hc => hchars c (List.mem_reverse.mp hc)
    rw [trimBlanks, dropBlanks_of_forall hchars, dropBlanks_of_forall hrev, List.reverse_reverse]
  have hpre' : (if v.prerelease = "" then [] else '-' :: v.prerelease.toList).drop 1 =
      v.prerelease.toList := by
    split
    · next h => simp [h]
    · rfl
  simp [SemVer.parse, htrim, hparts, numberValue_toDigits hma, numberValue_toDigits hmi,
    numberValue_toDigits hpa, hpre']

/-- Readable versions with the same stored form are the same. -/
theorem SemVer.text_injective {va vb : SemVer} (ha : va.Readable) (hb : vb.Readable)
    (h : va.text = vb.text) : va = vb := by
  have hread : (Except.ok va : Except VersionError SemVer) = .ok vb := by
    rw [← SemVer.parse_text ha, ← SemVer.parse_text hb, h]
  exact Except.ok.inj hread

/-! ## Accepted texts -/

/-- Reading a version fails as invalid exactly when the trimmed text has no version form. -/
theorem parse_eq_invalid_iff {s : String} :
    SemVer.parse s = .error .invalid ↔ ∀ nums, ¬SemverText (trimBlanks s.toList) nums := by
  unfold SemVer.parse
  split
  · next hnone =>
    simp only [true_iff]
    intro nums hnums
    obtain ⟨pre, build, h⟩ := versionParts?_of_semverText hnums
    rw [hnone] at h
    cases h
  · next M mi pa pre b hparts =>
    -- the pattern matched, and a version number never reads as malformed
    obtain ⟨vM, vmi, vpa⟩ := versionNumbers_of_versionParts? hparts
    refine ⟨fun h => absurd h ?_, fun h => absurd (semverText_of_versionParts? hparts).1 (h _)⟩
    exact bind_ne_error (numberValue_ok_iff vM).1 fun _ =>
      bind_ne_error (numberValue_ok_iff vmi).1 fun _ =>
        bind_ne_error (numberValue_ok_iff vpa).1 fun _ => by simp

/-- A version's number at any place, or the default `0`, is no longer than the longest allowed. -/
theorem length_getD_le {nums : List (List Char)} (h : ∀ n ∈ nums, n.length ≤ maxIntegerDigits)
    (i : Nat) : (nums[i]?.getD ['0']).length ≤ maxIntegerDigits := by
  cases hi : nums[i]? with
  | none => simp [maxIntegerDigits]
  | some n => exact h n (List.mem_of_getElem? hi)

/-- Text of the pattern reads exactly when each of its numbers has at most
`maxIntegerDigits` digits. -/
theorem parse_isOk_iff {s : String} :
    (∃ v, SemVer.parse s = .ok v) ↔
      ∃ nums, SemverText (trimBlanks s.toList) nums ∧ ∀ n ∈ nums, n.length ≤ maxIntegerDigits := by
  constructor
  · rintro ⟨v, h⟩
    obtain ⟨M, mi, pa, pre, b, hparts, hM, hmi, hpa, -⟩ := parse_eq_ok h
    obtain ⟨vM, vmi, vpa⟩ := versionNumbers_of_versionParts? hparts
    refine ⟨_, (semverText_of_versionParts? hparts).1, fun n hn => ?_⟩
    simp only [List.mem_cons, List.mem_append, Option.mem_toList] at hn
    rcases hn with rfl | rfl | rfl
    · exact (numberValue_ok_iff vM).2.1 ⟨_, hM⟩
    · exact (numberValue_ok_iff vmi).2.1 ⟨_, hmi⟩
    · exact (numberValue_ok_iff vpa).2.1 ⟨_, hpa⟩
  · rintro ⟨nums, hnums, hshort⟩
    obtain ⟨pre, build, hparts⟩ := versionParts?_of_semverText hnums
    obtain ⟨vM, vmi, vpa⟩ := versionNumbers_of_versionParts? hparts
    have hM : (nums.headD []).length ≤ maxIntegerDigits := by
      cases nums with
      | nil => simp
      | cons n ns => exact hshort n List.mem_cons_self
    obtain ⟨x, hx⟩ := (numberValue_ok_iff vM).2.2 hM
    obtain ⟨y, hy⟩ := (numberValue_ok_iff vmi).2.2 (length_getD_le hshort 1)
    obtain ⟨z, hz⟩ := (numberValue_ok_iff vpa).2.2 (length_getD_le hshort 2)
    refine ⟨⟨x, y, z, String.ofList pre⟩, ?_⟩
    simp only [SemVer.parse, hparts, hx, hy, hz]
    rfl

/-- A version is cleaned to the text of the version it reads as. -/
theorem sanitizeVersion_eq_ok_iff {s t : String} :
    sanitizeVersion s = .ok t ↔ ∃ v, SemVer.parse s = .ok v ∧ v.text = t := by
  unfold sanitizeVersion
  cases SemVer.parse s <;> simp [Functor.map, Except.map]

/-- Cleaning a version fails exactly as reading it does. -/
theorem sanitizeVersion_eq_error_iff {s : String} {e : VersionError} :
    sanitizeVersion s = .error e ↔ SemVer.parse s = .error e := by
  unfold sanitizeVersion
  cases SemVer.parse s <;> simp [Functor.map, Except.map]

/-- Normal forms of versions. The pattern's texts are those not refused as malformed; those
whose numbers fit get a stored form, its own stored form and the same version; two texts with
stored forms name one version exactly when the forms are equal; comparison fails with a side. -/
theorem sanitizeVersion_normal_form (a b : String) :
    (sanitizeVersion a = .error .invalid ↔ ∀ nums, ¬SemverText (trimBlanks a.toList) nums) ∧
    ((∃ t, sanitizeVersion a = .ok t) ↔
      ∃ nums, SemverText (trimBlanks a.toList) nums ∧ ∀ n ∈ nums, n.length ≤ maxIntegerDigits) ∧
    (∀ t, sanitizeVersion a = .ok t → sanitizeVersion t = .ok t ∧ sameVersion a t = .ok true) ∧
    (∀ ta tb, sanitizeVersion a = .ok ta → sanitizeVersion b = .ok tb →
      sameVersion a b = .ok (decide (ta = tb))) ∧
    (∀ e, sanitizeVersion a = .error e → sameVersion a b = .error e) ∧
    (∀ t e, sanitizeVersion a = .ok t → sanitizeVersion b = .error e →
      sameVersion a b = .error e) := by
  refine ⟨?reject, ?accept, ?idem, ?same, ?errLeft, ?errRight⟩
  case reject => rw [sanitizeVersion_eq_error_iff, parse_eq_invalid_iff]
  case accept =>
    rw [← parse_isOk_iff]
    simp only [sanitizeVersion_eq_ok_iff]
    exact ⟨fun ⟨_, v, hv, _⟩ => ⟨v, hv⟩, fun ⟨v, hv⟩ => ⟨_, v, hv, rfl⟩⟩
  case idem =>
    intro t ht
    obtain ⟨v, hv, rfl⟩ := sanitizeVersion_eq_ok_iff.mp ht
    have hback := SemVer.parse_text (SemVer.readable_of_parse hv)
    refine ⟨sanitizeVersion_eq_ok_iff.mpr ⟨v, hback, rfl⟩, ?_⟩
    simp [sameVersion, hv, hback, SemVer.beq_eq_decide]
  case same =>
    intro ta tb ha hb
    obtain ⟨va, hva, rfl⟩ := sanitizeVersion_eq_ok_iff.mp ha
    obtain ⟨vb, hvb, rfl⟩ := sanitizeVersion_eq_ok_iff.mp hb
    -- stored forms tell readable versions apart
    have hiff : va = vb ↔ va.text = vb.text :=
      ⟨congrArg _, SemVer.text_injective (SemVer.readable_of_parse hva)
        (SemVer.readable_of_parse hvb)⟩
    simp [sameVersion, hva, hvb, SemVer.beq_eq_decide, hiff]
  case errLeft =>
    intro e he
    simp [sameVersion, sanitizeVersion_eq_error_iff.mp he]
  case errRight =>
    intro t e ha hb
    obtain ⟨va, hva, -⟩ := sanitizeVersion_eq_ok_iff.mp ha
    simp [sameVersion, hva, sanitizeVersion_eq_error_iff.mp hb]

example : sanitizeVersion " v1.2-rc.1+b7 " = .ok "1.2.0-rc.1" := by decide

end PackageRegistry.Package
