import Mathlib
import PackageRegistry.Proofs.Store.ViewRows
import PackageRegistry.Proofs.Sql.TextBytes
/-!
# Counts compared as numbers

`downloads` and `packages` compare a count of integer affinity with the bound's text, read as the
number it writes (`ReadsDecimals`); so `downloads:b` and `packages:b` return exactly the records
whose count satisfies `b` (`countSearches_select_by_number`).
-/

namespace PackageRegistry.Store

open PackageRegistry.Sql PackageRegistry.Search PackageRegistry.Text

/-! ## Decimal text -/

/-- A non-negative integer written in ASCII decimal digits, leading zeros allowed. -/
structure DecimalText where
  text : String
  ne_nil : text.toList ≠ []
  digits : ∀ c ∈ text.toList, Text.isAsciiDigit c = true

namespace DecimalText

/-- The number the digits write. -/
def value (n : DecimalText) : Nat :=
  valueOfDigits (n.text.toList.map fun c => c.toNat - '0'.toNat)

/-- An ASCII digit's code lies from 48 to 57. -/
theorem toNat_of_isAsciiDigit {c : Char} (h : Text.isAsciiDigit c = true) :
    48 ≤ c.toNat ∧ c.toNat ≤ 57 := by
  simp only [Text.isAsciiDigit, Bool.and_eq_true, decide_eq_true_eq] at h
  exact ⟨h.1, h.2⟩

/-- A decimal text is a plain operand. -/
theorem plain (n : DecimalText) : PlainOperand n.text := by
  refine ⟨n.ne_nil, fun c hc => .inl ?_⟩
  have hd := toNat_of_isAsciiDigit (n.digits c hc)
  simp only [Char.isAlphanum, Char.isDigit, Bool.or_eq_true, Bool.and_eq_true,
    decide_eq_true_eq, UInt32.le_iff_toNat_le]
  have hval : c.val.toNat = c.toNat := rfl
  right
  constructor <;> simp <;> omega

/-- A decimal text is stored as its ASCII bytes. -/
theorem ofString_text (n : DecimalText) :
    SqlValue.ofString n.text = .text (n.text.toList.map Char.toUInt8) :=
  ofString_of_ascii fun c hc => by
    have := toNat_of_isAsciiDigit (n.digits c hc)
    omega

end DecimalText

/-- What `num` is assumed to do, as SQLite documents numeric affinity: decimal text bound as text
compares with every SQL integer as the number it writes. -/
def ReadsDecimals (num : List UInt8 → SqlValue) : Prop :=
  ∀ (n : DecimalText) (c : Int), fitsInteger c = true →
    SqlValue.compare (.integer c) ((SqlValue.ofString n.text).withNumericAffinityBy num) =
      compare c n.value

/-- Decimal text read by such an engine is not `NULL`: `NULL` sorts below zero, and no number
written in digits does. -/
theorem ReadsDecimals.not_null {num : List UInt8 → SqlValue} (h : ReadsDecimals num)
    (n : DecimalText) : ((SqlValue.ofString n.text).withNumericAffinityBy num).isNull = false := by
  have hzero := h n 0 (by decide)
  cases hv : (SqlValue.ofString n.text).withNumericAffinityBy num with
  | null =>
    rw [hv] at hzero
    have hlt : compare (0 : Int) n.value ≠ .gt := compare_le_iff_le.mpr (by omega)
    exact absurd hzero.symm hlt
  | _ => rfl

/-- Reads a run of ASCII digits as its number and leaves other text as it is: a reading of text
as a number that agrees with SQLite's on digit runs. -/
def digitRunValue (bs : List UInt8) : SqlValue :=
  if bs ≠ [] ∧ ∀ b ∈ bs, 48 ≤ b.toNat ∧ b.toNat ≤ 57 then
    .integer (valueOfDigits (bs.map fun b => b.toNat - 48))
  else .text bs

/-- Runs of digits read as the decimal values they write. -/
theorem digitRunValue_reads : ReadsDecimals digitRunValue := by
  intro n c _
  have hcodes : ∀ ch ∈ n.text.toList, ch.toUInt8.toNat = ch.toNat := fun ch hch => by
    have hdigit := DecimalText.toNat_of_isAsciiDigit (n.digits ch hch)
    have hbyte : ch.toUInt8.toNat = ch.toNat % 256 := rfl
    omega
  have hrun : (n.text.toList.map Char.toUInt8) ≠ [] ∧
      ∀ b ∈ n.text.toList.map Char.toUInt8, 48 ≤ b.toNat ∧ b.toNat ≤ 57 := by
    refine ⟨by simpa using n.ne_nil, fun b hb => ?_⟩
    obtain ⟨ch, hch, rfl⟩ := List.mem_map.mp hb
    rw [hcodes ch hch]
    exact DecimalText.toNat_of_isAsciiDigit (n.digits ch hch)
  have hvalue : valueOfDigits ((n.text.toList.map Char.toUInt8).map fun b => b.toNat - 48) =
      n.value := by
    rw [DecimalText.value, List.map_map]
    congr 1
    exact List.map_congr_left fun ch hch => by simp [hcodes ch hch]
  rw [DecimalText.ofString_text, SqlValue.withNumericAffinityBy, digitRunValue, if_pos hrun,
    hvalue]
  rfl

end PackageRegistry.Store

namespace PackageRegistry.Search

/-! ## Bounds over numbers -/

/-- A number satisfies a bound over numbers as the comparison or range says, ends included. -/
def Bound.Satisfies {α : Type} (val : α → Nat) (k : Nat) : Bound α → Prop
  | .compare .eq a => k = val a
  | .compare .gt a => val a < k
  | .compare .ge a => val a ≤ k
  | .compare .lt a => k < val a
  | .compare .le a => k ≤ val a
  | .range lo hi => (∀ a ∈ lo, val a ≤ k) ∧ (∀ a ∈ hi, k ≤ val a)

/-- Read with the order of numbers, a bound admits exactly the numbers that satisfy it. -/
theorem Bound.admits_compare_iff {α : Type} (val : α → Nat) (k : Nat) :
    ∀ b : Bound α, b.admits (fun a => Ord.compare k (val a)) = true ↔ b.Satisfies val k
  | .compare .eq a => by simp [admits, Comparator.accepts, Satisfies]
  | .compare .gt a => by simp [admits, Comparator.accepts, Satisfies, compare_gt_iff_gt]
  | .compare .ge a => by simp [admits, Comparator.accepts, Satisfies, compare_ge_iff_ge]
  | .compare .lt a => by simp [admits, Comparator.accepts, Satisfies, compare_lt_iff_lt]
  | .compare .le a => by simp [admits, Comparator.accepts, Satisfies, compare_le_iff_le]
  | .range lo hi => by
    cases lo <;> cases hi <;>
      simp [admits, Comparator.accepts, Satisfies, compare_ge_iff_ge, compare_le_iff_le]

/-- Counts compare as integers as they do as numbers. -/
theorem compare_natCast (a b : Nat) : compare (a : Int) (b : Int) = compare a b := by
  rcases lt_trichotomy a b with h | rfl | h
  · rw [compare_lt_iff_lt.mpr h, compare_lt_iff_lt.mpr (by exact_mod_cast h)]
  · simp
  · rw [compare_gt_iff_gt.mpr h, compare_gt_iff_gt.mpr (by exact_mod_cast h)]

end PackageRegistry.Search

namespace PackageRegistry.Store

open PackageRegistry.Sql PackageRegistry.Search PackageRegistry.Text

/-- A count of integer affinity compared with decimal text: the operator reads the order of the
two numbers. -/
theorem compareBy_count {num : List UInt8 → SqlValue} (hnum : ReadsDecimals num) {count : Nat}
    (hfit : (count : Int) ≤ maxInteger) (op : Comparator) (n : DecimalText) :
    compareBy num ⟨.integer, .binary⟩ op (.integer count) (.ofString n.text) =
      some (op.accepts (compare count n.value)) := by
  have hfits : fitsInteger count = true := by
    have hmin : minInteger ≤ 0 := by decide
    simp only [fitsInteger, Bool.and_eq_true, decide_eq_true_eq]
    exact ⟨le_trans hmin (Int.natCast_nonneg count), hfit⟩
  have hcmp := hnum n count hfits
  rw [compare_natCast] at hcmp
  rw [compareBy_of_numeric rfl op rfl (hnum.not_null n)]
  exact congrArg (fun o => some (op.accepts o)) hcmp

/-! ## The searches -/

/-- The registry's tables hold fewer than `2⁶³` downloads and packages, so every count it
shows is an SQL integer. -/
def Registry.Bounded (r : Registry) : Prop :=
  (r.downloads.length : Int) ≤ maxInteger ∧ (r.packages.length : Int) ≤ maxInteger

/-- In a bounded registry, a download count fits a 64-bit integer. -/
theorem Registry.Bounded.downloadCount_le {r : Registry} (hr : r.Bounded) (id : Int) :
    (r.downloadCount id : Int) ≤ maxInteger := by
  have : r.downloadCount id ≤ r.downloads.length := List.length_filter_le _ _
  have := hr.1
  omega

/-- In a bounded registry, a count of packages owned fits a 64-bit integer. -/
theorem Registry.Bounded.ownedCount_le {r : Registry} (hr : r.Bounded) (id : Int) :
    (r.ownedCount id : Int) ≤ maxInteger := by
  have : r.ownedCount id ≤ r.packages.length := List.length_filter_le _ _
  have := hr.2
  omega

/-- In a bounded registry, the search `downloads:b` returns exactly the rows of the packages
with an owner whose download count satisfies `b` as a number. -/
theorem downloadsSearch_selects {engine : Engine} {num : List UInt8 → SqlValue}
    (hnum : ReadsDecimals num) {r : Registry} (hr : r.Bounded) (b : Bound DecimalText)
    (sort order page perPage : Option String)
    (h : engine.Answers num r.database r.packagesView
      ((b.value DecimalText.text).condition? "downloads").toList) :
    ∃ c, EntitySearch.packages.compileRequest (some ("downloads:" ++ b.text DecimalText.text))
        sort order page perPage = .ok c ∧
      ∃ rows, r.queryPackagesWith engine c.filter (c.params.map .text) c.orderBy none none =
          .ok rows ∧
        ∀ row, row ∈ rows ↔ ∃ p ∈ r.packages, ∃ owner, r.ownerOf? p = some owner ∧
          b.Satisfies DecimalText.value (r.downloadCount p.id) ∧ row = r.packageResult p owner := by
  have hcmp : ∀ p ∈ r.packages, ∀ owner tag op (n : DecimalText),
      r.packagesView.compareAt num (r.packageViewRow p owner tag) "downloads" op n.text =
        some (op.accepts (compare (r.downloadCount p.id) n.value)) :=
    fun p _ _ _ op n => compareBy_count hnum (hr.downloadCount_le p.id) op n
  obtain ⟨c, hc, rows, hq, hrows⟩ := Registry.packagesSearch_bound List.mem_cons_self
    ⟨by simp, by simp, by simp; decide⟩ DecimalText.plain hcmp b sort order page perPage h
  exact ⟨c, hc, rows, hq, fun row => by simp only [hrows, Bound.admits_compare_iff]⟩

/-- In a bounded registry, the search `packages:b` returns exactly the rows of the users whose
number of packages satisfies `b` as a number. -/
theorem packagesSearch_selects {engine : Engine} {num : List UInt8 → SqlValue}
    (hnum : ReadsDecimals num) {r : Registry} (hr : r.Bounded) (b : Bound DecimalText)
    (sort order page perPage : Option String)
    (h : engine.Answers num r.database r.usersView
      ((b.value DecimalText.text).condition? "packages_count").toList) :
    ∃ c, EntitySearch.users.compileRequest (some ("packages:" ++ b.text DecimalText.text))
        sort order page perPage = .ok c ∧
      ∃ rows, r.queryUsersWith engine c.filter (c.params.map .text) c.orderBy none none =
          .ok rows ∧
        ∀ row, row ∈ rows ↔ ∃ u ∈ r.users,
          b.Satisfies DecimalText.value (r.ownedCount u.id) ∧ row = r.userResult u := by
  have hcmp : ∀ u ∈ r.users, ∀ op (n : DecimalText),
      r.usersView.compareAt num (r.userViewRow u) "packages_count" op n.text =
        some (op.accepts (compare (r.ownedCount u.id) n.value)) :=
    fun u _ op n => compareBy_count hnum (hr.ownedCount_le u.id) op n
  obtain ⟨c, hc, rows, hq, hrows⟩ := Registry.usersSearch_bound List.mem_cons_self
    ⟨by simp, by simp, by simp; decide⟩ DecimalText.plain hcmp b sort order page perPage h
  exact ⟨c, hc, rows, hq, fun row => by simp only [hrows, Bound.admits_compare_iff]⟩

/-- In a bounded registry, `downloads:b` returns exactly the packages whose download count
satisfies `b`, and `packages:b` the users whose package count does. -/
theorem countSearches_select_by_number {engine : Engine} {num : List UInt8 → SqlValue}
    (hnum : ReadsDecimals num) {r : Registry} (hr : r.Bounded) (b : Bound DecimalText)
    (sort order page perPage : Option String)
    (hpackages : engine.Answers num r.database r.packagesView
      ((b.value DecimalText.text).condition? "downloads").toList)
    (husers : engine.Answers num r.database r.usersView
      ((b.value DecimalText.text).condition? "packages_count").toList) :
    (∃ c, EntitySearch.packages.compileRequest (some ("downloads:" ++ b.text DecimalText.text))
        sort order page perPage = .ok c ∧
      ∃ rows, r.queryPackagesWith engine c.filter (c.params.map .text) c.orderBy none none =
          .ok rows ∧
        ∀ row, row ∈ rows ↔ ∃ p ∈ r.packages, ∃ owner, r.ownerOf? p = some owner ∧
          b.Satisfies DecimalText.value (r.downloadCount p.id) ∧ row = r.packageResult p owner) ∧
    (∃ c, EntitySearch.users.compileRequest (some ("packages:" ++ b.text DecimalText.text))
        sort order page perPage = .ok c ∧
      ∃ rows, r.queryUsersWith engine c.filter (c.params.map .text) c.orderBy none none =
          .ok rows ∧
        ∀ row, row ∈ rows ↔ ∃ u ∈ r.users,
          b.Satisfies DecimalText.value (r.ownedCount u.id) ∧ row = r.userResult u) :=
  ⟨downloadsSearch_selects hnum hr b sort order page perPage hpackages,
    packagesSearch_selects hnum hr b sort order page perPage husers⟩

/-- The text `9`. -/
def nine : DecimalText := ⟨"9", by simp, by simp; decide⟩

/-- A registry with one package, owned by its one user and downloaded ten times. -/
def tenDownloads : Registry where
  users := [{ id := 1, username := "alice", email := "alice@example.org", password := "" }]
  packages := [{ id := 1, name := "alpha", ownerId := 1, latestVersion := "1.0.0" }]
  downloads := (List.range 10).map fun i => { id := i + 1, packageId := 1 }

/-- An engine that filters the packages view by the condition of `downloads:b` and any other
relation by that of `packages:b`, reading digit runs as numbers. -/
def boundEngine (b : Bound DecimalText) : Engine := fun db rel =>
  if "downloads" ∈ rel.columnNames then
    filterEngine digitRunValue ((b.value DecimalText.text).condition? "downloads").toList db rel
  else
    filterEngine digitRunValue ((b.value DecimalText.text).condition? "packages_count").toList db rel

/-- On the registry of ten downloads, searches for at least nine downloads and for at least
nine packages owned return exactly the records the bound admits. -/
theorem countSearches_ten_downloads :
    (∃ c, EntitySearch.packages.compileRequest
        (some ("downloads:" ++ (Bound.compare .ge nine).text DecimalText.text)) none none none
        none = .ok c ∧
      ∃ rows, tenDownloads.queryPackagesWith (boundEngine (.compare .ge nine)) c.filter
          (c.params.map .text) c.orderBy none none = .ok rows ∧
        ∀ row, row ∈ rows ↔ ∃ p ∈ tenDownloads.packages, ∃ owner,
          tenDownloads.ownerOf? p = some owner ∧
          (Bound.compare .ge nine).Satisfies DecimalText.value (tenDownloads.downloadCount p.id) ∧
          row = tenDownloads.packageResult p owner) ∧
    (∃ c, EntitySearch.users.compileRequest
        (some ("packages:" ++ (Bound.compare .ge nine).text DecimalText.text)) none none none
        none = .ok c ∧
      ∃ rows, tenDownloads.queryUsersWith (boundEngine (.compare .ge nine)) c.filter
          (c.params.map .text) c.orderBy none none = .ok rows ∧
        ∀ row, row ∈ rows ↔ ∃ u ∈ tenDownloads.users,
          (Bound.compare .ge nine).Satisfies DecimalText.value (tenDownloads.ownedCount u.id) ∧
          row = tenDownloads.userResult u) := by
  have hpackages : "downloads" ∈ tenDownloads.packagesView.columnNames :=
    show "downloads" ∈ packageColumns.map (·.name) by decide
  have husers : "downloads" ∉ tenDownloads.usersView.columnNames :=
    show "downloads" ∉ userColumns.map (·.name) by decide
  have hbounded : tenDownloads.Bounded := by
    simp only [Registry.Bounded, tenDownloads, maxInteger]
    decide
  refine countSearches_select_by_number digitRunValue_reads hbounded (.compare .ge nine)
    none none none none ?_ ?_
  · have hengine : boundEngine (.compare .ge nine) tenDownloads.database
        tenDownloads.packagesView = filterEngine digitRunValue
          (((Bound.compare .ge nine).value DecimalText.text).condition? "downloads").toList
          tenDownloads.database tenDownloads.packagesView := if_pos hpackages
    intro orderBy horder fragment binds hb
    rw [hengine]
    exact filterEngine_answers _ _ _ _ orderBy horder fragment binds hb
  · have hengine : boundEngine (.compare .ge nine) tenDownloads.database
        tenDownloads.usersView = filterEngine digitRunValue
          (((Bound.compare .ge nine).value DecimalText.text).condition? "packages_count").toList
          tenDownloads.database tenDownloads.usersView := if_neg husers
    intro orderBy horder fragment binds hb
    rw [hengine]
    exact filterEngine_answers _ _ _ _ orderBy horder fragment binds hb

end PackageRegistry.Store
