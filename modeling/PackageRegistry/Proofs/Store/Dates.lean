import Mathlib
import PackageRegistry.Proofs.Store.DateText
import PackageRegistry.Proofs.Store.ViewRows
/-!
# Dates compared as stored text

`created`, `updated` and `joined` bound a timestamp column with dates. Neither side reads as a
number (`KeepsNonNumbers`), so they compare as text, and `d` alone selects nothing
(`dateSearches_select_by_stored_text`).
-/

namespace PackageRegistry.Store

open PackageRegistry.Sql PackageRegistry.Search PackageRegistry.Text

/-! ## Search dates -/

/-- A calendar date as a search writes it, `YYYY-MM-DD`. -/
structure SearchDate where
  year : Nat
  month : Nat
  day : Nat
  year_lt : year < 10000
  month_lt : month < 100
  day_lt : day < 100

namespace SearchDate

/-- The first moment of the date. -/
def toTimestamp (d : SearchDate) : Timestamp := { year := d.year, month := d.month, day := d.day }

/-- A search date fits the stored date form. -/
theorem dateFits (d : SearchDate) : d.toTimestamp.DateFits := ⟨d.year_lt, d.month_lt, d.day_lt⟩

/-- The text of the date, `YYYY-MM-DD`. -/
def text (d : SearchDate) : String := d.toTimestamp.dateText

/-- A search date's year, month and day, compared in that order. -/
def calendarDay (d : SearchDate) : List Nat := [d.year, d.month, d.day]

/-- A character with a digit's code is alphanumeric. -/
theorem isAlphanum_of_digit {c : Char} (h : 48 ≤ c.toNat ∧ c.toNat ≤ 57) : c.isAlphanum = true := by
  simp only [Char.isAlphanum, Char.isDigit, Bool.or_eq_true, Bool.and_eq_true,
    decide_eq_true_eq, UInt32.le_iff_toNat_le]
  have hval : c.val.toNat = c.toNat := rfl
  right
  constructor <;> simp <;> omega

/-- A date is a plain operand: digits and dashes. -/
theorem plain (d : SearchDate) : PlainOperand d.text := by
  have htext := d.toTimestamp.dateText_toList d.dateFits
  refine ⟨by simp [text, htext], fun c hc => ?_⟩
  rw [text, htext] at hc
  simp only [List.mem_append, List.mem_cons] at hc
  rcases hc with hc | rfl | hc | rfl | hc
  · exact .inl (isAlphanum_of_digit (decimalDigits_ascii _ _ c hc))
  · exact .inr rfl
  · exact .inl (isAlphanum_of_digit (decimalDigits_ascii _ _ c hc))
  · exact .inr rfl
  · exact .inl (isAlphanum_of_digit (decimalDigits_ascii _ _ c hc))

end SearchDate

/-! ## Text that is no number -/

/-- What the engine's reading of text as a number is assumed to do, as SQLite documents numeric
affinity: text that is no number stays text. -/
def KeepsNonNumbers (num : List UInt8 → SqlValue) : Prop :=
  ∀ bs, (readReal bs).code ≤ 0 → num bs = .text bs

/-- Numeric affinity leaves text that is no number as it is. -/
theorem numericAffinityOf_keepsNonNumbers : KeepsNonNumbers numericAffinityOf := by
  intro bs h
  simp only [numericAffinityOf, if_pos h]

/-- Under numeric affinity a stored timestamp and a date compare as text, the date's own day on
the later side. -/
theorem compareBy_storedDate {num : List UInt8 → SqlValue} (hnum : KeepsNonNumbers num)
    {t : Timestamp} (ht : t.DateFits) (op : Comparator) (d : SearchDate) :
    compareBy num ⟨.numeric, .binary⟩ op (.ofString t.storageText) (.ofString d.text) =
      some (op.accepts (if t.calendarDay < d.calendarDay then .lt else .gt)) := by
  obtain ⟨rest, hstored⟩ := t.ofString_storageText ht
  have hdate : SqlValue.ofString d.text = .text (d.toTimestamp.dateBytes ++ []) := by
    rw [List.append_nil]
    exact d.toTimestamp.ofString_dateText d.dateFits
  -- neither side reads as a number, so both stay text
  have hkeep : ∀ (u : Timestamp) (tail : List UInt8),
      (SqlValue.text (u.dateBytes ++ tail)).withNumericAffinityBy num =
        .text (u.dateBytes ++ tail) :=
    fun u tail => hnum _ (le_of_eq (u.readReal_dateBytes_code tail))
  rw [hstored, hdate, compareBy_of_numeric rfl op (by rw [hkeep]; rfl) (by rw [hkeep]; rfl),
    hkeep, hkeep, List.append_nil]
  exact congrArg (fun o => some (op.accepts o)) (compareBytes_storedDate ht d.dateFits rest)

end PackageRegistry.Store

namespace PackageRegistry.Search

/-! ## The days a bound selects -/

/-- The days a bound over dates selects from timestamps compared as text: `>d` and `>=d` those
from `d`, `<d` and `<=d` those before, `d1..d2` from `d1` to `d2` excluded, `d` none. -/
def Bound.SelectsDay {α : Type} (day : α → List Nat) (k : List Nat) : Bound α → Prop
  | .compare .eq _ => False
  | .compare .gt a => ¬ k < day a
  | .compare .ge a => ¬ k < day a
  | .compare .lt a => k < day a
  | .compare .le a => k < day a
  | .range lo hi => (∀ a ∈ lo, ¬ k < day a) ∧ (∀ a ∈ hi, k < day a)

/-- Read with the order of a stored timestamp against dates, a bound admits exactly the days it
selects. -/
theorem Bound.admits_storedDay_iff {α : Type} (day : α → List Nat) (k : List Nat) :
    ∀ b : Bound α,
      b.admits (fun a => if k < day a then .lt else .gt) = true ↔ b.SelectsDay day k
  | .compare .eq a => by
    by_cases h : k < day a <;> simp [admits, Comparator.accepts, SelectsDay, h]
  | .compare .gt a => by
    by_cases h : k < day a <;> simp [admits, Comparator.accepts, SelectsDay, h]
  | .compare .ge a => by
    by_cases h : k < day a <;> simp [admits, Comparator.accepts, SelectsDay, h]
  | .compare .lt a => by
    by_cases h : k < day a <;> simp [admits, Comparator.accepts, SelectsDay, h]
  | .compare .le a => by
    by_cases h : k < day a <;> simp [admits, Comparator.accepts, SelectsDay, h]
  | .range lo hi => by
    cases lo <;> cases hi <;> simp [admits, Comparator.accepts, SelectsDay]

end PackageRegistry.Search

namespace PackageRegistry.Store

open PackageRegistry.Sql PackageRegistry.Search PackageRegistry.Text

/-! ## The searches -/

/-- Every date the registry stores is written in full by `YYYY-MM-DD`, as every date of the
years 1 to 9999 is. -/
structure Registry.DatesFit (r : Registry) : Prop where
  published : ∀ p ∈ r.packages, p.publishedAt.DateFits
  released : ∀ p ∈ r.packages, p.lastReleasedAt.DateFits
  joined : ∀ u ∈ r.users, u.joinedAt.DateFits

section searches

variable {engine : Engine} {num : List UInt8 → SqlValue} {r : Registry} {k column : String}

/-- A packages search of one date bound on a stored timestamp column returns exactly the rows of
the packages whose day the bound selects. -/
theorem packagesDateSearch_selects (hnum : KeepsNonNumbers num)
    (hk : (k, ⟨column, .relational⟩) ∈ EntitySearch.packages.qualifiers) (hkey : KeyText k)
    {stamp : PackageRecord → Timestamp} (hfit : ∀ p ∈ r.packages, (stamp p).DateFits)
    (hcol : ∀ p owner tag op (d : SearchDate),
      r.packagesView.compareAt num (r.packageViewRow p owner tag) column op d.text =
        compareBy num ⟨.numeric, .binary⟩ op (.ofString (stamp p).storageText) (.ofString d.text))
    (b : Bound SearchDate) (sort order page perPage : Option String)
    (h : engine.Answers num r.database r.packagesView
      ((b.value SearchDate.text).condition? column).toList) :
    ∃ c, EntitySearch.packages.compileRequest (some (k ++ ":" ++ b.text SearchDate.text))
        sort order page perPage = .ok c ∧
      ∃ rows, r.queryPackagesWith engine c.filter (c.params.map .text) c.orderBy none none =
          .ok rows ∧
        ∀ row, row ∈ rows ↔ ∃ p ∈ r.packages, ∃ owner, r.ownerOf? p = some owner ∧
          b.SelectsDay SearchDate.calendarDay (stamp p).calendarDay ∧
          row = r.packageResult p owner := by
  have hcmp : ∀ p ∈ r.packages, ∀ owner tag op (d : SearchDate),
      r.packagesView.compareAt num (r.packageViewRow p owner tag) column op d.text =
        some (op.accepts
          (if (stamp p).calendarDay < d.calendarDay then .lt else .gt)) :=
    fun p hp owner tag op d => (hcol p owner tag op d).trans
      (compareBy_storedDate hnum (hfit p hp) op d)
  obtain ⟨c, hc, rows, hq, hrows⟩ :=
    Registry.packagesSearch_bound hk hkey SearchDate.plain hcmp b sort order page perPage h
  exact ⟨c, hc, rows, hq, fun row => by simp only [hrows, Bound.admits_storedDay_iff]⟩

/-- A users search whose one qualifier bounds, with dates, a stored timestamp column returns
exactly the rows of the users whose day the bound selects. -/
theorem usersDateSearch_selects (hnum : KeepsNonNumbers num)
    (hk : (k, ⟨column, .relational⟩) ∈ EntitySearch.users.qualifiers) (hkey : KeyText k)
    {stamp : UserRecord → Timestamp} (hfit : ∀ u ∈ r.users, (stamp u).DateFits)
    (hcol : ∀ u op (d : SearchDate),
      r.usersView.compareAt num (r.userViewRow u) column op d.text =
        compareBy num ⟨.numeric, .binary⟩ op (.ofString (stamp u).storageText) (.ofString d.text))
    (b : Bound SearchDate) (sort order page perPage : Option String)
    (h : engine.Answers num r.database r.usersView
      ((b.value SearchDate.text).condition? column).toList) :
    ∃ c, EntitySearch.users.compileRequest (some (k ++ ":" ++ b.text SearchDate.text))
        sort order page perPage = .ok c ∧
      ∃ rows, r.queryUsersWith engine c.filter (c.params.map .text) c.orderBy none none =
          .ok rows ∧
        ∀ row, row ∈ rows ↔ ∃ u ∈ r.users,
          b.SelectsDay SearchDate.calendarDay (stamp u).calendarDay ∧ row = r.userResult u := by
  have hcmp : ∀ u ∈ r.users, ∀ op (d : SearchDate),
      r.usersView.compareAt num (r.userViewRow u) column op d.text =
        some (op.accepts
          (if (stamp u).calendarDay < d.calendarDay then .lt else .gt)) :=
    fun u hu op d => (hcol u op d).trans (compareBy_storedDate hnum (hfit u hu) op d)
  obtain ⟨c, hc, rows, hq, hrows⟩ :=
    Registry.usersSearch_bound hk hkey SearchDate.plain hcmp b sort order page perPage h
  exact ⟨c, hc, rows, hq, fun row => by simp only [hrows, Bound.admits_storedDay_iff]⟩

end searches

/-- In every registry whose stored dates are written in full, `created:b`, `updated:b` and
`joined:b` return exactly the rows of the records whose day `b` selects. -/
theorem dateSearches_select_by_stored_text {engine : Engine} {num : List UInt8 → SqlValue}
    (hnum : KeepsNonNumbers num) {r : Registry} (hr : r.DatesFit) (b : Bound SearchDate)
    (sort order page perPage : Option String)
    (hcreated : engine.Answers num r.database r.packagesView
      ((b.value SearchDate.text).condition? "published_at").toList)
    (hupdated : engine.Answers num r.database r.packagesView
      ((b.value SearchDate.text).condition? "last_released_at").toList)
    (hjoined : engine.Answers num r.database r.usersView
      ((b.value SearchDate.text).condition? "joined_at").toList) :
    (∃ c, EntitySearch.packages.compileRequest (some ("created:" ++ b.text SearchDate.text))
        sort order page perPage = .ok c ∧
      ∃ rows, r.queryPackagesWith engine c.filter (c.params.map .text) c.orderBy none none =
          .ok rows ∧
        ∀ row, row ∈ rows ↔ ∃ p ∈ r.packages, ∃ owner, r.ownerOf? p = some owner ∧
          b.SelectsDay SearchDate.calendarDay p.publishedAt.calendarDay ∧
          row = r.packageResult p owner) ∧
    (∃ c, EntitySearch.packages.compileRequest (some ("updated:" ++ b.text SearchDate.text))
        sort order page perPage = .ok c ∧
      ∃ rows, r.queryPackagesWith engine c.filter (c.params.map .text) c.orderBy none none =
          .ok rows ∧
        ∀ row, row ∈ rows ↔ ∃ p ∈ r.packages, ∃ owner, r.ownerOf? p = some owner ∧
          b.SelectsDay SearchDate.calendarDay p.lastReleasedAt.calendarDay ∧
          row = r.packageResult p owner) ∧
    (∃ c, EntitySearch.users.compileRequest (some ("joined:" ++ b.text SearchDate.text))
        sort order page perPage = .ok c ∧
      ∃ rows, r.queryUsersWith engine c.filter (c.params.map .text) c.orderBy none none =
          .ok rows ∧
        ∀ row, row ∈ rows ↔ ∃ u ∈ r.users,
          b.SelectsDay SearchDate.calendarDay u.joinedAt.calendarDay ∧ row = r.userResult u) :=
  ⟨packagesDateSearch_selects hnum (List.mem_cons_of_mem _ List.mem_cons_self)
      ⟨by simp, by simp, by simp; decide⟩ hr.published (fun _ _ _ _ _ => rfl) b sort order page
      perPage hcreated,
    packagesDateSearch_selects hnum
      (List.mem_cons_of_mem _ (List.mem_cons_of_mem _ List.mem_cons_self))
      ⟨by simp, by simp, by simp; decide⟩ hr.released (fun _ _ _ _ _ => rfl) b sort order page
      perPage hupdated,
    usersDateSearch_selects hnum
      (List.mem_cons_of_mem _ (List.mem_cons_of_mem _ List.mem_cons_self))
      ⟨by simp, by simp, by simp; decide⟩ hr.joined (fun _ _ _ => rfl) b sort order page
      perPage hjoined⟩

/-- The 30th of April 2016. -/
def aprilThirtieth : SearchDate := ⟨2016, 4, 30, by decide, by decide, by decide⟩

/-- Noon on 30 April 2016. -/
def aprilNoon : Timestamp := { year := 2016, month := 4, day := 30, hour := 12 }

/-- A registry with one user, who joined on the 30th of April 2016, and one package of theirs,
published and last released at noon that day. -/
def aprilRegistry : Registry where
  users := [{
    id := 1, username := "alice", email := "alice@example.org", password := ""
    joinedAt := { year := 2016, month := 4, day := 30, hour := 9 } }]
  packages := [{
    id := 1, name := "alpha", ownerId := 1, latestVersion := "1.0.0"
    publishedAt := aprilNoon, lastReleasedAt := aprilNoon }]

/-- An engine filtering the packages view by `created:b` and any other relation by `joined:b`. -/
def dateEngine (b : Bound SearchDate) : Engine := fun db rel =>
  if "published_at" ∈ rel.columnNames then
    filterEngine numericAffinityOf
      ((b.value SearchDate.text).condition? "published_at").toList db rel
  else
    filterEngine numericAffinityOf ((b.value SearchDate.text).condition? "joined_at").toList db rel

/-- Searches created and joined after 30 April 2016 return exactly the records whose stored date the
bound admits. -/
theorem dateSearches_after_april_thirtieth :
    (∃ c, EntitySearch.packages.compileRequest
        (some ("created:" ++ (Bound.compare .gt aprilThirtieth).text SearchDate.text)) none none
        none none = .ok c ∧
      ∃ rows, aprilRegistry.queryPackagesWith (dateEngine (.compare .gt aprilThirtieth)) c.filter
          (c.params.map .text) c.orderBy none none = .ok rows ∧
        ∀ row, row ∈ rows ↔ ∃ p ∈ aprilRegistry.packages, ∃ owner,
          aprilRegistry.ownerOf? p = some owner ∧
          (Bound.compare .gt aprilThirtieth).SelectsDay SearchDate.calendarDay
            p.publishedAt.calendarDay ∧
          row = aprilRegistry.packageResult p owner) ∧
    (∃ c, EntitySearch.packages.compileRequest
        (some ("updated:" ++ (Bound.compare .gt aprilThirtieth).text SearchDate.text)) none none
        none none = .ok c ∧
      ∃ rows, aprilRegistry.queryPackagesWith (dateEngine (.compare .gt aprilThirtieth)) c.filter
          (c.params.map .text) c.orderBy none none = .ok rows ∧
        ∀ row, row ∈ rows ↔ ∃ p ∈ aprilRegistry.packages, ∃ owner,
          aprilRegistry.ownerOf? p = some owner ∧
          (Bound.compare .gt aprilThirtieth).SelectsDay SearchDate.calendarDay
            p.lastReleasedAt.calendarDay ∧
          row = aprilRegistry.packageResult p owner) ∧
    (∃ c, EntitySearch.users.compileRequest
        (some ("joined:" ++ (Bound.compare .gt aprilThirtieth).text SearchDate.text)) none none
        none none = .ok c ∧
      ∃ rows, aprilRegistry.queryUsersWith (dateEngine (.compare .gt aprilThirtieth)) c.filter
          (c.params.map .text) c.orderBy none none = .ok rows ∧
        ∀ row, row ∈ rows ↔ ∃ u ∈ aprilRegistry.users,
          (Bound.compare .gt aprilThirtieth).SelectsDay SearchDate.calendarDay
            u.joinedAt.calendarDay ∧
          row = aprilRegistry.userResult u) := by
  have hnoon : aprilNoon.DateFits := ⟨by decide, by decide, by decide⟩
  have hfit : aprilRegistry.DatesFit :=
    ⟨fun p hp => by
      simp only [aprilRegistry, List.mem_singleton] at hp
      rw [hp]
      exact hnoon,
    fun p hp => by
      simp only [aprilRegistry, List.mem_singleton] at hp
      rw [hp]
      exact hnoon,
    fun u hu => by
      simp only [aprilRegistry, List.mem_singleton] at hu
      rw [hu]
      exact ⟨by decide, by decide, by decide⟩⟩
  have hpackages : "published_at" ∈ aprilRegistry.packagesView.columnNames :=
    show "published_at" ∈ packageColumns.map (·.name) by decide
  have husers : "published_at" ∉ aprilRegistry.usersView.columnNames :=
    show "published_at" ∉ userColumns.map (·.name) by decide
  have hengine : dateEngine (.compare .gt aprilThirtieth) aprilRegistry.database
      aprilRegistry.packagesView = filterEngine numericAffinityOf
        (((Bound.compare .gt aprilThirtieth).value SearchDate.text).condition?
          "published_at").toList aprilRegistry.database aprilRegistry.packagesView :=
    if_pos hpackages
  refine dateSearches_select_by_stored_text numericAffinityOf_keepsNonNumbers hfit
    (.compare .gt aprilThirtieth) none none none none ?_ ?_ ?_
  · intro orderBy horder fragment binds hb
    rw [hengine]
    exact filterEngine_answers _ _ _ _ orderBy horder fragment binds hb
  · -- the package was last released when it was published, so both conditions hold on its rows
    intro orderBy horder fragment binds hb
    rw [hengine]
    refine filterEngine_answers_of_iff (fun row hrow => ?_) orderBy horder fragment binds hb
    obtain ⟨p, hp, owner, -, tag, rfl⟩ := Registry.exists_of_mem_packageRows hrow
    have hpub : ∀ op (d : SearchDate), aprilRegistry.packagesView.compareAt numericAffinityOf
        (aprilRegistry.packageViewRow p owner tag) "published_at" op d.text =
          some (op.accepts (if p.publishedAt.calendarDay < d.calendarDay then .lt else .gt)) :=
      compareBy_storedDate numericAffinityOf_keepsNonNumbers (hfit.published p hp)
    have hrel : ∀ op (d : SearchDate), aprilRegistry.packagesView.compareAt numericAffinityOf
        (aprilRegistry.packageViewRow p owner tag) "last_released_at" op d.text =
          some (op.accepts (if p.lastReleasedAt.calendarDay < d.calendarDay then .lt else .gt)) :=
      compareBy_storedDate numericAffinityOf_keepsNonNumbers (hfit.released p hp)
    have hsame : p.lastReleasedAt = p.publishedAt := by
      simp only [aprilRegistry, List.mem_singleton] at hp
      rw [hp]
    rw [holds_condition?_iff hpub, holds_condition?_iff hrel, hsame]
  · have hjoined : dateEngine (.compare .gt aprilThirtieth) aprilRegistry.database
        aprilRegistry.usersView = filterEngine numericAffinityOf
          (((Bound.compare .gt aprilThirtieth).value SearchDate.text).condition?
            "joined_at").toList aprilRegistry.database aprilRegistry.usersView :=
      if_neg husers
    intro orderBy horder fragment binds hb
    rw [hjoined]
    exact filterEngine_answers _ _ _ _ orderBy horder fragment binds hb

end PackageRegistry.Store
