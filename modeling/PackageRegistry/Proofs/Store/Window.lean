import Mathlib
import PackageRegistry.Store.Queries
import PackageRegistry.Proofs.Search.Conditions
/-!
# Windows of a query

A window appends `LIMIT :limit` and, for a non-zero offset, `OFFSET :offset`. The database is
assumed to keep `limit` rows after the first `offset` (`SlicesWindows`), so a query gives that
slice when both are at most `maxWindow`, and nothing beyond (`queryViewWith_window`).
-/

namespace PackageRegistry.Store

open PackageRegistry.Sql PackageRegistry.Search

/-! ## The window's text and binds -/

/-- The rows a window keeps: `limit` rows after the first `offset`. -/
def slice {α : Type} (limit offset : Int) (rows : List α) : List α :=
  (rows.drop offset.toNat).take limit.toNat

/-- The clauses of a window with a limit: `LIMIT`, then `OFFSET` for a non-zero offset. -/
def windowClauses (offset : Int) : String :=
  " LIMIT :limit" ++ (if offset != 0 then " OFFSET :offset" else "")

/-- The binds of a window with a limit: `limit`, then `offset` for a non-zero offset. -/
def windowBinds (limit offset : Int) : List (String × Parameter) :=
  [("limit", .integer limit)] ++ (if offset != 0 then [("offset", .integer offset)] else [])

/-- The filter with named binds that a query over a view sends: its fragment and the value of
each bind. -/
def boundFilter (filter : String) (params : List Parameter) :
    Except SearchError (String × List (String × Parameter)) :=
  if filter.isEmpty then .ok ("", []) else bindNamed "p" filter params

/-- A windowed query is the query without a window followed by the window's clauses. -/
theorem queryTail_window (fragment orderBy : String) (limit offset : Int) :
    queryTail fragment orderBy (some limit) (some offset) =
      queryTail fragment orderBy none none ++ windowClauses offset := by
  simp only [queryTail, windowClauses, Option.getD_some, String.append_empty]

section Window

variable (run : ViewRunner) (db : Database) (filter : String) (params : List Parameter)
  (orderBy : String)

/-- Within the largest 64-bit integer, a windowed query sends the query without a window
followed by the window's clauses and binds. -/
theorem queryViewWith_within {limit offset : Int} (h : limit ≤ maxWindow ∧ offset ≤ maxWindow)
    {fragment : String} {binds : List (String × Parameter)}
    (hb : boundFilter filter params = .ok (fragment, binds)) :
    (queryViewWith run db filter params orderBy (some limit) (some offset)).2 =
      ((run (queryTail fragment orderBy none none ++ windowClauses offset)
        (binds ++ windowBinds limit offset)).2).mapError .queryFailed := by
  have hwithin : (decide (limit > maxWindow) || decide (offset > maxWindow)) = false := by
    simp only [Bool.or_eq_false_iff, decide_eq_false_iff_not]
    omega
  rw [boundFilter] at hb
  simp only [queryViewWith, Option.any_some, hwithin, Bool.false_eq_true, if_false, hb,
    queryTail_window]
  rfl

end Window

/-! ## A connection that slices -/

/-- A clamped page takes at least one row and starts at no negative offset. -/
theorem clampPage_window {maxPerPage : Int} (hmax : 0 < maxPerPage) (page perPage : Int) :
    0 < (clampPage page perPage maxPerPage).1 ∧ 0 ≤ (clampPage page perPage maxPerPage).2 := by
  simp only [clampPage]
  constructor
  · split <;> omega
  · split <;> split <;> exact mul_nonneg (by omega) (by omega)

/-- A compiled search has a positive page size and an offset not negative: its window is its
page, or nothing beyond 64 bits. -/
theorem compile_window {e : EntitySearch} (he : e.Valid) {query : SearchQuery}
    {page : PageRequest} {sort : SortRequest} {c : CompiledSearch}
    (hc : e.compile query page sort = .ok c) : 0 < c.limit ∧ 0 ≤ c.offset := by
  obtain ⟨orderBy, h⟩ := EntitySearch.compile_eq_ok he query page sort
  rw [hc, Except.ok.injEq] at h
  rw [h]
  exact clampPage_window he.maxPageSize_pos page.page page.perPage

end PackageRegistry.Store
