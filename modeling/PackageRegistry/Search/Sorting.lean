import PackageRegistry.Search.Column
import PackageRegistry.Text.Integer
/-!
# Sorting and pages

A request names sort keys, a direction, a page (from 1) and a page size, the size kept within
the ceiling. Then `limit = size` and `offset = (page - 1) * size`.
-/

namespace PackageRegistry.Search

open PackageRegistry.Text

/-- A sort direction. -/
inductive SortOrder where
  | asc
  | desc
  deriving Repr, BEq, DecidableEq, Inhabited

/-- The direction as it is written in an ordering. -/
def SortOrder.text : SortOrder → String
  | .asc => "ASC"
  | .desc => "DESC"

/-- A request's direction: `DESC` when its trimmed uppercase is `DESC`, else `ASC`. -/
def sanitizeOrder (requested : Option String) : SortOrder :=
  if toUpper (trim (requested.getD "")) = "DESC" then .desc else .asc

/-- The requested sort keys that are allowed, trimmed and lowercased, in request order, repeats
kept. -/
def sanitizeSort (requested allowed : List String) : List String :=
  requested.filterMap fun key =>
    let k := toLower (trim key)
    if !k.isEmpty && allowed.contains k then some k else none

/-- The window of a page request under a page-size ceiling: `(limit, offset)`. -/
def clampPage (page perPage maxPerPage : Int) : Int × Int :=
  let page := if page < 1 then 1 else page
  let size := if perPage ≤ 0 ∨ perPage > maxPerPage then maxPerPage else perPage
  (size, (page - 1) * size)

/-- A requested page and page size; a size of zero asks for the ceiling. -/
structure PageRequest where
  page : Int := 1
  perPage : Int := 0
  deriving Repr, BEq, DecidableEq, Inhabited

/-- A page parameter as an integer, or the default when it is absent or not an integer. -/
def pageParam (value : Option String) (default : Int) : Int :=
  match value with
  | none => default
  | some s => (readInteger? (trim s)).getD default

/-- The page request of raw parameter texts. -/
def PageRequest.ofParams (page perPage : Option String) : PageRequest :=
  ⟨pageParam page 1, pageParam perPage 0⟩

/-- Requested sort keys and direction, as sent. -/
structure SortRequest where
  keys : List String := []
  order : String := "ASC"
  deriving Repr, BEq, DecidableEq, Inhabited

/-- A sort request from raw texts: keys split at commas unless absent or empty; `ASC` unless a
direction is given. -/
def SortRequest.ofParams (sort order : Option String) : SortRequest where
  keys := match sort with
    | some s => if s.isEmpty then [] else s.splitOn ","
    | none => []
  order := match order with
    | some o => if o.isEmpty then "ASC" else o
    | none => "ASC"

/-- The ordering: requested sort keys of the mapping, else the default, as `column DIRECTION`,
comma-joined. -/
def orderExpression (columns : ColumnMapping) (requested : List String) (order : Option String)
    (default : String) : Except SearchError String := do
  let keys := match sanitizeSort requested columns.names with
    | [] => [default]
    | ks => ks
  let dir := (sanitizeOrder order).text
  let parts ← keys.mapM fun k => do
    let c ← columns.columnFor k
    pure (c ++ " " ++ dir)
  pure (", ".intercalate parts)

end PackageRegistry.Search
