import PackageRegistry.Search.Filter
import PackageRegistry.Search.Query
import PackageRegistry.Search.Sorting
/-!
# Searchable entities

An entity names the fields its free text may match (chosen by `in:`), its qualifiers with the
column each filters and how, its sort keys and a page-size ceiling. Compiling a request gives
the filter with its parameters, the ordering and the window.
-/

namespace PackageRegistry.Search

open PackageRegistry.Text

/-- How a qualifier value turns into a filter. -/
inductive FilterKind where
  /-- A comparison or a range: `>=10`, `2016-01-01..*`, `5`. -/
  | relational
  /-- Any word of the value contained in the column. -/
  | multiWord
  /-- The column equal to the value. -/
  | exact
  deriving Repr, BEq, DecidableEq

/-- The kind a configuration names. -/
def FilterKind.ofText? : String → Option FilterKind
  | "relational" => some .relational
  | "multi_word" => some .multiWord
  | "exact" => some .exact
  | _ => none

/-- A qualifier: the column it filters and how. -/
structure Qualifier where
  column : String
  kind : FilterKind
  deriving Repr, BEq, DecidableEq

/-- The filter a qualifier value gives. -/
def Qualifier.clause (q : Qualifier) (value : String) : Except SearchError (Clause String) :=
  match q.kind with
  | .relational => relationalClause q.column value
  | .multiWord => Clause.any <$> multiWordClauses q.column value
  | .exact => exactClause q.column value

/-- The page-size ceiling of an entity that does not name one. -/
def defaultMaxPageSize : Int := 100

/-- The search configuration of one entity. -/
structure EntitySearch where
  name : String
  inColumns : ColumnMapping
  qualifiers : List (String × Qualifier)
  sortColumns : ColumnMapping
  defaultSort : String
  maxPageSize : Int := defaultMaxPageSize
  deriving Repr, BEq, DecidableEq

/-- The qualifier that selects the fields of the free text. -/
def inQualifier : String := "in"

/-- A compiled search: the filter with placeholders, its parameters, the ordering and the
window. An empty filter matches everything. -/
structure CompiledSearch where
  filter : String
  params : List String
  orderBy : String
  limit : Int
  offset : Int
  deriving Repr, BEq, DecidableEq, Inhabited

namespace EntitySearch

/-- Checks an entity in order: no qualifier `in`, qualifier columns identifiers, the default sort
key a sort key, the ceiling positive. -/
def check (e : EntitySearch) : Except SearchError EntitySearch := do
  if e.qualifiers.any (·.1 == inQualifier) then throw (.reservedQualifier e.name)
  match e.qualifiers.find? (fun q => !isIdentifier q.2.column) with
  | some q => throw (.invalidIdentifier q.2.column)
  | none => pure ()
  if !e.sortColumns.contains e.defaultSort then
    throw (.defaultSortNotSortable e.name e.defaultSort)
  if e.maxPageSize ≤ 0 then throw (.pageSizeNotPositive e.name)
  pure e

/-- The `in:` value that selects every in-field: their public names joined by commas. -/
def defaultIn (e : EntitySearch) : String := ",".intercalate e.inColumns.names

/-- The filter of a tokenized query. -/
def filterOf (e : EntitySearch) (query : SearchQuery) : Except SearchError (Clause String) := do
  let q := query.withDefaults [(inQualifier, e.defaultIn)]
  let first ← inClause e.inColumns (decodeValue q.term) (decodeValue (q.get inQualifier))
  let rest ← e.qualifiers.mapM fun nq =>
    let v := trim (decodeValue (q.get nq.1))
    if v.isEmpty then pure Clause.empty else nq.2.clause v
  pure (Clause.all (first :: rest))

/-- Compiles a tokenized query with a page and a sort request. -/
def compile (e : EntitySearch) (query : SearchQuery) (page : PageRequest) (sort : SortRequest) :
    Except SearchError CompiledSearch := do
  let filter ← e.filterOf query
  let (limit, offset) := clampPage page.page page.perPage e.maxPageSize
  let orderBy ← orderExpression e.sortColumns sort.keys (some sort.order) e.defaultSort
  pure ⟨filter.fragment, filter.params, orderBy, limit, offset⟩

/-- Compiles a request given as raw parameter texts, any of them absent. -/
def compileRequest (e : EntitySearch) (q sort order page perPage : Option String) :
    Except SearchError CompiledSearch :=
  e.compile (SearchQuery.parse (q.getD "")) (PageRequest.ofParams page perPage)
    (SortRequest.ofParams sort order)

/-- The same entity with another page-size ceiling, checked again. -/
def withMaxPageSize (e : EntitySearch) (n : Int) : Except SearchError EntitySearch :=
  check { e with maxPageSize := n }

/-- Builds and checks an entity from in-fields, sort keys and qualifiers; a twice-named
qualifier keeps first place, last definition. -/
def build (name : String) (inPairs : List (String × String))
    (qualifierSpecs : List (String × String × String)) (sortPairs : List (String × String))
    (defaultSort : String) (maxPageSize : Int) : Except SearchError EntitySearch := do
  let inColumns ← ColumnMapping.ofPairs inPairs
  let specs ← qualifierSpecs.mapM fun spec =>
    match FilterKind.ofText? spec.2.2 with
    | some kind => pure (spec.1, ({ column := spec.2.1, kind } : Qualifier))
    | none => throw (.unknownFilterKind spec.2.2)
  let sortColumns ← ColumnMapping.ofPairs sortPairs
  let qualifiers := specs.foldl (fun acc nq => setEntry acc nq.1 nq.2) []
  check { name, inColumns, qualifiers, sortColumns, defaultSort, maxPageSize }

/-- Packages: free text over name, description, tags; qualifiers downloads, created, updated,
owner. -/
def packages : EntitySearch where
  name := "packages"
  inColumns := ⟨[("name", "name"), ("desc", "description"), ("tag", "tag")]⟩
  qualifiers :=
    [("downloads", ⟨"downloads", .relational⟩),
     ("created", ⟨"published_at", .relational⟩),
     ("updated", ⟨"last_released_at", .relational⟩),
     ("owner", ⟨"owner_username", .exact⟩)]
  sortColumns := ⟨[("downloads", "downloads"), ("created", "published_at"),
    ("updated", "last_released_at"), ("name", "name"), ("id", "id")]⟩
  defaultSort := "downloads"

/-- Users: free text over username, name, email; qualifiers packages, location, joined. -/
def users : EntitySearch where
  name := "users"
  inColumns := ⟨[("username", "username"), ("name", "name"), ("email", "email")]⟩
  qualifiers :=
    [("packages", ⟨"packages_count", .relational⟩),
     ("location", ⟨"location", .multiWord⟩),
     ("joined", ⟨"joined_at", .relational⟩)]
  sortColumns := ⟨[("joined", "joined_at"), ("packages", "packages_count"),
    ("username", "username"), ("id", "id")]⟩
  defaultSort := "joined"

/-- The searchable entities by name. -/
def registry : List (String × EntitySearch) := [("packages", packages), ("users", users)]

/-- The entity of a name, refusing a name the registry does not have. -/
def named (name : String) : Except SearchError EntitySearch :=
  match registry.lookup name with
  | some e => .ok e
  | none => .error (.unknownName name)

end EntitySearch

/-- The filter of a compiled search with named binds `:p0`, `:p1`, …, and their values. -/
def CompiledSearch.bind (c : CompiledSearch) (pfx : String := "p") :
    Except SearchError (String × List (String × String)) :=
  bindNamed pfx c.filter c.params

end PackageRegistry.Search
