import PackageRegistry.Store.Views
import PackageRegistry.Store.Rows
import PackageRegistry.Search.Entity
import PackageRegistry.Text.Base64
import PackageRegistry.Auth.Credentials
/-!
# Reading the registry

The reads clients make: searches over the views, packages and users by name, downloads,
versions, READMEs, and credentials' users. A query adds a filter, an order and a window; a
failing query reports its kind and first line.
-/

namespace PackageRegistry.Store

open PackageRegistry.Sql PackageRegistry.Search PackageRegistry.Text PackageRegistry.Auth

/-- Why a read fails. -/
inductive ReadError where
  /-- The filter's placeholders and values are not equally many. -/
  | placeholderCount (placeholders params : Nat)
  /-- The database refuses the query. -/
  | queryFailed (error : QueryError)
  | packageNotFound (name : String)
  | userNotFound (username : String)
  | versionNotFound (name version : String)
  deriving Repr, BEq

/-- The kind of failure the database reports for a refused query. -/
def failureKind : QueryError → String
  | .operational .tooBig => "sqlite3.DataError"
  | .operational .datatypeMismatch => "sqlite3.IntegrityError"
  | .operational _ => "sqlite3.OperationalError"
  | .valueRequired _ => "sqlalchemy.exc.InvalidRequestError"
  | _ => "sqlite3.ProgrammingError"

def firstLine (s : String) : String :=
  String.ofList (s.toList.takeWhile (· != '\n'))

/-- The text of a failed read. -/
def ReadError.message : ReadError → String
  | .placeholderCount p n => toString p ++ " placeholders but " ++ toString n ++ " parameters"
  | .queryFailed .integerTooLarge => QueryError.integerTooLarge.message
  | .queryFailed e => firstLine ("Query failed: (" ++ failureKind e ++ ") " ++ e.message)
  | .packageNotFound name => "Package not found: " ++ name
  | .userNotFound name => "User not found: " ++ name
  | .versionNotFound name version => "Version " ++ version ++ " of package " ++ name ++ " not found"

/-! ## Queries over the views -/

/-- The largest 64-bit integer: no window reaches beyond it. -/
def maxWindow : Int := Int.pow 2 63 - 1

/-- The text after the view for a filter, an order and a window. -/
def queryTail (filter orderBy : String) (limit offset : Option Int) : String :=
  (if filter.isEmpty then "" else " WHERE " ++ filter) ++
  (if orderBy.isEmpty then "" else " ORDER BY " ++ orderBy) ++
  match limit with
  | some _ => " LIMIT :limit" ++ (if offset.getD 0 != 0 then " OFFSET :offset" else "")
  | none => ""

/-- A connection's answer to what follows a view's `SELECT`, given named binds: the connection
after and rows or failure. -/
abbrev ViewRunner :=
  String → List (String × Parameter) → Database × Except QueryError (List (List SqlValue))

/-- A view query through a connection: filter with `?` placeholders and values, order, window;
gives the modules after. -/
def queryViewWith (run : ViewRunner) (db : Database) (filter : String) (params : List Parameter)
    (orderBy : String) (limit offset : Option Int) : List String × Except ReadError (List (List SqlValue)) :=
  if limit.any (· > maxWindow) || offset.any (· > maxWindow) then (db.modules, .ok [])
  else
    let bound := if filter.isEmpty then .ok ("", []) else bindNamed "p" filter params
    match bound with
    | .error _ => (db.modules, .error (.placeholderCount (placeholderCount filter) params.length))
    | .ok (fragment, binds) =>
      let window : List (String × Parameter) := match limit with
        | some l =>
          [("limit", .integer l)] ++
            (match offset with
              | some o => if o != 0 then [("offset", .integer o)] else []
              | none => [])
        | none => []
      let (db, rows) := run (queryTail fragment orderBy limit offset) (binds ++ window)
      (db.modules, rows.mapError .queryFailed)

/-- `queryViewWith` on the database's own connection, adding the modules of pragma tables
named. -/
def queryView (db : Database) (rel : Relation) (filter : String) (params : List Parameter)
    (orderBy : String) (limit offset : Option Int) : List String × Except ReadError (List (List SqlValue)) :=
  queryViewWith (runNamed db rel) db filter params orderBy limit offset

/-- Packages selected by a filter, order and window, with the registry after the query. -/
def Registry.runPackageQuery (r : Registry) (filter : String) (params : List Parameter)
    (orderBy : String) (limit offset : Option Int) : Registry × Except ReadError (List PackageRow) :=
  let (modules, rows) := queryView r.database r.packagesView filter params orderBy limit offset
  ({ r with modules }, rows.map (·.map PackageRow.ofValues))

/-- Users selected by a filter, order and window, with the registry after the query. -/
def Registry.runUserQuery (r : Registry) (filter : String) (params : List Parameter)
    (orderBy : String) (limit offset : Option Int) : Registry × Except ReadError (List UserRow) :=
  let (modules, rows) := queryView r.database r.usersView filter params orderBy limit offset
  ({ r with modules }, rows.map (·.map UserRow.ofValues))

/-- Packages selected by a filter, order and window. -/
def Registry.queryPackages (r : Registry) (filter : String) (params : List Parameter)
    (orderBy : String) (limit offset : Option Int) : Except ReadError (List PackageRow) :=
  (r.runPackageQuery filter params orderBy limit offset).2

/-- Users selected by a filter, order and window. -/
def Registry.queryUsers (r : Registry) (filter : String) (params : List Parameter)
    (orderBy : String) (limit offset : Option Int) : Except ReadError (List UserRow) :=
  (r.runUserQuery filter params orderBy limit offset).2

def Registry.searchPackages (r : Registry) (c : CompiledSearch) :
    Except ReadError (List PackageRow) :=
  r.queryPackages c.filter (c.params.map .text) c.orderBy (some c.limit) (some c.offset)

def Registry.searchUsers (r : Registry) (c : CompiledSearch) : Except ReadError (List UserRow) :=
  r.queryUsers c.filter (c.params.map .text) c.orderBy (some c.limit) (some c.offset)

def Registry.getPackage (r : Registry) (name : String) : Except ReadError PackageRow := do
  match ← r.queryPackages "name = ?" [.text name] "id ASC" (some 1) none with
  | p :: _ => pure p
  | [] => throw (.packageNotFound name)

def Registry.getUser (r : Registry) (username : String) : Except ReadError UserRow := do
  match ← r.queryUsers "username = ?" [.text username] "id ASC" (some 1) none with
  | u :: _ => pure u
  | [] => throw (.userNotFound username)

/-! ## Downloads and versions -/

/-- The number of downloads of all packages. -/
def Registry.totalDownloads (r : Registry) : Nat := r.downloads.length

/-- The download count of each package, by name, of the packages named (all when none are
given): `packages LEFT OUTER JOIN package_downloads`, the rows of the packages named, grouped
by package id and name and ordered by name. -/
def Registry.packageDownloads (r : Registry) (names : Option (List String)) :
    List (String × Nat) :=
  let joined := (leftJoin (fun p => r.downloads.filter (·.packageId == p.id)) r.packages).filter
    fun x => names.all (·.contains x.1.name)
  let counted := groupCount (fun p => (p.id, p.name)) joined
  (counted.mergeSort fun a b => decide (a.1.name ≤ b.1.name)).map fun c => (c.1.name, c.2)

/-- The released versions of a package. -/
structure VersionHistory where
  name : String
  id : Int
  versions : List (String × Timestamp)
  deriving Repr, BEq

/-- The version history of a package, oldest release first (by release time, then by when the
version was added). -/
def Registry.packageVersions (r : Registry) (name : String) : Except ReadError VersionHistory :=
  match r.packageNamed? name with
  | none => .error (.packageNotFound name)
  | some p =>
    let vs := r.versions.filter (·.packageId == p.id)
    let sorted := vs.mergeSort fun a b =>
      decide (a.releasedAt.storageText < b.releasedAt.storageText) ||
        (a.releasedAt.storageText == b.releasedAt.storageText && decide (a.id ≤ b.id))
    .ok ⟨name, p.id, sorted.map fun v => (v.version, v.releasedAt)⟩

def VersionHistory.toJson (h : VersionHistory) : Json :=
  .obj [("name", .str h.name), ("id", .int h.id),
    ("versions", .arr (h.versions.map fun v =>
      .obj [("version", .str v.1), ("releasedAt", .str v.2.isoText)]))]

/-! ## READMEs -/

/-- A README file of a package version. -/
structure Readme where
  name : String
  version : String
  content : List UInt8
  deriving Repr, BEq

/-- The README of a version that has none. -/
def placeholderReadme (name : String) : List UInt8 :=
  utf8Bytes ("# " ++ name ++ "\n\nNo README provided for this package.\n")

/-- A package version's README, the latest if none or empty is named; missing content gets a
`README.md` placeholder. -/
def Registry.packageReadme (r : Registry) (name : String) (version : Option String) :
    Except ReadError Readme :=
  match r.packageNamed? name with
  | none => .error (.packageNotFound name)
  | some p =>
    let v := match version with
      | some s => if s.isEmpty then p.latestVersion else s
      | none => p.latestVersion
    match r.versions.find? (fun x => x.packageId == p.id && x.version == v) with
    | none => .error (.versionNotFound name v)
    | some row =>
      match row.readmeContent with
      | some content@(_ :: _) =>
        let file := match row.readmeName with
          | some n => if n.isEmpty then "README.md" else n
          | none => "README.md"
        .ok ⟨file, v, content⟩
      | _ => .ok ⟨"README.md", v, placeholderReadme name⟩

/-- A README as clients see it: its size in bytes and its content in base64. -/
def Readme.toJson (m : Readme) : Json :=
  .obj [("name", .str m.name), ("version", .str m.version), ("size", .int m.content.length),
    ("content", .str (base64Encode m.content))]

/-! ## Credentials -/

/-- Why the user of credentials cannot be looked up. -/
inductive AccessError where
  | credentials (error : AuthError)
  | read (error : ReadError)
  deriving Repr, BEq

/-- The user an `Authorization` header's credentials belong to, if any. -/
def Registry.authenticate (r : Registry) (header : String) : Except AccessError (Option UserRow) := do
  let creds ← (parseAuthorization header).mapError .credentials
  let clause ← creds.clause.mapError .credentials
  let users ← (r.queryUsers clause.fragment (clause.params.map .text) "id ASC" (some 1) none).mapError .read
  pure users.head?

end PackageRegistry.Store
