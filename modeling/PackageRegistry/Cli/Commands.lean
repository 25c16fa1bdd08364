import PackageRegistry.Cli.Console
import PackageRegistry.Cli.Parse
import PackageRegistry.Cli.Help
import PackageRegistry.Cli.Program
import PackageRegistry.Config.Load
import PackageRegistry.Store.Queries
import PackageRegistry.Store.Connect
import PackageRegistry.Package.Name
import PackageRegistry.Package.Version
import PackageRegistry.Text.Utf8
/-!
# The commands

What each command does once read and the settings loaded. A refused input, a missing package or
user, and refused credentials exit 1, a database error 2, a VCS error 4.
-/

namespace PackageRegistry.Cli

open PackageRegistry.Store PackageRegistry.Config PackageRegistry.Search PackageRegistry.Package
open PackageRegistry.Text PackageRegistry.Files PackageRegistry.Console

/-- What a command gets: the world, settings, verbosity, and whether tables are colored. -/
structure Session where
  world : World
  settings : Settings
  verbose : Bool
  colored : Bool

/-- Whether output is styled: JSON then keeps non-ASCII and statements show as code blocks. -/
def Session.styled (s : Session) : Bool := s.world.isTerminal && s.colored

/-- Writes a JSON document as the session shows it. -/
def Session.printJson (s : Session) (j : Json) : Run Unit := Cli.printJson (!s.styled) j

def Session.openRegistry (s : Session) : Run Registry :=
  attempt databaseFailure (s.world.storage.openRegistry s.settings.databaseUrl)

def searchFailure (e : SearchError) : Failure := .unexpected e.errorClass e.message

def versionFailure : VersionError → Failure
  | .invalid => .invalid ValidationError.version.message
  | .tooManyDigits n => .unexpected "ValueError" (IntegerTextError.tooManyDigits n).message

def checkName (name : String) : Run Unit :=
  match validateName name with
  | .ok () => pure ()
  | .error (.inl e) => crash "UnicodeEncodeError" e.message
  | .error (.inr e) => fail (.invalid e.message)

/-- A table of fields and their values under a title, without headers. -/
def fieldTable (title : String) (fields : List (String × Option String)) : Table :=
  { title := some title, showHeader := false,
    columns := [{ header := "Field", style := "bold" }, { header := "Value" }],
    rows := fields.filterMap fun (field, value) => value.map fun v => { cells := [field, v] } }

/-- The fields of a package shown in its table: every field with a value but the name. -/
def packageFields (p : PackageRow) : List (String × Option String) :=
  let os := platforms (p.os.getD "")
  [("id", some (toString p.id)), ("owner", some p.ownerUsername),
    ("downloads", some (toString p.downloads)), ("version", some p.latestVersion),
    ("publishedAt", p.publishedAt.map (·.isoText)),
    ("lastReleasedAt", p.lastReleasedAt.map (·.isoText)), ("description", p.description),
    ("license", p.license), ("homepage", p.homepageUrl), ("repository", p.repositoryUrl),
    ("documentation", p.documentationUrl), ("bugs", p.bugsUrl), ("engines", p.enginesGo),
    ("os", if os.isEmpty then none else some (", ".intercalate os))]

/-- The social accounts of a user that are set, as `site: account` joined by commas. -/
def socialText (u : UserRow) : Option String :=
  let set := [("github", u.github), ("twitter", u.twitter), ("stackOverflow", u.stackOverflow),
    ("linkedin", u.linkedin)].filterMap fun (site, account) =>
      account.bind fun a => if a.isEmpty then none else some (site ++ ": " ++ a)
  if set.isEmpty then none else some (", ".intercalate set)

/-- The fields of a user shown in its table: every field with a value but the username. -/
def userFields (u : UserRow) : List (String × Option String) :=
  [("id", some (toString u.id)), ("name", u.name),
    ("email", if u.isPublicEmail then some u.email else none),
    ("packages", some (toString u.packagesCount)), ("joinedAt", u.joinedAt.map (·.isoText)),
    ("avatar", u.avatar), ("url", u.url), ("organization", u.organization),
    ("location", u.location), ("social", socialText u)]

/-- The date of a timestamp, or nothing. -/
def dateCell (t : Option Timestamp) : String := (t.map (·.dateText)).getD ""

/-- The table of found packages: names bold, versions magenta, owners bold cyan. -/
def packagesTable (rows : List PackageRow) : Table :=
  { headerStyle := "bold",
    columns := [{ header := "Name", style := "package.name", noWrap := true },
      { header := "Version", style := "package.version", noWrap := true },
      { header := "Downloads", justify := .right }, { header := "Owner", style := "user.name" },
      { header := "Updated" }, { header := "Description" }],
    rows := rows.map fun p =>
      { cells := [p.name, p.latestVersion, toString p.downloads, p.ownerUsername,
          dateCell p.lastReleasedAt, p.description.getD ""] } }

/-- The table of found users: usernames bold cyan. -/
def usersTable (rows : List UserRow) : Table :=
  { headerStyle := "bold",
    columns := [{ header := "Username", style := "user.name", noWrap := true }, { header := "Name" },
      { header := "Packages", justify := .right }, { header := "Location" },
      { header := "Joined" }],
    rows := rows.map fun u =>
      { cells := [u.username, u.name.getD "", toString u.packagesCount, u.location.getD "",
          dateCell u.joinedAt] } }

/-! ## Searching -/

/-- The bound values of a compiled search, one line each. -/
def printBinds (binds : List (String × String)) : Run Unit := do
  for (name, value) in binds do
    printMarkup false ("  [info]:" ++ name ++ "[/info] = " ++ escapeMarkup (quoted value)) false

def runSearch (s : Session) (entity : String) (r : Reading) : Run Unit := do
  let e ← attempt searchFailure (s.settings.searchFor entity)
  let query := " ".intercalate (r.texts "query")
  let c ← attempt searchFailure
    (e.compileRequest (some query) (r.text? "sort") (r.text? "order") (r.text? "page")
      (r.text? "per_page"))
  let window := "LIMIT " ++ toString c.limit ++ " OFFSET " ++ toString c.offset
  if s.verbose then printMarkup true ("[info]ORDER BY " ++ c.orderBy ++ " " ++ window ++ "[/info]")
  let format := (r.text? "output_format").getD "table"
  if format == "sql" then
    let (filter, binds) ← attempt searchFailure c.bind
    let head := if filter.isEmpty then "-- no filter" else "WHERE " ++ filter
    let statement := head ++ "\nORDER BY " ++ c.orderBy ++ "\n" ++ window
    if s.styled then printCode s.world.consoleWidth statement
    else writeOut (statement ++ "\n")
    printBinds binds
  else
    let reg ← s.openRegistry
    let (documents, table) ← if entity == "packages" then do
        let rows ← attempt readFailure (reg.searchPackages c)
        pure (rows.map PackageRow.toJson, packagesTable rows)
      else do
        let rows ← attempt readFailure (reg.searchUsers c)
        pure (rows.map UserRow.toJson, usersTable rows)
    if format == "json" then s.printJson (.arr documents)
    else if documents.isEmpty then info "No results"
    else do
      info (toString documents.length ++ " results")
      printTable table s.colored

/-! ## Packages -/

def runShow (s : Session) (r : Reading) : Run Unit := do
  let name := (r.text? "name").getD ""
  checkName name
  let reg ← s.openRegistry
  let row ← attempt readFailure (reg.getPackage name)
  if r.flag "as_json" then s.printJson row.toJson
  else printTable (fieldTable row.name (packageFields row))

def runVersions (s : Session) (r : Reading) : Run Unit := do
  let name := (r.text? "name").getD ""
  checkName name
  let reg ← s.openRegistry
  let history ← attempt readFailure (reg.packageVersions name)
  if r.flag "as_json" then s.printJson history.toJson
  else
    let table : Table :=
      { title := some history.name, headerStyle := "bold",
        columns := [{ header := "Version", style := "package.version" }, { header := "Released" }],
        rows := history.versions.map fun (v, t) => { cells := [v, t.spacedText] } }
    printTable table

def runReadme (s : Session) (r : Reading) : Run Unit := do
  let name := (r.text? "name").getD ""
  checkName name
  let version ← match r.text? "version" with
    | some v => if v.isEmpty then pure (some v) else some <$> attempt versionFailure (sanitizeVersion v)
    | none => pure none
  let reg ← s.openRegistry
  let readme ← attempt readFailure (reg.packageReadme name version)
  let text := decodeUtf8Lenient readme.content
  if r.flag "as_json" then s.printJson readme.toJson
  else if r.flag "raw" || !(toLower readme.name).endsWith ".md" then echo text
  else writeOut (Markdown.showMarkdown s.world.consoleWidth text)

def runDownloads (s : Session) (r : Reading) : Run Unit := do
  let names := r.texts "names"
  let reg ← s.openRegistry
  let counts := reg.packageDownloads (if names.isEmpty then none else some names)
  let total := reg.totalDownloads
  let missing := (names.eraseDups.filter fun n => !counts.any (·.1 == n)).mergeSort (· ≤ ·)
  if !missing.isEmpty then
    error ("Package not found: " ++ ", ".intercalate missing)
    exitWith 1
  if r.flag "as_json" then
    s.printJson (.obj [("packages", .obj (counts.map fun (n, c) => (n, .int c))),
      ("total", .int total)])
  else
    let last := counts.length
    let rows := (counts.zipIdx).map fun ((n, c), i) =>
      ({ cells := [n, toString c], endsSection := i + 1 == last } : TableRow)
    let table : Table :=
      { headerStyle := "bold",
        columns := [{ header := "Package", style := "package.name" },
          { header := "Downloads", justify := .right }],
        rows := rows ++ [{ cells := ["registry total", toString total], style := "bold" }] }
    printTable table

def registryClient (s : Settings) : Vcs.Client :=
  { host := s.vcsHost, port := s.vcsPort, authKey := s.vcsAuthKey }

/-- Sends a request to the VCS registry, expecting a status. -/
def sendRequest (s : Session) (q : Vcs.Request) (expected : Int) : Run Unit := do
  recordRequest q
  match q.settle Vcs.commandRoom expected s.world.registryAnswer with
  | .error d => crash d.errorClass d.message
  | .ok settled => attempt (fun (e : Vcs.VcsError) => Failure.vcs e.message) settled

/-- Whether a version is among the released ones; each comparison reads both versions. -/
def releasedAmong (version : String) : List String → Run Bool
  | [] => pure false
  | released :: rest => do
    if ← attempt versionFailure (sameVersion version released) then pure true
    else releasedAmong version rest

def runRegister (s : Session) (r : Reading) : Run Unit := do
  let name := (r.text? "name").getD ""
  let data := (r.file? "tarball").getD ""
  checkName name
  let reg ← s.openRegistry
  let pkg ← attempt readFailure (reg.getPackage name)
  let owner ← attempt readFailure (reg.getUser pkg.ownerUsername)
  let history ← attempt readFailure (reg.packageVersions name)
  let requested := match r.text? "version" with
    | some v => if v.isEmpty then pkg.latestVersion else v
    | none => pkg.latestVersion
  let version ← attempt versionFailure (sanitizeVersion requested)
  if !(← releasedAmong version (history.versions.map (·.1))) then
    fail (readFailure (.versionNotFound name version))
  let packageMeta : Vcs.PackageMeta :=
    { name := pkg.name, version,
      owner := ⟨owner.name.getD "", if owner.isPublicEmail then owner.email else "", owner.username⟩,
      visibility := if r.flag "private" then .ownerOnly else .everyone }
  sendRequest s ((registryClient s.settings).registerRequest packageMeta data) Vcs.registerStatus
  success ("Registered " ++ name ++ "@" ++ version)

def runDelete (s : Session) (r : Reading) : Run Unit := do
  let name := (r.text? "name").getD ""
  checkName name
  let reg ← s.openRegistry
  let _ ← attempt readFailure (reg.getPackage name)
  sendRequest s ((registryClient s.settings).deleteRequest name) Vcs.deleteStatus
  success ("Deleted " ++ name ++ " from the VCS registry")

/-! ## Accounts and setup -/

def runWhoami (s : Session) (r : Reading) : Run Unit := do
  let header := (r.text? "header").getD ""
  let reg ← s.openRegistry
  match reg.authenticate header with
  | .error (.credentials .nonAsciiValue) => crash "ValueError" Auth.AuthError.nonAsciiValue.message
  | .error (.credentials (.unencodable e)) => crash "UnicodeEncodeError" e.message
  | .error (.credentials e) => do
    error e.message
    exitWith 1
  | .error (.read e) => fail (readFailure e)
  | .ok none => do
    error "Invalid credentials"
    exitWith 1
  | .ok (some user) =>
    if r.flag "as_json" then s.printJson user.toJson
    else printTable (fieldTable user.username (userFields user))

/-- `init-db`. -/
def runInitDb (s : Session) : Run Unit :=
  match s.world.storage.createTables s.settings.databaseUrl with
  | .error (.failed text) => do
    error ("Failed to initialize database: " ++ text)
    exitWith 2
  | .error (.unexpected c text) => crash c text
  | .ok [] => info "All registry tables already exist"
  | .ok created =>
    success ("Created " ++ toString created.length ++ " tables: " ++ ", ".intercalate created)

/-- `init-config`. -/
def runInitConfig (s : Session) (r : Reading) : Run Unit := do
  let ws := s.world.workspace
  let given := (r.text? "output").getD (defaultConfigPath ws.home)
  let path ← match (PathName.parse given).expandUser ws.home ws.accounts with
    | .ok p => pure (p.resolveIn (PathName.parse ws.cwd))
    | .error e => crash "RuntimeError" e.message
  if ws.refusesAsTooLong path then crash "OSError" (nameTooLongMessage path)
  if ws.exists path && !r.flag "force" then
    error ("Config file already exists: " ++ path.text) "Use --force to overwrite"
    exitWith 1
  match ws.makeDirectories path.parent with
  | .error text => do
    error ("Failed to write config file: " ++ text)
    exitWith 1
  | .ok ws =>
    if ws.entryAt path == .directory then
      error ("Failed to write config file: [Errno 21] Is a directory: " ++ quoted path.text)
      exitWith 1
    success ("Created config file: " ++ path.text)
    info "Edit this file to point [database] url at your registry database."

/-- `help [COMMAND]...`: the named command's help (extra names after a non-group ignored), or
the program's. -/
def runHelp (r : Reading) : Run Unit := do
  let path := "cli help"
  match r.texts "command" with
  | [] => echo (program.helpPage path)
  | first :: rest =>
    match program.entry? first with
    | none => do
      error ("Unknown command: " ++ first)
      exitWith 1
    | some (.command c) => echo (c.helpPage path)
    | some (.group g) =>
      match rest with
      | [] => echo (g.helpPage path)
      | second :: _ =>
        match g.command? second with
        | none => do
          error ("Unknown command: " ++ second)
          exitWith 1
        | some c => echo (c.helpPage path)

def runCommand (s : Session) (name : String) (r : Reading) : Run Unit :=
  match name with
  | "help" => runHelp r
  | "search packages" => runSearch s "packages" r
  | "search users" => runSearch s "users" r
  | "package show" => runShow s r
  | "package versions" => runVersions s r
  | "package readme" => runReadme s r
  | "package downloads" => runDownloads s r
  | "package register" => runRegister s r
  | "package delete" => runDelete s r
  | "whoami" => runWhoami s r
  | "init-db" => runInitDb s
  | "init-config" => runInitConfig s r
  | _ => pure ()

end PackageRegistry.Cli
