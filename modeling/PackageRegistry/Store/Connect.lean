import PackageRegistry.Store.Tables
import PackageRegistry.Files.Path
import PackageRegistry.Text.Percent
import PackageRegistry.Text.Integer
import PackageRegistry.Sql.Binds
import PackageRegistry.Store.UrlQuery
import PackageRegistry.Store.SqliteFile
import PackageRegistry.Store.Schema
/-!
# Database URLs and connections

The database is named by a URL; SQLite is the one backend, the database a file path (memory when
none), the query setting the driver's options. A connection is usable when the seven registry
tables exist.
-/

namespace PackageRegistry.Store

open PackageRegistry.Files PackageRegistry.Text

/-! ## URLs -/

/-- The parts of a database URL. -/
structure DatabaseUrl where
  driver : String
  username : Option String := none
  password : Option String := none
  host : Option String := none
  port : Option String := none
  database : Option String := none
  query : Option String := none
  deriving Repr, BEq

/-- Whether a character may be part of a driver name. -/
def isDriverChar (c : Char) : Bool := Text.isWordChar c || c = '+'

/-- The position of the last occurrence of a character, if any. -/
def lastIndexOf (x : Char) (cs : List Char) : Option Nat :=
  (cs.zipIdx.filter (·.1 = x)).getLast?.map (·.2)

/-- Reads the user part: username, password and what follows the `@`. -/
def readUserPart (rest : List Char) : Option String × Option String × List Char :=
  let user := rest.takeWhile fun c => c ≠ ':' && c ≠ '/'
  let after := rest.drop user.length
  let withPassword :=
    match after with
    | ':' :: more =>
      if more.contains '@' then
        some (some (String.ofList user), some (String.ofList (more.takeWhile (· ≠ '@'))),
          (more.dropWhile (· ≠ '@')).drop 1)
      else none
    | _ => none
  match withPassword with
  | some r => r
  | none =>
    match lastIndexOf '@' user with
    | some i => (some (String.ofList (user.take i)), none, rest.drop (i + 1))
    | none => (none, none, rest)

/-- Reads the host: an address between brackets, or a name up to `/`, `:` or `?`. -/
def readHost (rest : List Char) : Option String × List Char :=
  let plain := fun (cs : List Char) =>
    let h := cs.takeWhile fun c => c ≠ '/' && c ≠ ':' && c ≠ '?'
    if h.isEmpty then (none, cs) else (some (String.ofList h), cs.drop h.length)
  match rest with
  | '[' :: more =>
    let run := more.takeWhile fun c => c ≠ '/' && c ≠ '?'
    match lastIndexOf ']' run with
    | some i =>
      if i > 0 then (some (String.ofList (run.take i)), more.drop (i + 1)) else plain rest
    | none => plain rest
  | _ => plain rest

/-- Reads a URL, or nothing when it does not start with a driver name and `://`. -/
def DatabaseUrl.parse? (s : String) : Option DatabaseUrl :=
  let cs := s.toList
  let name := cs.takeWhile isDriverChar
  match cs.drop name.length with
  | ':' :: '/' :: '/' :: rest =>
    if name.isEmpty then none
    else
      let (username, password, rest) := readUserPart rest
      let (host, rest) := readHost rest
      let (port, rest) := match rest with
        | ':' :: more =>
          let p := more.takeWhile fun c => c ≠ '/' && c ≠ '?'
          (some (String.ofList p), more.drop p.length)
        | _ => (none, rest)
      let (database, rest) := match rest with
        | '/' :: more =>
          let d := more.takeWhile (· ≠ '?')
          (some (percentDecode (String.ofList d)), more.drop d.length)
        | _ => (none, rest)
      let query := match rest with
        | '?' :: more => some (String.ofList (more.takeWhile (· ≠ '\n')))
        | _ => none
      some { driver := String.ofList name, username := username.map percentDecode,
             password := password.map percentDecode, host, port, database, query }
  | _ => none

/-- The backend of a URL: its driver name before any `+`. -/
def DatabaseUrl.backend (u : DatabaseUrl) : String :=
  (u.driver.splitOn "+").headD ""

def DatabaseUrl.shown (u : DatabaseUrl) : String :=
  u.driver ++ "://" ++
    (match u.username with
     | some name =>
       percentEncode " +" name ++ (if u.password.isSome then ":***" else "") ++ "@"
     | none => "") ++
    (match u.host with
     | some h => if h.toList.contains ':' then "[" ++ h ++ "]" else h
     | none => "") ++
    (match u.port.bind readInteger? with
     | some p => ":" ++ toString p
     | none => "") ++
    (match u.database with
     | some d => "/" ++ d
     | none => "") ++
    (match u.query with
     | some q => if q.isEmpty then "" else "?" ++ q
     | none => "")

/-! ## Failures -/

/-- A SQLite driver failure: error class, text, reference code, failing statement if any. -/
structure DriverFailure where
  errorClass : String
  text : String
  code : String
  statement : Option String := none
  deriving Repr, BEq, DecidableEq

/-- The driver's failure to open a database, with its text. -/
def openFailure (text : String) : DriverFailure :=
  { errorClass := "sqlite3.OperationalError", text, code := "e3q8" }

/-- The driver failure of a file that cannot be opened. -/
def cannotOpen : DriverFailure := openFailure "unable to open database file"

/-- The driver failure of a file that is not a database. -/
def notDatabase : DriverFailure :=
  { errorClass := "sqlite3.DatabaseError", text := "file is not a database", code := "4xp6" }

/-- The driver failure of creating the first table in a database opened for reading only. -/
def readOnlyFailure : DriverFailure :=
  { openFailure "attempt to write a readonly database" with
    statement := some ("\n" ++ usersDef.statement ++ "\n\n") }

/-- The text of a driver failure: the statement that failed, and the reference line. -/
def DriverFailure.message (f : DriverFailure) : String :=
  "(" ++ f.errorClass ++ ") " ++ f.text ++
    ((f.statement.map fun s => "\n[SQL: " ++ s ++ "]").getD "") ++
    "\n(Background on this error at: https://sqlalche.me/e/21/" ++ f.code ++ ")"

/-- Why a database cannot be used. -/
inductive DatabaseFault where
  /-- The URL cannot be read or its driver loaded. -/
  | invalidUrl (url reason : String)
  /-- The connection failed. -/
  | connect (failure : DriverFailure)
  /-- Registry tables are missing. -/
  | missingTables (names : List String)
  /-- An error outside the database layer: its class and text. -/
  | unexpected (errorClass text : String)
  deriving Repr, BEq

/-- The text of a fault. -/
def DatabaseFault.message : DatabaseFault → String
  | .invalidUrl url reason => "Invalid database URL " ++ quoted url ++ ": " ++ reason
  | .connect f => "Failed to connect: " ++ f.message
  | .missingTables names =>
    "Incompatible database schema: Missing required tables: " ++ ", ".intercalate names ++
      ". Run 'gopx init-db' to create them."
  | .unexpected _ text => text

/-! ## Drivers -/

/-- The client library each driver of the MySQL family needs (MariaDB has the same drivers). -/
def mysqlDrivers : List (String × String) :=
  [("base", "MySQLdb"), ("mysqldb", "MySQLdb"), ("pymysql", "pymysql"),
   ("mysqlconnector", "mysql"), ("asyncmy", "asyncmy"), ("aiomysql", "aiomysql"),
   ("cymysql", "cymysql"), ("mariadbconnector", "mariadb"), ("pyodbc", "pyodbc")]

/-- The client library each backend and driver needs, `base` the default driver; SQLite's is
built in. -/
def driverLibraries : List ((String × String) × String) :=
  [(("postgresql", "base"), "psycopg"), (("postgresql", "psycopg2"), "psycopg2"),
   (("postgresql", "psycopg"), "psycopg"), (("postgresql", "psycopg_async"), "psycopg"),
   (("postgresql", "pg8000"), "pg8000"), (("postgresql", "asyncpg"), "asyncpg"),
   (("postgresql", "psycopg2cffi"), "psycopg2cffi"), (("oracle", "base"), "oracledb"),
   (("oracle", "cx_oracle"), "cx_Oracle"), (("oracle", "oracledb"), "oracledb"),
   (("oracle", "oracledb_async"), "oracledb"), (("mssql", "base"), "pyodbc"),
   (("mssql", "pyodbc"), "pyodbc"), (("mssql", "pymssql"), "pymssql"),
   (("mssql", "aioodbc"), "aioodbc"), (("sqlite", "aiosqlite"), "aiosqlite"),
   (("sqlite", "pysqlcipher"), "pysqlcipher3")] ++
  mysqlDrivers.map (fun (d, l) => (("mysql", d), l)) ++
  mysqlDrivers.map (fun (d, l) => (("mariadb", d), l))

/-- Checks that the driver of a URL loads: SQLite's built-in one, or a known one whose library
is missing, or none. -/
def DatabaseUrl.loadDriver (u : DatabaseUrl) : Except DatabaseFault Unit :=
  let parts := u.driver.splitOn "+"
  let pluginName := ".".intercalate parts
  let cannotLoad := DatabaseFault.invalidUrl "" ("Can't load plugin: sqlalchemy.dialects:" ++ pluginName)
  match parts with
  | [backend] | [backend, _] =>
    let driver := if parts.length = 1 then "base" else parts.getD 1 ""
    if backend == "sqlite" && (driver == "base" || driver == "pysqlite") then .ok ()
    else
      match driverLibraries.lookup (backend, driver) with
      | some library => .error (.invalidUrl "" ("No module named " ++ quoted library))
      | none => .error cannotLoad
  | _ => .error (.unexpected "ValueError" "too many values to unpack (expected 2)")

/-- The SQLite URL forms, for the refusal of any other. -/
def sqliteForms : String :=
  "\nValid SQLite URL forms are:\n sqlite:///:memory: (or, sqlite://)\n" ++
    " sqlite:///relative/path/to/file.db\n sqlite:////absolute/path/to/file.db"

/-- The options the SQLite driver reads from a URL's query, in the order it reads them. -/
def driverOptions : List String :=
  ["uri", "timeout", "isolation_level", "detect_types", "check_same_thread", "cached_statements"]

def OptionError.fault (e : OptionError) : DatabaseFault := .unexpected e.errorClass e.text

/-- Reads the driver's options of a URL's query: whether the database is named by a URI, and
the two integers. -/
def readDriverOptions (options : List (String × OptionValue)) :
    Except DatabaseFault (Bool × Option Int × Option Int) := do
  let uri ← match options.lookup "uri" with
    | some v => v.asFlag.mapError OptionError.fault
    | none => pure false
  match options.lookup "timeout" with
  | some v => v.checkFloat.mapError OptionError.fault
  | none => pure ()
  let detect ← match options.lookup "detect_types" with
    | some v => (v.asInteger.map some).mapError OptionError.fault
    | none => pure none
  match options.lookup "check_same_thread" with
  | some v => discard (v.asFlag.mapError OptionError.fault)
  | none => pure ()
  let cached ← match options.lookup "cached_statements" with
    | some v => (v.asInteger.map some).mapError OptionError.fault
    | none => pure none
  pure (uri, detect, cached)

/-- The driver's file name: with `uri`, the database then the other options sorted as query;
else the database or `:memory:`. -/
def driverFileName (uri : Bool) (database : Option String)
    (options : List (String × OptionValue)) : Except DatabaseFault (Option String) :=
  if uri then
    let rest := (options.filter fun o => !driverOptions.contains o.1).mergeSort
      fun a b => decide (a.1 < b.1) || a.1 == b.1
    let query := "&".intercalate (rest.map fun (name, v) => name ++ "=" ++ v.text)
    match database with
    | some d => .ok (some (if rest.isEmpty then d else d ++ "?" ++ query))
    | none =>
      if rest.isEmpty then .ok none
      else .error (.unexpected "TypeError" "unsupported operand type(s) for +=: 'NoneType' and 'str'")
  else
    match database with
    | some d => .ok (some (if d.isEmpty then ":memory:" else d))
    | none => .ok (some ":memory:")

/-- Checks that an integer option fits in 32 bits. -/
def checkCInt : Option Int → Except DatabaseFault Unit
  | some n =>
    if n > 2147483647 || n < -2147483648 then
      .error (.unexpected "OverflowError" "Python int too large to convert to C int")
    else .ok ()
  | none => .ok ()

def checkIsolationLevel : Option OptionValue → Except DatabaseFault Unit
  | some v =>
    let level := v.text
    if level.toList.contains (Char.ofNat 0) then
      .error (.unexpected "ValueError" "embedded null character")
    else if !(["", "deferred", "immediate", "exclusive"].contains
        (String.ofList (level.toList.map Char.toLower))) then
      .error (.unexpected "ValueError"
        "isolation_level string must be '', 'DEFERRED', 'IMMEDIATE', or 'EXCLUSIVE'")
    else .ok ()
  | none => .ok ()

/-- A URL read for use: port a number, driver loadable, SQLite without user, password, host,
port. -/
def resolveUrl (cwd : String) (url : String) : Except DatabaseFault SqliteTarget := do
  let withUrl := fun (e : DatabaseFault) => match e with
    | .invalidUrl _ reason => DatabaseFault.invalidUrl url reason
    | other => other
  match DatabaseUrl.parse? url with
  | none => throw (.invalidUrl url "Could not parse SQLAlchemy URL from given URL string")
  | some u =>
    match u.port with
    | some p =>
      if (readInteger? p).isNone then
        throw (.unexpected "ValueError" (IntegerTextError.malformed p).message)
    | none => pure ()
    (u.loadDriver).mapError withUrl
    let set := fun (o : Option String) => match o with
      | some s => !s.isEmpty
      | none => false
    let portSet := match u.port.bind readInteger? with
      | some n => n != 0
      | none => false
    if set u.username || set u.password || u.host.isSome || portSet then
      throw (.invalidUrl url ("Invalid SQLite URL: " ++ u.shown ++ sqliteForms))
    let options := queryOptions (u.query.getD "")
    let (uri, detect, cached) ← readDriverOptions options
    let name ← driverFileName uri u.database options
    let name ← match name with
      | some n => pure n
      | none => throw (.unexpected "TypeError" "expected str, bytes or os.PathLike object, not NoneType")
    if name.toList.contains (Char.ofNat 0) then throw (.unexpected "ValueError" "embedded null byte")
    checkCInt detect
    checkIsolationLevel (options.lookup "isolation_level")
    checkCInt cached
    pure (sqliteTarget (PathName.parse cwd) uri name)

/-! ## Connecting -/

def registryTables : List String :=
  ["package_downloads", "package_tags", "package_versions", "packages", "user_api_keys",
    "user_social_accounts", "users"]

/-- What a command can reach: the workspace and registry databases in its files, by path. -/
structure Storage where
  workspace : Workspace
  databases : List (String × Registry) := []

/-- What a connection finds. -/
inductive Found where
  /-- A database with the registry tables. -/
  | registry (r : Registry)
  /-- A database without tables. -/
  | empty
  deriving Repr

/-- Connects and lists what a database holds: a path with a part over 255 bytes or over 511 in
all fails, as does a missing file. -/
def Storage.connect (st : Storage) (target : SqliteTarget) : Except DriverFailure Found :=
  match target with
  | .memory => .ok .empty
  | .refused reason => .error (openFailure reason)
  | .file path access =>
    if path.parts.any (fun part => part.utf8ByteSize > 255) ||
        path.parts.foldl (fun n part => n + 1 + part.utf8ByteSize) 0 > 511 then
      .error cannotOpen
    else
    match st.databases.lookup path.text with
    | some r => .ok (.registry { r with counts := {}, modules := [] })
    | none =>
      match st.workspace.entryAt path with
      | .directory => .error cannotOpen
      | .file contents => if contents.isEmpty then .ok .empty else .error notDatabase
      | .missing =>
        if access == .create && st.workspace.entryAt path.parent == .directory then .ok .empty
        else .error cannotOpen

/-- Opens the registry database of a URL for reading. -/
def Storage.openRegistry (st : Storage) (url : String) : Except DatabaseFault Registry := do
  let target ← resolveUrl st.workspace.cwd url
  match st.connect target with
  | .error f => throw (.connect f)
  | .ok (.registry r) => pure r
  | .ok .empty => throw (.missingTables registryTables)

/-! ## Creating the tables -/

/-- Why the tables cannot be created. -/
inductive SetupFault where
  /-- A failure reported as such: its text. -/
  | failed (text : String)
  /-- An error outside the database layer: its class and text. -/
  | unexpected (errorClass text : String)
  deriving Repr, BEq

/-- Creates a URL's missing registry tables: makes a SQLite file's directory, then connects;
gives the tables made. -/
def Storage.createTables (st : Storage) (url : String) : Except SetupFault (List String) := do
  let ws ← match DatabaseUrl.parse? url with
    | some u => do
      match u.port with
      | some p =>
        if (readInteger? p).isNone then
          throw (.unexpected "ValueError" (IntegerTextError.malformed p).message)
      | none => pure ()
      match u.database with
      | some d =>
        if u.backend == "sqlite" && !d.isEmpty && d != ":memory:" then
          match (PathName.parse d).expandUser st.workspace.home st.workspace.accounts with
          | .ok p =>
            if p.parent.text.toList.contains (Char.ofNat 0) then
              throw (.unexpected "ValueError" "embedded null byte")
            else (st.workspace.makeDirectories p.parent).mapError SetupFault.failed
          | .error e => throw (.unexpected "RuntimeError" e.message)
        else pure st.workspace
      | none => pure st.workspace
    | none => pure st.workspace
  let st := { st with workspace := ws }
  let target ← (resolveUrl ws.cwd url).mapError fun
    | .unexpected c t => SetupFault.unexpected c t
    | e => .failed e.message
  match st.connect target with
  | .error f => throw (.failed f.message)
  | .ok (.registry _) => pure []
  | .ok .empty =>
    match target with
    | .file _ .readOnly => throw (.failed readOnlyFailure.message)
    | _ => pure registryTables

end PackageRegistry.Store
