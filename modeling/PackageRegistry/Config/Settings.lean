import PackageRegistry.Toml.Value
import PackageRegistry.Toml.Write
import PackageRegistry.Search.Entity
import PackageRegistry.Decimal.Format
/-!
# Settings

The database URL, the searches' page-size ceilings, colored output, and the VCS registry's host,
port, key and timeout, each with a default; written back as TOML tables, the key only when set.
-/

namespace PackageRegistry.Config

open PackageRegistry.Toml PackageRegistry.Search PackageRegistry.Decimal

/-- A timeout in seconds as settings hold it: a whole number or a float. Read settings always
hold a float. -/
inductive Seconds where
  | whole (n : Int)
  | real (x : Float)
  deriving Repr, Inhabited

/-- The literal of a timeout: `30` or `30.0`. -/
def Seconds.text : Seconds → String
  | .whole n => toString n
  | .real x => formatFloat .literal x

/-- The TOML value of a timeout. -/
def Seconds.toValue : Seconds → TomlValue
  | .whole n => .integer n
  | .real x => .float x

/-- The settings of the command line. -/
structure Settings where
  databaseUrl : String
  packagesMaxPageSize : Int := defaultMaxPageSize
  usersMaxPageSize : Int := defaultMaxPageSize
  coloredOutput : Bool := true
  vcsHost : String := "localhost"
  vcsPort : Int := 8080
  vcsAuthKey : Option String := none
  vcsTimeout : Seconds := .real 30.0
  configPath : Option String := none
  deriving Repr, Inhabited

/-- The default database: a SQLite file under the home directory. -/
def defaultDatabaseUrl (home : String) : String :=
  "sqlite:///" ++ home ++ "/.local/share/gopx/registry.db"

def Settings.defaults (home : String) : Settings :=
  { databaseUrl := defaultDatabaseUrl home }

/-- The default settings file under a home directory. -/
def defaultConfigPath (home : String) : String :=
  home ++ "/.config/gopx/config.toml"

/-- The search of an entity with the configured page-size ceiling. -/
def Settings.searchFor (s : Settings) (name : String) : Except SearchError EntitySearch := do
  let e ← EntitySearch.named name
  let ceiling := if name == "packages" then s.packagesMaxPageSize else s.usersMaxPageSize
  e.withMaxPageSize ceiling

def Settings.toTables (s : Settings) : List (String × TomlTable) :=
  [("database", [("url", .string s.databaseUrl)]),
   ("search", [("packages_max_page_size", .integer s.packagesMaxPageSize),
     ("users_max_page_size", .integer s.usersMaxPageSize)]),
   ("display", [("colored_output", .boolean s.coloredOutput)]),
   ("vcs", [("host", .string s.vcsHost), ("port", .integer s.vcsPort),
     ("timeout", s.vcsTimeout.toValue)] ++
     ((s.vcsAuthKey.map fun k => [("auth_key", TomlValue.string k)]).getD []))]

def Settings.saveText (s : Settings) : String := writeTables s.toTables

end PackageRegistry.Config
