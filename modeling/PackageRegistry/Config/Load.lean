import PackageRegistry.Config.Settings
import PackageRegistry.Toml.Read
import PackageRegistry.Files.Path
import PackageRegistry.Text.Integer
import PackageRegistry.Decimal.Binary
/-!
# Loading settings

Settings come from the defaults, the TOML file, then the `GOPX_*` variables. The file's
settings are read in order and type-checked; a missing file gives the defaults and a warning.
Page sizes must be positive and the port a TCP port.
-/

namespace PackageRegistry.Config

open PackageRegistry.Toml PackageRegistry.Files PackageRegistry.Text PackageRegistry.Decimal

/-! ## Failures -/

/-- Why a setting's value is refused. -/
inductive SettingFault where
  | notUrl
  | notInteger
  | notBoolean
  | notText
  | notTextOrNull
  | notNumber
  | notPositive
  | notPort
  deriving Repr, BEq, DecidableEq

/-- The reason a refusal states. -/
def SettingFault.reason : SettingFault → String
  | .notUrl => "must be a string URL"
  | .notInteger => "must be an integer"
  | .notBoolean => "must be a boolean"
  | .notText => "must be a string"
  | .notTextOrNull => "must be a string or null"
  | .notNumber => "must be a number"
  | .notPositive => "must be positive"
  | .notPort => "must be a TCP port"

/-- Why a section that is not a table cannot be searched for a key. -/
inductive SectionFault where
  /-- A text containing the key's name, indexed by it. -/
  | textIndexed
  /-- A list holding the key's name, indexed by it. -/
  | listIndexed
  /-- A value of a type that cannot be searched. -/
  | notSearchable (typeName : String)
  deriving Repr, BEq, DecidableEq

/-- The text of a section fault. -/
def SectionFault.message : SectionFault → String
  | .textIndexed => "string indices must be integers, not 'str'"
  | .listIndexed => "list indices must be integers or slices, not str"
  | .notSearchable t => "argument of type '" ++ t ++ "' is not iterable"

/-- Why settings cannot be loaded. -/
inductive ConfigError where
  /-- The file is not valid TOML. -/
  | unreadable (path : String) (error : TomlError)
  /-- A value is refused. -/
  | invalid (key : String) (fault : SettingFault)
  /-- A section is not a table. -/
  | section (fault : SectionFault)
  /-- A decimal integer in the file has too many digits to be read. -/
  | integerTooLong (digits : Nat)
  /-- Values in the file are nested too deeply to be read; the step that went too deep. -/
  | tooDeep (step : Step)
  /-- An integer timeout is too large for a float. -/
  | timeoutTooLarge
  /-- A path names the home directory of an unknown user. -/
  | noHome (error : HomeError)
  /-- The settings path is a directory. -/
  | isDirectory (path : String)
  /-- A path to look at is too long for the system. -/
  | nameTooLong (path : PathName)
  deriving Repr, BEq

/-- The text of a failure. -/
def ConfigError.message : ConfigError → String
  | .unreadable path e => "Invalid config at " ++ path ++ ": " ++ e.message
  | .invalid key fault => "Invalid config value for '" ++ key ++ "': " ++ fault.reason
  | .section fault => fault.message
  | .integerTooLong digits => (IntegerTextError.tooManyDigits digits).message
  | .tooDeep step => step.refusal
  | .timeoutTooLarge => "int too large to convert to float"
  | .noHome e => e.message
  | .isDirectory path => "[Errno 21] Is a directory: " ++ quoted path
  | .nameTooLong path => nameTooLongMessage path

/-- The class a failure is reported as: syntax and refused values are configuration errors,
others the errors of the operations that failed. -/
def ConfigError.errorClass : ConfigError → String
  | .unreadable .. => "ConfigParseError"
  | .invalid .. => "ConfigValidationError"
  | .section _ => "TypeError"
  | .integerTooLong _ => "ValueError"
  | .tooDeep _ => "RecursionError"
  | .timeoutTooLarge => "OverflowError"
  | .noHome _ => "RuntimeError"
  | .isDirectory _ => "IsADirectoryError"
  | .nameTooLong _ => "OSError"

/-- Whether a failure is a configuration error proper, reported as a message, not a crash. -/
def ConfigError.isConfigError : ConfigError → Bool
  | .unreadable .. | .invalid .. => true
  | _ => false

/-! ## Reading the file -/

/-- Whether `needle` occurs in `hay`. -/
def containsText (hay needle : String) : Bool :=
  (breakOn needle.toList hay.toList).isSome

/-- The value of a key in a section, if the section has it. A missing section has nothing. -/
def sectionMember (sec : Option TomlValue) (key : String) :
    Except ConfigError (Option TomlValue) :=
  match sec with
  | none => .ok none
  | some (.table members) => .ok (members.lookup key)
  | some (.string s) => if containsText s key then .error (.section .textIndexed) else .ok none
  | some (.array items) =>
    if items.any (fun | .string s => s == key | _ => false) then .error (.section .listIndexed)
    else .ok none
  | some v => .error (.section (.notSearchable v.typeName))

/-- Applies a setting of the file when its key is there. -/
def readSetting (sec : Option TomlValue) (key : String) (s : Settings)
    (apply : TomlValue → Except ConfigError Settings) : Except ConfigError Settings := do
  match ← sectionMember sec key with
  | some v => apply v
  | none => .ok s

/-- The float of an integer, refusing one beyond the largest double. -/
def floatOfInteger (n : Int) : Except ConfigError Float :=
  let x := nearestDouble (n < 0) n.natAbs 0
  if x.isInf then .error .timeoutTooLarge else .ok x

/-- The settings of a file read to a table. -/
def Settings.ofDocument (home path : String) (doc : TomlTable) : Except ConfigError Settings := do
  let s : Settings := { Settings.defaults home with configPath := some path }
  let database := doc.lookup "database"
  let search := doc.lookup "search"
  let display := doc.lookup "display"
  let vcs := doc.lookup "vcs"
  let s ← readSetting database "url" s fun
    | .string u => .ok { s with databaseUrl := u }
    | _ => .error (.invalid "database.url" .notUrl)
  let s ← readSetting search "packages_max_page_size" s fun
    | .integer n => .ok { s with packagesMaxPageSize := n }
    | _ => .error (.invalid "search.packages_max_page_size" .notInteger)
  let s ← readSetting search "users_max_page_size" s fun
    | .integer n => .ok { s with usersMaxPageSize := n }
    | _ => .error (.invalid "search.users_max_page_size" .notInteger)
  let s ← readSetting display "colored_output" s fun
    | .boolean b => .ok { s with coloredOutput := b }
    | _ => .error (.invalid "display.colored_output" .notBoolean)
  let s ← readSetting vcs "host" s fun
    | .string h => .ok { s with vcsHost := h }
    | _ => .error (.invalid "vcs.host" .notText)
  let s ← readSetting vcs "port" s fun
    | .integer n => .ok { s with vcsPort := n }
    | _ => .error (.invalid "vcs.port" .notInteger)
  let s ← readSetting vcs "auth_key" s fun
    | .string k => .ok { s with vcsAuthKey := some k }
    | _ => .error (.invalid "vcs.auth_key" .notTextOrNull)
  readSetting vcs "timeout" s fun
    | .integer n => do
      let x ← floatOfInteger n
      .ok { s with vcsTimeout := .real x }
    | .float x => .ok { s with vcsTimeout := .real x }
    | _ => .error (.invalid "vcs.timeout" .notNumber)

/-! ## The environment -/

def databaseUrlVariable : String := "GOPX_DATABASE_URL"

def vcsHostVariable : String := "GOPX_VCS_API_HOST"

def vcsPortVariable : String := "GOPX_VCS_API_PORT"

def vcsAuthKeyVariable : String := "GOPX_VCS_API_AUTH_KEY"

/-- The value of a variable when it is set and not empty. -/
def setVariable (env : List (String × String)) (name : String) : Option String :=
  match env.lookup name with
  | some v => if v.isEmpty then none else some v
  | none => none

/-- Applies the environment's overrides. -/
def Settings.applyEnv (env : List (String × String)) (s : Settings) :
    Except ConfigError Settings := do
  let s := match setVariable env databaseUrlVariable with
    | some v => { s with databaseUrl := v }
    | none => s
  let s := match setVariable env vcsHostVariable with
    | some v => { s with vcsHost := v }
    | none => s
  let s ← match setVariable env vcsPortVariable with
    | some v =>
      match readInteger v with
      | .ok n => .ok { s with vcsPort := n }
      | .error _ => .error (.invalid vcsPortVariable .notInteger)
    | none => .ok s
  match setVariable env vcsAuthKeyVariable with
  | some v => .ok { s with vcsAuthKey := some v }
  | none => .ok s

/-! ## Checks -/

/-- The SQLite URL prefix of a database file path. -/
def sqlitePrefix : String := "sqlite:///"

/-- The database file of a SQLite URL, with `~` expanded. -/
def sqliteFile? (ws : Workspace) (url : String) : Except ConfigError (Option PathName) :=
  if url.startsWith sqlitePrefix then
    let written := PathName.parse (url.drop sqlitePrefix.length).toString
    match written.expandUser ws.home ws.accounts with
    | .ok p => .ok (some p)
    | .error e => .error (.noHome e)
  else .ok none

def missingKeyWarning : String :=
  "No VCS registry auth key configured (set vcs.auth_key or " ++ vcsAuthKeyVariable ++ ")"

/-- Checks settings, giving the warnings of what is usable but likely wrong. -/
def Settings.validate (ws : Workspace) (s : Settings) : Except ConfigError (List String) := do
  if s.packagesMaxPageSize ≤ 0 then .error (.invalid "search.packages_max_page_size" .notPositive)
  else if s.usersMaxPageSize ≤ 0 then .error (.invalid "search.users_max_page_size" .notPositive)
  else if !(0 < s.vcsPort && s.vcsPort < 65536) then .error (.invalid "vcs.port" .notPort)
  else
    let file ← sqliteFile? ws s.databaseUrl
    let dbWarning ← match file with
      | some p =>
        if ws.refusesAsTooLong p then .error (.nameTooLong p)
        else if ws.exists p then .ok []
        else .ok ["Database not found: " ++ p.text ++ ". Create it with: gopx init-db"]
      | none => .ok []
    let keyWarning := if s.vcsAuthKey.isNone then [missingKeyWarning] else []
    .ok (dbWarning ++ keyWarning)

/-! ## Loading -/

def missingFileWarning (path : String) : String :=
  "No config file found at " ++ path ++ ". Using defaults. Create config with: gopx init-config"

/-- The absolute path of the settings file: the given one, or the default under the home
directory. -/
def settingsPath (ws : Workspace) (given : Option String) : Except ConfigError PathName :=
  match (PathName.parse (given.getD (defaultConfigPath ws.home))).expandUser ws.home ws.accounts with
  | .ok p => .ok (p.resolveIn (PathName.parse ws.cwd))
  | .error e => .error (.noHome e)

/-- The level at which a program's own call to load its settings runs (see `Toml.Read` on
levels). -/
def settingsDepth : Nat := 5

/-- Loads settings from a file (the default one when none is given) and the environment, with
the warnings to show; the loader runs at level `depth`. -/
def loadSettings (depth : Nat) (ws : Workspace) (given : Option String)
    (env : List (String × String)) :
    Except ConfigError (Settings × List String) := do
  let path ← settingsPath ws given
  if ws.refusesAsTooLong path then throw (.nameTooLong path)
  let (s, warnings) ← match ws.entryAt path with
    | .missing => .ok (Settings.defaults ws.home, [missingFileWarning path.text])
    | .directory => .error (.isDirectory path.text)
    | .file text =>
      match readDocument (depth + 2) text with
      | .ok doc => do
        let s ← Settings.ofDocument ws.home path.text doc
        .ok (s, [])
      | .error (.integerTooLong digits) => .error (.integerTooLong digits)
      | .error (.tooDeep step) => .error (.tooDeep step)
      | .error e => .error (.unreadable path.text e)
  let s ← s.applyEnv env
  let more ← s.validate ws
  .ok (s, warnings ++ more)

end PackageRegistry.Config
