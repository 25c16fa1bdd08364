import Mathlib
import PackageRegistry.Proofs.Config.Failures
/-!
# Settings merged from a file and the environment

For a document whose sections are tables or absent, loading is a merge
(`loadSettings_of_tables`): the first value of the wrong type is refused whatever the
environment says; else a setting comes from its variable when set and not empty, else from the
file, else its default, and the checks run on the merged settings.
-/

namespace PackageRegistry.Config

open PackageRegistry.Toml PackageRegistry.Text PackageRegistry.Files

/-! ## The file's values -/

/-- The value of a key in a section of a document, when the section is a table. -/
def fileValue (doc : TomlTable) (name key : String) : Option TomlValue :=
  match doc.lookup name with
  | some (.table members) => members.lookup key
  | _ => none

/-- Whether a value has the type whose lack the fault reports. -/
def SettingFault.accepts : SettingFault → TomlValue → Bool
  | .notUrl, .string _ | .notText, .string _ | .notTextOrNull, .string _ => true
  | .notInteger, .integer _ | .notBoolean, .boolean _ => true
  | .notNumber, .integer _ | .notNumber, .float _ => true
  | _, _ => false

/-- The refusal of a key's value, when the file has one of the wrong type. -/
def refusal (doc : TomlTable) (name key : String) (fault : SettingFault) : Option ConfigError :=
  match fileValue doc name key with
  | some v => if fault.accepts v then none else some (.invalid (name ++ "." ++ key) fault)
  | none => none

/-- The settings of a file in the order they are read: section, key, and the fault of a value
of the wrong type. -/
def settingKeys : List (String × String × SettingFault) :=
  [("database", "url", .notUrl), ("search", "packages_max_page_size", .notInteger),
    ("search", "users_max_page_size", .notInteger), ("display", "colored_output", .notBoolean),
    ("vcs", "host", .notText), ("vcs", "port", .notInteger), ("vcs", "auth_key", .notTextOrNull),
    ("vcs", "timeout", .notNumber)]

/-- The refusal of the first value of the wrong type. -/
def firstRefusal (doc : TomlTable) : Option ConfigError :=
  settingKeys.findSome? fun (name, key, fault) => refusal doc name key fault

/-- The text a settings file gives a key of a section, if it is a string. -/
def fileText (doc : TomlTable) (name key : String) : Option String :=
  match fileValue doc name key with
  | some (.string t) => some t
  | _ => none

/-- The integer a settings file gives a key of a section, if it is one. -/
def fileInteger (doc : TomlTable) (name key : String) : Option Int :=
  match fileValue doc name key with
  | some (.integer n) => some n
  | _ => none

/-- The boolean a settings file gives a key of a section, if it is one. -/
def fileBoolean (doc : TomlTable) (name key : String) : Option Bool :=
  match fileValue doc name key with
  | some (.boolean b) => some b
  | _ => none

/-- The file's timeout as a float, an integer converted, or `fallback` when there is none. -/
def fileTimeout (doc : TomlTable) (fallback : Seconds) : Except ConfigError Seconds :=
  match fileValue doc "vcs" "timeout" with
  | some (.integer n) => .real <$> floatOfInteger n
  | some (.float x) => .ok (.real x)
  | _ => .ok fallback

/-! ## The merge -/

/-- The settings of a document and an environment with no value refused: an overridable setting
from its variable when set and not empty, else from the file, else the default. -/
def mergedSettings (home path : String) (doc : TomlTable) (env : List (String × String))
    (port : Int) (timeout : Seconds) : Settings :=
  let d := Settings.defaults home
  { databaseUrl := (setVariable env databaseUrlVariable).getD
      ((fileText doc "database" "url").getD d.databaseUrl)
    packagesMaxPageSize :=
      (fileInteger doc "search" "packages_max_page_size").getD d.packagesMaxPageSize
    usersMaxPageSize := (fileInteger doc "search" "users_max_page_size").getD d.usersMaxPageSize
    coloredOutput := (fileBoolean doc "display" "colored_output").getD d.coloredOutput
    vcsHost := (setVariable env vcsHostVariable).getD ((fileText doc "vcs" "host").getD d.vcsHost)
    vcsPort := port
    vcsAuthKey := (setVariable env vcsAuthKeyVariable).or
      ((fileText doc "vcs" "auth_key").or d.vcsAuthKey)
    vcsTimeout := timeout
    configPath := some path }

/-- The port: the variable's integer when it is set and not empty, else the file's port, else
`fallback`. -/
def mergedPort (env : List (String × String)) (doc : TomlTable) (fallback : Int) :
    Except ConfigError Int :=
  match setVariable env vcsPortVariable with
  | some v =>
    match readInteger v with
    | .ok n => .ok n
    | .error _ => .error (.invalid vcsPortVariable .notInteger)
  | none => .ok ((fileInteger doc "vcs" "port").getD fallback)

/-- Loading as a merge: the file's first refused value, else the merged settings once timeout
and port are read, with warnings. -/
def loadedSettings (ws : Workspace) (path : String) (doc : TomlTable)
    (env : List (String × String)) : Except ConfigError (Settings × List String) :=
  match firstRefusal doc with
  | some e => .error e
  | none => do
    let timeout ← fileTimeout doc (Settings.defaults ws.home).vcsTimeout
    let port ← mergedPort env doc (Settings.defaults ws.home).vcsPort
    let s := mergedSettings ws.home path doc env port timeout
    let more ← s.validate ws
    pure (s, more)

/-! ## Reading a document -/

/-- In a section that is a table or absent, a setting applies the file's value. -/
theorem readSetting_of_table {doc : TomlTable} {name key : String} {s : Settings}
    {apply : TomlValue → Except ConfigError Settings} (h : ¬NotATable doc name) :
    readSetting (doc.lookup name) key s apply =
      match fileValue doc name key with
      | some v => apply v
      | none => .ok s := by
  unfold readSetting fileValue
  cases hsec : doc.lookup name with
  | none => rfl
  | some v =>
    cases v with
    | table members =>
      simp only [sectionMember]
      cases members.lookup key <;> rfl
    | _ => exact absurd ⟨_, hsec, fun _ h => by cases h⟩ h

/-- A setting read first: refused if the file's value has the wrong type, else the rest from
`f`'s settings. -/
theorem readSetting_bind {β : Type} {doc : TomlTable} {name key : String}
    {s : Settings} {apply : TomlValue → Except ConfigError Settings}
    {k : Settings → Except ConfigError β} (fault : SettingFault) (f : Settings → Settings)
    (h : ¬NotATable doc name)
    (happly : ∀ v, fileValue doc name key = some v →
      apply v = if fault.accepts v then .ok (f s) else .error (.invalid (name ++ "." ++ key) fault))
    (hnone : fileValue doc name key = none → f s = s) :
    (readSetting (doc.lookup name) key s apply >>= k) =
      match refusal doc name key fault with
      | some e => .error e
      | none => k (f s) := by
  rw [readSetting_of_table h, refusal]
  cases hv : fileValue doc name key with
  | none =>
    rw [hnone hv]
    rfl
  | some v =>
    dsimp only
    rw [happly v hv]
    cases fault.accepts v <;> rfl

/-- A document whose setting sections are tables gives its first refusal or its settings. -/
theorem Settings.ofDocument_of_tables {home path : String} {doc : TomlTable}
    (h : ∀ name ∈ settingSections, ¬NotATable doc name) :
    Settings.ofDocument home path doc =
      match firstRefusal doc with
      | some e => .error e
      | none => (mergedSettings home path doc []
          ((fileInteger doc "vcs" "port").getD (Settings.defaults home).vcsPort) ·) <$>
        fileTimeout doc (Settings.defaults home).vcsTimeout := by
  have hdb := h "database" (by decide)
  have hsearch := h "search" (by decide)
  have hdisplay := h "display" (by decide)
  have hvcs := h "vcs" (by decide)
  unfold Settings.ofDocument
  rw [readSetting_bind .notUrl
    (fun s => { s with databaseUrl := (fileText doc "database" "url").getD s.databaseUrl }) hdb
    (fun v hv => by cases v <;> simp [SettingFault.accepts, fileText, hv])
    (fun hv => by simp [fileText, hv])]
  cases h1 : refusal doc "database" "url" .notUrl with
  | some e => simp [firstRefusal, settingKeys, h1]
  | none =>
  dsimp only
  rw [readSetting_bind .notInteger (fun s => { s with
      packagesMaxPageSize := (fileInteger doc "search" "packages_max_page_size").getD
        s.packagesMaxPageSize }) hsearch
    (fun v hv => by cases v <;> simp [SettingFault.accepts, fileInteger, hv])
    (fun hv => by simp [fileInteger, hv])]
  cases h2 : refusal doc "search" "packages_max_page_size" .notInteger with
  | some e => simp [firstRefusal, settingKeys, h1, h2]
  | none =>
  dsimp only
  rw [readSetting_bind .notInteger (fun s => { s with
      usersMaxPageSize := (fileInteger doc "search" "users_max_page_size").getD
        s.usersMaxPageSize }) hsearch
    (fun v hv => by cases v <;> simp [SettingFault.accepts, fileInteger, hv])
    (fun hv => by simp [fileInteger, hv])]
  cases h3 : refusal doc "search" "users_max_page_size" .notInteger with
  | some e => simp [firstRefusal, settingKeys, h1, h2, h3]
  | none =>
  dsimp only
  rw [readSetting_bind .notBoolean (fun s => { s with
      coloredOutput := (fileBoolean doc "display" "colored_output").getD s.coloredOutput })
    hdisplay
    (fun v hv => by cases v <;> simp [SettingFault.accepts, fileBoolean, hv])
    (fun hv => by simp [fileBoolean, hv])]
  cases h4 : refusal doc "display" "colored_output" .notBoolean with
  | some e => simp [firstRefusal, settingKeys, h1, h2, h3, h4]
  | none =>
  dsimp only
  rw [readSetting_bind .notText
    (fun s => { s with vcsHost := (fileText doc "vcs" "host").getD s.vcsHost }) hvcs
    (fun v hv => by cases v <;> simp [SettingFault.accepts, fileText, hv])
    (fun hv => by simp [fileText, hv])]
  cases h5 : refusal doc "vcs" "host" .notText with
  | some e => simp [firstRefusal, settingKeys, h1, h2, h3, h4, h5]
  | none =>
  dsimp only
  rw [readSetting_bind .notInteger
    (fun s => { s with vcsPort := (fileInteger doc "vcs" "port").getD s.vcsPort }) hvcs
    (fun v hv => by cases v <;> simp [SettingFault.accepts, fileInteger, hv])
    (fun hv => by simp [fileInteger, hv])]
  cases h6 : refusal doc "vcs" "port" .notInteger with
  | some e => simp [firstRefusal, settingKeys, h1, h2, h3, h4, h5, h6]
  | none =>
  dsimp only
  rw [readSetting_bind .notTextOrNull
    (fun s => { s with vcsAuthKey := (fileText doc "vcs" "auth_key").or s.vcsAuthKey }) hvcs
    (fun v hv => by cases v <;> simp [SettingFault.accepts, fileText, hv])
    (fun hv => by simp [fileText, hv])]
  cases h7 : refusal doc "vcs" "auth_key" .notTextOrNull with
  | some e => simp [firstRefusal, settingKeys, h1, h2, h3, h4, h5, h6, h7]
  | none =>
  dsimp only
  rw [readSetting_of_table hvcs]
  have hrefusal : firstRefusal doc = refusal doc "vcs" "timeout" .notNumber := by
    simp [firstRefusal, settingKeys, h1, h2, h3, h4, h5, h6, h7]
  rw [hrefusal, refusal]
  cases h8 : fileValue doc "vcs" "timeout" with
  | none => simp [fileTimeout, h8, mergedSettings, setVariable]
  | some v =>
    cases v with
    | integer n =>
      cases hf : floatOfInteger n <;>
        simp [fileTimeout, h8, SettingFault.accepts, hf, mergedSettings, setVariable, bind,
          Except.bind]
    | float x => simp [fileTimeout, h8, SettingFault.accepts, mergedSettings, setVariable]
    | _ => simp [SettingFault.accepts]

/-! ## The environment -/

/-- The environment applied to a file's settings gives the settings merged from both. -/
theorem Settings.applyEnv_mergedSettings {home path : String} {doc : TomlTable}
    {env : List (String × String)} {timeout : Seconds} (fallback : Int) :
    (mergedSettings home path doc [] ((fileInteger doc "vcs" "port").getD fallback)
        timeout).applyEnv env =
      (mergedSettings home path doc env · timeout) <$> mergedPort env doc fallback := by
  have hnone : ∀ name, setVariable [] name = none := fun _ => rfl
  unfold Settings.applyEnv mergedPort mergedSettings
  simp only [hnone, Option.getD_none, Option.none_or]
  -- the port is the one override that can fail
  cases setVariable env vcsPortVariable with
  | none =>
    cases setVariable env databaseUrlVariable <;> cases setVariable env vcsHostVariable <;>
      cases setVariable env vcsAuthKeyVariable <;> simp [bind, Except.bind]
  | some v =>
    cases hread : readInteger v <;> cases setVariable env databaseUrlVariable <;>
      cases setVariable env vcsHostVariable <;> cases setVariable env vcsAuthKeyVariable <;>
      simp [hread, bind, Except.bind, Functor.map, Except.map]

/-! ## Loading -/

/-- Loading a settings file whose sections are tables or absent is the merge of
`loadedSettings`: the first value of the wrong type (in the order of `settingKeys`) is refused
before the environment is read; else settings merge and the checks run on the result. -/
theorem loadSettings_of_tables {depth : Nat} {ws : Workspace} {given : Option String}
    {env : List (String × String)} {p : PathName} {text : String} {doc : TomlTable}
    (hfile : SettingsFile ws given p text) (hdoc : readDocument (depth + 2) text = .ok doc)
    (htables : ∀ name ∈ settingSections, ¬NotATable doc name) :
    loadSettings depth ws given env = loadedSettings ws p.text doc env := by
  obtain ⟨hp, hlong, hentry⟩ := hfile
  -- the file is read, then the environment applied, then the checks run
  have hsteps : loadSettings depth ws given env = (do
      let s₀ ← Settings.ofDocument ws.home p.text doc
      let s ← s₀.applyEnv env
      let more ← s.validate ws
      pure (s, more)) := by
    simp [loadSettings, hp, hlong, hentry, hdoc, bind, Except.bind, pure, Except.pure]
  rw [hsteps, Settings.ofDocument_of_tables htables, loadedSettings]
  cases firstRefusal doc with
  | some e => rfl
  | none =>
    cases fileTimeout doc (Settings.defaults ws.home).vcsTimeout with
    | error e => rfl
    | ok timeout =>
      simp only [Functor.map, Except.map, bind, Except.bind]
      rw [Settings.applyEnv_mergedSettings]
      cases mergedPort env doc (Settings.defaults ws.home).vcsPort <;> rfl

/-- A settings file that sets only the VCS port. -/
theorem loadSettings_of_tables_port :
    SettingsFile { home := "/h", cwd := "/", files := [("/c", "[vcs]\nport = 1\n")] } (some "/c")
        ⟨"/", ["c"]⟩ "[vcs]\nport = 1\n" ∧
      readDocument (5 + 2) "[vcs]\nport = 1\n" = .ok [("vcs", .table [("port", .integer 1)])] ∧
      (∀ name ∈ settingSections, ¬NotATable [("vcs", .table [("port", .integer 1)])] name) ∧
      loadSettings 5 { home := "/h", cwd := "/", files := [("/c", "[vcs]\nport = 1\n")] }
          (some "/c") [] =
        loadedSettings { home := "/h", cwd := "/", files := [("/c", "[vcs]\nport = 1\n")] }
          (PathName.text ⟨"/", ["c"]⟩) [("vcs", .table [("port", .integer 1)])] [] := by
  have hfile : SettingsFile { home := "/h", cwd := "/", files := [("/c", "[vcs]\nport = 1\n")] }
      (some "/c") ⟨"/", ["c"]⟩ "[vcs]\nport = 1\n" := ⟨by cbv, by cbv, by cbv⟩
  have hdoc : readDocument (5 + 2) "[vcs]\nport = 1\n" =
      .ok [("vcs", .table [("port", .integer 1)])] := by cbv
  have htables : ∀ name ∈ settingSections,
      ¬NotATable [("vcs", .table [("port", .integer 1)])] name := by
    rintro name hname ⟨v, hv, hnot⟩
    simp only [settingSections, List.mem_cons, List.not_mem_nil, or_false] at hname
    rcases hname with rfl | rfl | rfl | rfl
    · cases hv
    · cases hv
    · cases hv
    · exact hnot _ (Option.some.inj hv).symm
  exact ⟨hfile, hdoc, htables, loadSettings_of_tables hfile hdoc htables⟩

example : firstRefusal [("vcs", .table [("port", .string "80")]),
    ("search", .table [("users_max_page_size", .boolean true)])] =
    some (.invalid "search.users_max_page_size" .notInteger) := by rfl

end PackageRegistry.Config
