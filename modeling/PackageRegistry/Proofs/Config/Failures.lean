import Mathlib
import PackageRegistry.Config.Load
/-!
# How loading settings fails

Loading settings fails with a configuration error or with one of the escapes `LoadEscape`
lists, each with its cause (`loadSettings_outcomes`). Each step's failures are stated apart.
-/

namespace PackageRegistry.Config

open PackageRegistry.Toml PackageRegistry.Files PackageRegistry.Decimal

/-! ## Failing steps -/

/-- Two steps fail when the first does, or the second on the first's value. -/
theorem bind_eq_error {ε α β : Type} {x : Except ε α} {f : α → Except ε β} {e : ε}
    (h : (x >>= f) = .error e) : x = .error e ∨ ∃ a, x = .ok a ∧ f a = .error e := by
  cases x with
  | error e' => exact .inl (by cases h; rfl)
  | ok a => exact .inr ⟨a, rfl, h⟩

/-- The sections settings are read from. -/
def settingSections : List String := ["database", "search", "display", "vcs"]

/-- Whether a section of a document is there and is not a table. -/
def NotATable (doc : TomlTable) (name : String) : Prop :=
  ∃ v, doc.lookup name = some v ∧ ∀ members, v ≠ .table members

/-- A section is searched for a key only when it is a table, and refused only when it is not. -/
theorem sectionMember_eq_error {sec : Option TomlValue} {key : String} {e : ConfigError}
    (h : sectionMember sec key = .error e) :
    ∃ f, e = .section f ∧ ∃ v, sec = some v ∧ ∀ members, v ≠ .table members := by
  unfold sectionMember at h
  split at h
  · cases h
  · cases h
  · split at h
    · cases h
      exact ⟨_, rfl, _, rfl, fun _ => nofun⟩
    · cases h
  · split at h
    · cases h
      exact ⟨_, rfl, _, rfl, fun _ => nofun⟩
    · cases h
  · next v hnot _ _ =>
    cases h
    exact ⟨_, rfl, v, rfl, hnot⟩

/-- A member found in a section is its table's entry for the key. -/
theorem sectionMember_eq_some {sec : Option TomlValue} {key : String} {v : TomlValue}
    (h : sectionMember sec key = .ok (some v)) :
    ∃ members, sec = some (.table members) ∧ members.lookup key = some v := by
  unfold sectionMember at h
  split at h
  · cases h
  · exact ⟨_, rfl, Except.ok.inj h⟩
  · split at h <;> cases h
  · split at h <;> cases h
  · cases h

/-- A setting fails where its section cannot be searched, or where its value is refused. -/
theorem readSetting_eq_error {sec : Option TomlValue} {key : String} {s : Settings}
    {apply : TomlValue → Except ConfigError Settings} {e : ConfigError}
    (h : readSetting sec key s apply = .error e) :
    sectionMember sec key = .error e ∨
      ∃ v, sectionMember sec key = .ok (some v) ∧ apply v = .error e := by
  unfold readSetting at h
  rcases bind_eq_error h with hsec | ⟨found, hsec, happly⟩
  · exact .inl hsec
  · cases found with
    | none => cases happly
    | some v => exact .inr ⟨v, hsec, happly⟩

/-- A setting whose value is refused only as a configuration error fails so, or because its
section is there and no table. -/
theorem readSetting_refusal {doc : TomlTable} {name key : String} {s : Settings}
    {apply : TomlValue → Except ConfigError Settings}
    (happly : ∀ v e, apply v = .error e → e.isConfigError = true) {e : ConfigError}
    (h : readSetting (doc.lookup name) key s apply = .error e) :
    e.isConfigError = true ∨ ∃ f, e = .section f ∧ NotATable doc name := by
  rcases readSetting_eq_error h with hsec | ⟨v, -, hv⟩
  · obtain ⟨f, rfl, v, hv, hnot⟩ := sectionMember_eq_error hsec
    exact .inr ⟨f, rfl, v, hv, hnot⟩
  · exact .inl (happly v e hv)

/-! ## Reading a document -/

/-- The timeout of a document, when its `vcs` section is a table that has one. -/
def timeoutMember (doc : TomlTable) : Option TomlValue :=
  match doc.lookup "vcs" with
  | some (.table members) => members.lookup "timeout"
  | _ => none

/-- An integer has a float unless its nearest double is infinite. -/
theorem floatOfInteger_eq_error {n : Int} {e : ConfigError} (h : floatOfInteger n = .error e) :
    e = .timeoutTooLarge ∧ (nearestDouble (n < 0) n.natAbs 0).isInf = true := by
  unfold floatOfInteger at h
  dsimp only at h
  split at h
  · next hinf =>
    cases h
    exact ⟨rfl, hinf⟩
  · cases h

/-- A document's settings fail with a configuration error, a non-table section, or an integer
timeout infinite as a double. -/
theorem Settings.ofDocument_eq_error {home path : String} {doc : TomlTable} {e : ConfigError}
    (h : Settings.ofDocument home path doc = .error e) :
    e.isConfigError = true ∨
      (∃ f, e = .section f ∧ ∃ name ∈ settingSections, NotATable doc name) ∨
      e = .timeoutTooLarge ∧ ∃ n : Int, timeoutMember doc = some (.integer n) ∧
        (nearestDouble (n < 0) n.natAbs 0).isInf = true := by
  have hsection : ∀ {name}, name ∈ settingSections →
      (e.isConfigError = true ∨ ∃ f, e = .section f ∧ NotATable doc name) →
      e.isConfigError = true ∨
        (∃ f, e = .section f ∧ ∃ name ∈ settingSections, NotATable doc name) ∨
        e = .timeoutTooLarge ∧ ∃ n : Int, timeoutMember doc = some (.integer n) ∧
          (nearestDouble (n < 0) n.natAbs 0).isInf = true := by
    rintro name hname (hconfig | ⟨f, rfl, hnot⟩)
    · exact .inl hconfig
    · exact .inr (.inl ⟨f, rfl, name, hname, hnot⟩)
  unfold Settings.ofDocument at h
  -- the first seven settings are refused only as configuration errors
  rcases bind_eq_error h with h | ⟨s, -, h⟩
  · exact hsection (by decide)
      (readSetting_refusal (fun v e hv => by cases v <;> cases hv <;> rfl) h)
  rcases bind_eq_error h with h | ⟨s, -, h⟩
  · exact hsection (by decide)
      (readSetting_refusal (fun v e hv => by cases v <;> cases hv <;> rfl) h)
  rcases bind_eq_error h with h | ⟨s, -, h⟩
  · exact hsection (by decide)
      (readSetting_refusal (fun v e hv => by cases v <;> cases hv <;> rfl) h)
  rcases bind_eq_error h with h | ⟨s, -, h⟩
  · exact hsection (by decide)
      (readSetting_refusal (fun v e hv => by cases v <;> cases hv <;> rfl) h)
  rcases bind_eq_error h with h | ⟨s, -, h⟩
  · exact hsection (by decide)
      (readSetting_refusal (fun v e hv => by cases v <;> cases hv <;> rfl) h)
  rcases bind_eq_error h with h | ⟨s, -, h⟩
  · exact hsection (by decide)
      (readSetting_refusal (fun v e hv => by cases v <;> cases hv <;> rfl) h)
  rcases bind_eq_error h with h | ⟨s, -, h⟩
  · exact hsection (by decide)
      (readSetting_refusal (fun v e hv => by cases v <;> cases hv <;> rfl) h)
  -- the timeout: an integer is converted, and that can overflow
  rcases readSetting_eq_error h with hsec | ⟨v, hv, happly⟩
  · obtain ⟨f, rfl, v, hv, hnot⟩ := sectionMember_eq_error hsec
    exact .inr (.inl ⟨f, rfl, "vcs", by decide, v, hv, hnot⟩)
  · obtain ⟨members, hvcs, hmember⟩ := sectionMember_eq_some hv
    cases v with
    | integer n =>
      rcases bind_eq_error happly with hfloat | ⟨x, -, hx⟩
      · obtain ⟨rfl, hinf⟩ := floatOfInteger_eq_error hfloat
        exact .inr (.inr ⟨rfl, n, by simp [timeoutMember, hvcs, hmember], hinf⟩)
      · cases hx
    | float x => cases happly
    | _ => cases happly; exact .inl rfl

/-! ## The environment and the checks -/

/-- The environment is refused only for a port that is not an integer. -/
theorem Settings.applyEnv_eq_error {env : List (String × String)} {s : Settings} {e : ConfigError}
    (h : s.applyEnv env = .error e) : e.isConfigError = true := by
  unfold Settings.applyEnv at h
  cases hport : setVariable env vcsPortVariable with
  | none =>
    simp only [hport, bind, Except.bind] at h
    split at h <;> cases h
  | some v =>
    cases hread : Text.readInteger v with
    | error _ =>
      simp only [hport, hread, bind, Except.bind] at h
      cases h
      rfl
    | ok n =>
      simp only [hport, hread, bind, Except.bind] at h
      split at h <;> cases h

/-- A database path names the home of an unknown user when it fails. -/
theorem sqliteFile?_eq_error {ws : Workspace} {url : String} {e : ConfigError}
    (h : sqliteFile? ws url = .error e) : ∃ hm, e = .noHome hm := by
  unfold sqliteFile? at h
  split at h
  · dsimp only at h
    split at h
    · cases h
    · cases h
      exact ⟨_, rfl⟩
  · cases h

/-- The checks refuse a value as a configuration error, or fail on a SQLite path naming an
unknown user's home or too long. -/
theorem Settings.validate_eq_error {ws : Workspace} {s : Settings} {e : ConfigError}
    (h : s.validate ws = .error e) :
    e.isConfigError = true ∨
      (∃ hm, e = .noHome hm ∧ sqliteFile? ws s.databaseUrl = .error (.noHome hm)) ∨
      ∃ p, e = .nameTooLong p ∧ sqliteFile? ws s.databaseUrl = .ok (some p) ∧
        ws.refusesAsTooLong p = true := by
  unfold Settings.validate at h
  split at h
  · cases h
    exact .inl rfl
  split at h
  · cases h
    exact .inl rfl
  split at h
  · cases h
    exact .inl rfl
  rcases bind_eq_error h with hfile | ⟨file, hfile, h⟩
  · obtain ⟨hm, rfl⟩ := sqliteFile?_eq_error hfile
    exact .inr (.inl ⟨hm, rfl, hfile⟩)
  -- the warning about the database file fails only for a path too long
  cases file with
  | none => cases h
  | some q =>
    dsimp only at h
    split at h
    · next hlong =>
      cases h
      exact .inr (.inr ⟨q, rfl, hfile, hlong⟩)
    · split at h <;> cases h

/-! ## Loading -/

/-- The settings path fails only when it names the home of an unknown user. -/
theorem settingsPath_eq_error {ws : Workspace} {given : Option String} {e : ConfigError}
    (h : settingsPath ws given = .error e) : ∃ hm, e = .noHome hm := by
  unfold settingsPath at h
  split at h
  · cases h
  · cases h
    exact ⟨_, rfl⟩

/-- The settings file at a path the system looks up, and its text. -/
def SettingsFile (ws : Workspace) (given : Option String) (p : PathName) (text : String) : Prop :=
  settingsPath ws given = .ok p ∧ ws.refusesAsTooLong p = false ∧ ws.entryAt p = .file text

/-- What loading reads before its checks: the settings file's settings, or the defaults, with
the environment applied. -/
def ReadsSettings (depth : Nat) (ws : Workspace) (given : Option String)
    (env : List (String × String)) (s : Settings) : Prop :=
  ∃ p s₀, settingsPath ws given = .ok p ∧ ws.refusesAsTooLong p = false ∧
    (ws.entryAt p = .missing ∧ s₀ = Settings.defaults ws.home ∨
      ∃ text doc, ws.entryAt p = .file text ∧ readDocument (depth + 2) text = .ok doc ∧
        Settings.ofDocument ws.home p.text doc = .ok s₀) ∧
    s₀.applyEnv env = .ok s

/-- The failures of loading that are not configuration errors, each with its cause. -/
inductive LoadEscape (depth : Nat) (ws : Workspace) (given : Option String)
    (env : List (String × String)) : ConfigError → Prop
  /-- The file reads to a document with a section that is not a table (a `TypeError`). -/
  | section {p text doc name f} : SettingsFile ws given p text →
      readDocument (depth + 2) text = .ok doc → name ∈ settingSections →
      NotATable doc name → LoadEscape depth ws given env (.section f)
  /-- The file's timeout is an integer whose nearest double is infinite (an `OverflowError`). -/
  | timeout {p text doc n} : SettingsFile ws given p text →
      readDocument (depth + 2) text = .ok doc → timeoutMember doc = some (.integer n) →
      (nearestDouble (n < 0) n.natAbs 0).isInf = true →
      LoadEscape depth ws given env .timeoutTooLarge
  /-- The file has an integer of more digits than the reader converts (a `ValueError`). -/
  | integerTooLong {p text digits} : SettingsFile ws given p text →
      readDocument (depth + 2) text = .error (.integerTooLong digits) →
      LoadEscape depth ws given env (.integerTooLong digits)
  /-- The file nests values deeper than the reader goes (a `RecursionError`). -/
  | tooDeep {p text step} : SettingsFile ws given p text →
      readDocument (depth + 2) text = .error (.tooDeep step) →
      LoadEscape depth ws given env (.tooDeep step)
  /-- The settings path names the home of an unknown user (a `RuntimeError`). -/
  | settingsHome {hm} : settingsPath ws given = .error (.noHome hm) →
      LoadEscape depth ws given env (.noHome hm)
  /-- The settings path is too long for the system (an `OSError`). -/
  | settingsTooLong {p} : settingsPath ws given = .ok p → ws.refusesAsTooLong p = true →
      LoadEscape depth ws given env (.nameTooLong p)
  /-- The settings path is a directory (an `IsADirectoryError`). -/
  | directory {p} : settingsPath ws given = .ok p → ws.refusesAsTooLong p = false →
      ws.entryAt p = .directory → LoadEscape depth ws given env (.isDirectory p.text)
  /-- The SQLite database path of the settings read names the home of an unknown user. -/
  | databaseHome {s hm} : ReadsSettings depth ws given env s →
      sqliteFile? ws s.databaseUrl = .error (.noHome hm) →
      LoadEscape depth ws given env (.noHome hm)
  /-- The SQLite database path of the settings read is too long for the system. -/
  | databaseTooLong {s p} : ReadsSettings depth ws given env s →
      sqliteFile? ws s.databaseUrl = .ok (some p) → ws.refusesAsTooLong p = true →
      LoadEscape depth ws given env (.nameTooLong p)

/-- Loading settings fails with a configuration error or one of the escapes `LoadEscape` lists. -/
theorem loadSettings_eq_error {depth : Nat} {ws : Workspace} {given : Option String}
    {env : List (String × String)} {e : ConfigError}
    (h : loadSettings depth ws given env = .error e) :
    e.isConfigError = true ∨ LoadEscape depth ws given env e := by
  unfold loadSettings at h
  rcases bind_eq_error h with hpath | ⟨p, hp, h⟩
  · obtain ⟨hm, rfl⟩ := settingsPath_eq_error hpath
    exact .inr (.settingsHome hpath)
  dsimp only at h
  split at h
  · next hlong =>
    cases h
    exact .inr (.settingsTooLong hp hlong)
  next hlong =>
  simp only [Bool.not_eq_true] at hlong
  -- what follows the reading: the environment, then the checks
  have hrest : ∀ s₀ w, (ws.entryAt p = .missing ∧ s₀ = Settings.defaults ws.home ∨
      ∃ text doc, ws.entryAt p = .file text ∧ readDocument (depth + 2) text = .ok doc ∧
        Settings.ofDocument ws.home p.text doc = .ok s₀) →
      (do
        let s ← Settings.applyEnv env s₀
        let more ← Settings.validate ws s
        Except.ok (s, w ++ more)) = .error e →
      e.isConfigError = true ∨ LoadEscape depth ws given env e := by
    intro s₀ w hread h
    rcases bind_eq_error h with henv | ⟨s, hs, h⟩
    · exact .inl (Settings.applyEnv_eq_error henv)
    have hreads : ReadsSettings depth ws given env s := ⟨p, s₀, hp, hlong, hread, hs⟩
    rcases bind_eq_error h with hval | ⟨more, -, h⟩
    · rcases Settings.validate_eq_error hval with
        hc | ⟨hm, rfl, hfile⟩ | ⟨q, rfl, hfile, hq⟩
      · exact .inl hc
      · exact .inr (.databaseHome hreads hfile)
      · exact .inr (.databaseTooLong hreads hfile hq)
    · cases h
  split at h
  · next hentry => exact hrest _ _ (.inl ⟨hentry, rfl⟩) h
  · next hentry =>
    cases h
    exact .inr (.directory hp hlong hentry)
  · next text hentry =>
    have hfile : SettingsFile ws given p text := ⟨hp, hlong, hentry⟩
    split at h
    · next doc hdoc =>
      rcases bind_eq_error h with hs | ⟨s₀, hs₀, h⟩
      · rcases Settings.ofDocument_eq_error hs with hc | ⟨f, rfl, name, hname, hnot⟩ |
          ⟨rfl, n, hn, hinf⟩
        · exact .inl hc
        · exact .inr (.section hfile hdoc hname hnot)
        · exact .inr (.timeout hfile hdoc hn hinf)
      · exact hrest _ _ (.inr ⟨text, doc, hentry, hdoc, hs₀⟩) h
    · next digits hdoc =>
      cases h
      exact .inr (.integerTooLong hfile hdoc)
    · next step hdoc =>
      cases h
      exact .inr (.tooDeep hfile hdoc)
    · cases h
      exact .inl rfl

/-- Loading settings gives settings and warnings, or fails with a configuration error (the file
is not TOML, or a value is refused), or with one of the escapes of `LoadEscape`, each with its
cause. -/
theorem loadSettings_outcomes (depth : Nat) (ws : Workspace) (given : Option String)
    (env : List (String × String)) :
    (∃ loaded, loadSettings depth ws given env = .ok loaded) ∨
      ∃ e, loadSettings depth ws given env = .error e ∧
        (e.isConfigError = true ∨ LoadEscape depth ws given env e) := by
  cases h : loadSettings depth ws given env with
  | ok loaded => exact .inl ⟨loaded, rfl⟩
  | error e => exact .inr ⟨e, rfl, loadSettings_eq_error h⟩

end PackageRegistry.Config
