import PackageRegistry.Cli.Commands
/-!
# Running a command line

A command line is read level by level: top options, entry name, a group's options and command,
then the command's words. Refused words print the usage and refusal (status 2). Settings load
once the entry is known; `--database` overrides the URL.
-/

namespace PackageRegistry.Cli

open PackageRegistry.Config PackageRegistry.Files PackageRegistry.Text

def usageLine (path pieces : String) : String :=
  let w : PageWriter := {}
  String.ofList ((w.usage path pieces).text.toList.reverse.dropWhile (· = '\n')).reverse

/-- Refuses a command line: usage, hint and refusal on standard error, status 2. -/
def usageFail {α : Type} (path pieces : String) (fault : UsageFault) : Run α := do
  if fault.showsUsage then
    echoErr (usageLine path pieces ++ "\nTry '" ++ path ++ " --help' for help.\n")
  echoErr ("Error: " ++ fault.message)
  exitWith 2

/-- Shows a help page on standard error because no words were given, status 2. -/
def helpForNothing {α : Type} (page : String) : Run α := do
  echoErr page
  exitWith 2

/-- Reads the words of a command or group, handling refusals, `--help` and `--version`. -/
def readWords (ws : Workspace) (path pieces : String) (spec : CommandSpec) (isGroup : Bool)
    (page : String) (words : List String) : Run Reading :=
  match readCommandLine ws spec isGroup words with
  | .ok r => pure r
  | .error (.usage fault) => usageFail path pieces fault
  | .error .help => do
    echo page
    exitWith 0
  | .error .version => do
    echo versionLine
    exitWith 0

/-- Whether a name looks like an option: it starts with a character that is not a letter or
digit. -/
def looksLikeOption (name : String) : Bool :=
  match name.toList with
  | c :: _ => !isAlphanumeric c
  | [] => false

/-- The level at which a command loads its settings, seven below a program's own call. -/
def commandSettingsDepth : Nat := settingsDepth + 7

/-- Loads the settings for the top group's values and prints the warnings. -/
def startSession (w : World) (top : Reading) : Run Session := do
  match loadSettings commandSettingsDepth w.workspace (top.text? "config") w.env with
  | .error e =>
    if e.isConfigError then do
      error e.message
      exitWith 1
    else crash e.errorClass e.message
  | .ok (settings, warnings) =>
    let settings := match top.text? "database_url" with
      | some url => { settings with databaseUrl := url }
      | none => settings
    if !top.flag "quiet" then
      for message in warnings do
        warning message
    let colorsOff := top.flag "no_color" || (w.env.lookup "NO_COLOR").isSome ||
      !settings.coloredOutput
    pure { world := w, settings, verbose := top.flag "verbose" || top.flag "debug",
           colored := !colorsOff }

/-- Runs an entry of the program with the words after its name. -/
def runEntry (s : Session) (entry : Entry) (words : List String) : Run Unit := do
  let ws := s.world.workspace
  match entry with
  | .command c =>
    let path := "cli " ++ c.name
    let r ← readWords ws path c.usagePieces c false (c.helpPage path) words
    runCommand s c.name r
  | .group g =>
    let path := "cli " ++ g.spec.name
    let page := g.helpPage path
    if words.isEmpty then helpForNothing page
    let r ← readWords ws path groupUsagePieces g.spec true page words
    match r.rest with
    | [] => usageFail path groupUsagePieces .missingCommand
    | name :: rest =>
      match g.command? name with
      | none =>
        if looksLikeOption name then helpForNothing page
        else
          let fault := UsageFault.noSuchCommand name (closeMatches name (g.commands.map (·.name)))
          usageFail path groupUsagePieces fault
      | some c =>
        let commandPath := path ++ " " ++ c.name
        let r ← readWords ws commandPath c.usagePieces c false (c.helpPage commandPath) rest
        runCommand s (g.spec.name ++ " " ++ c.name) r

def runCommandLine (w : World) (words : List String) : Run Unit := do
  let path := "cli"
  let page := program.helpPage path
  if words.isEmpty then helpForNothing page
  let top ← readWords w.workspace path groupUsagePieces program.spec true page words
  match top.rest with
  | [] => usageFail path groupUsagePieces .missingCommand
  | name :: rest =>
    match program.entry? name with
    | none =>
      if looksLikeOption name then helpForNothing page
      else
        let fault := UsageFault.noSuchCommand name (closeMatches name (program.entries.map (·.name)))
        usageFail path groupUsagePieces fault
    | some entry =>
      let s ← startSession w top
      runEntry s entry rest

/-- The result of running a command line against a world. -/
def runResult (w : World) (words : List String) : RunResult :=
  (runCommandLine w words).result

end PackageRegistry.Cli
