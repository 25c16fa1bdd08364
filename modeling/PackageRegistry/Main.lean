import PackageRegistry.Cli.Dispatch
/-!
# The `gopx` command line

Runs one command line on the machine: the files it can read are gathered first, accounts come
from the password file, and nothing is written back. With no network every VCS request fails to
connect. A crash prints its class and message with status 1.
-/

namespace PackageRegistry.Cli

/-- The environment variables a command line reads: those of the settings, `NO_COLOR` and
`COLUMNS`. -/
def readVariables : List String :=
  ["GOPX_DATABASE_URL", "GOPX_VCS_API_HOST", "GOPX_VCS_API_PORT", "GOPX_VCS_API_AUTH_KEY",
    "NO_COLOR", "COLUMNS"]

/-- The paths a command line may name: every word, and the text after the first `=` of a
word. -/
def namedPaths (words : List String) : List String :=
  words ++ words.filterMap fun w =>
    match w.splitOn "=" with
    | _ :: rest@(_ :: _) => some ("=".intercalate rest)
    | _ => none

/-- A path made absolute from the working directory. -/
def absolutePath (cwd path : String) : String :=
  if path.startsWith "/" then path else cwd ++ "/" ++ path

/-- The paths to gather for a command line: the default settings file, the default database and
the named paths. -/
def gatheredPaths (home cwd : String) (words : List String) : List String :=
  (Config.defaultConfigPath home :: (home ++ "/.local/share/gopx/registry.db") ::
    (namedPaths words).filter (!·.isEmpty)).map (absolutePath cwd) |>.eraseDups

end PackageRegistry.Cli

open PackageRegistry PackageRegistry.Cli PackageRegistry.Files

def readIfFile (path : String) : IO (Option String) := do
  try
    let bytes ← IO.FS.readBinFile path
    pure (some (Text.decodeUtf8Lenient bytes.toList))
  catch _ =>
    pure none

/-- Runs the command line and prints its output. -/
def main (args : List String) : IO UInt32 := do
  let home := (← IO.getEnv "HOME").getD "/"
  let cwd := (← IO.getEnv "PWD").getD home
  let mut files : List (String × String) := []
  for path in gatheredPaths home cwd args do
    if let some text ← readIfFile path then
      files := files ++ [(path, text)]
  let mut env : List (String × String) := []
  for name in readVariables do
    if let some value ← IO.getEnv name then
      env := env ++ [(name, value)]
  let accounts := accountsOfTable ((← readIfFile "/etc/passwd").getD "")
  let ws : Workspace := { home, cwd, files, accounts }
  let world : World :=
    { storage := { workspace := ws }, env, registryAnswer := .unreachable "no network access" }
  let result := runResult world args
  let stdout ← IO.getStdout
  let stderr ← IO.getStderr
  stdout.putStr result.stdout
  stderr.putStr result.stderr
  match result.crash with
  | some (errorClass, message) => stderr.putStrLn (errorClass ++ ": " ++ message)
  | none => pure ()
  stdout.flush
  stderr.flush
  pure (UInt32.ofNat result.exitCode)
