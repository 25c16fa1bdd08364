import PackageRegistry.Console.Markup
import PackageRegistry.Console.Table
import PackageRegistry.Markdown.Page
import PackageRegistry.Json.Write
import PackageRegistry.Store.Connect
import PackageRegistry.Store.Queries
import PackageRegistry.Vcs.Client
/-!
# Running a command

A command runs against a world (files, databases, environment, the VCS registry's answers) and
leaves a transcript of standard output, standard error and requests sent, whether it returns,
exits with a status or crashes.
-/

namespace PackageRegistry.Cli

open PackageRegistry.Console PackageRegistry.Store PackageRegistry.Files

/-! ## Worlds and transcripts -/

/-- What a command runs against. -/
structure World where
  storage : Storage
  env : List (String × String) := []
  /-- How the VCS registry answers any request. -/
  registryAnswer : Vcs.Outcome := .response 201 "" none

/-- The workspace of a world. -/
def World.workspace (w : World) : Workspace := w.storage.workspace

/-- Whether output is a terminal: `TTY_COMPATIBLE` `1`/`0` says; else a non-empty
`FORCE_COLOR` says yes. -/
def World.isTerminal (w : World) : Bool :=
  match w.env.lookup "TTY_COMPATIBLE" with
  | some "1" => true
  | some "0" => false
  | _ =>
    match w.env.lookup "FORCE_COLOR" with
    | some text => !text.isEmpty
    | none => false

/-- Whether output is a terminal that cannot place text: `TERM` is `dumb` or `unknown`, any
case. -/
def World.isDumbTerminal (w : World) : Bool :=
  let term := Text.toLower ((w.env.lookup "TERM").getD "")
  w.isTerminal && (term == "dumb" || term == "unknown")

/-- The width of the console in columns: 80 on a dumb terminal, else `COLUMNS` when it is a
decimal number, else 80. -/
def World.consoleWidth (w : World) : Nat :=
  if w.isDumbTerminal then 80
  else
    match w.env.lookup "COLUMNS" with
    | some text => if !text.isEmpty && text.all Char.isDigit then text.toNat?.getD 80 else 80
    | none => 80

/-- What a command leaves behind. -/
structure Transcript where
  stdout : String := ""
  stderr : String := ""
  requests : List Vcs.Request := []
  deriving Repr

/-- How a command stops early. -/
inductive Halt where
  /-- It exits with a status. -/
  | exit (code : Nat)
  /-- It crashes with an error of a class. -/
  | crash (errorClass message : String)
  deriving Repr, BEq

/-- A running command. -/
abbrev Run := EStateM Halt Transcript

def exitWith {α : Type} (code : Nat) : Run α := throw (.exit code)

def crash {α : Type} (errorClass message : String) : Run α := throw (.crash errorClass message)

/-! ## Output -/

/-- Text with terminal escape sequences `ESC [ digits ; ? letter` removed. -/
def stripEscapes : List Char → List Char
  | '\x1b' :: '[' :: rest =>
    let params := rest.takeWhile fun c => c.isDigit || c = ';' || c = '?'
    match h : rest.drop params.length with
    | c :: more =>
      if c.isAlpha then
        have : more.length < rest.length + 2 := by
          have hl := congrArg List.length h
          rw [List.length_drop, List.length_cons] at hl
          have hle : more.length + 1 ≤ rest.length := hl ▸ Nat.sub_le rest.length params.length
          exact Nat.lt_succ_of_lt (Nat.lt_succ_of_lt hle)
        stripEscapes more
      else '\x1b' :: stripEscapes ('[' :: rest)
    | [] => '\x1b' :: stripEscapes ('[' :: rest)
  | c :: rest => c :: stripEscapes rest
  | [] => []
termination_by cs => cs.length

/-- Writes raw text to standard output. -/
def writeOut (text : String) : Run Unit :=
  modify fun t => { t with stdout := t.stdout ++ text }

/-- Writes raw text to standard error. -/
def writeErr (text : String) : Run Unit :=
  modify fun t => { t with stderr := t.stderr ++ text }

/-- Writes a line to standard output, escape sequences removed. -/
def echo (line : String) : Run Unit :=
  writeOut (String.ofList (stripEscapes (line ++ "\n").toList))

/-- Writes a line to standard error, escape sequences removed. -/
def echoErr (line : String) : Run Unit :=
  writeErr (String.ofList (stripEscapes (line ++ "\n").toList))

/-- Renders markup as a line on standard error (`toErr`) or output, emoji codes replaced unless
`emoji` is off; rendering warnings go to standard error first. -/
def printMarkup (toErr : Bool) (markup : String) (emoji : Bool := true) : Run Unit := do
  let (warned, rendered) := renderMarkup markup emoji
  for w in warned do
    writeErr (w ++ "\n")
  match rendered with
  | .ok text => if toErr then writeErr (text ++ "\n") else writeOut (text ++ "\n")
  | .error e => crash e.kind e.message

/-- An information line. -/
def info (message : String) : Run Unit := printMarkup false ("[info]" ++ message ++ "[/info]")

def success (message : String) : Run Unit :=
  printMarkup false ("[success]" ++ message ++ "[/success]")

def warning (message : String) : Run Unit :=
  printMarkup true ("[warning]Warning:[/warning] " ++ message)

/-- An error line, with an optional hint below it. -/
def error (message : String) (hint : String := "") : Run Unit := do
  printMarkup true ("[error]Error:[/error] " ++ message)
  if !hint.isEmpty then printMarkup true ("  [info]Hint:[/info] " ++ hint)

/-- Draws a table on standard output, with styles when `colored`. -/
def printTable (t : Table) (colored : Bool := false) : Run Unit :=
  match t.render colored with
  | .ok text => writeOut text
  | .error e => crash e.kind e.message

/-- Writes a JSON document indented by two, with `ascii` escaping all outside printable ASCII. -/
def printJson (ascii : Bool) (j : Json) : Run Unit := writeOut (Json.pretty ascii 0 j ++ "\n")

/-- Writes source text as a code block `width` cells wide. -/
def printCode (width : Nat) (code : String) : Run Unit :=
  writeOut (String.join ((codeLines width code).map (· ++ "\n")))

/-- Records a request sent to the VCS registry. -/
def recordRequest (r : Vcs.Request) : Run Unit :=
  modify fun t => { t with requests := t.requests ++ [r] }

/-! ## Failures of commands -/

/-- How a command's operation failed. -/
inductive Failure where
  /-- Invalid input, something not found, or refused credentials: status 1. -/
  | invalid (message : String)
  /-- A database error: status 2. -/
  | database (message : String)
  /-- A VCS registry error: status 4. -/
  | vcs (message : String)
  /-- An error the command does not handle. -/
  | unexpected (errorClass message : String)
  deriving Repr, BEq

/-- Reports a failure and stops. -/
def fail {α : Type} : Failure → Run α
  | .invalid m => do error m; exitWith 1
  | .database m => do error m; exitWith 2
  | .vcs m => do error m; exitWith 4
  | .unexpected c m => crash c m

/-- Runs an operation that may fail. -/
def attempt {α ε : Type} (toFailure : ε → Failure) : Except ε α → Run α
  | .ok a => pure a
  | .error e => fail (toFailure e)

def databaseFailure : DatabaseFault → Failure
  | .unexpected c m => .unexpected c m
  | e => .database e.message

def readFailure : ReadError → Failure
  | .placeholderCount p n => .unexpected "ValueError" (ReadError.placeholderCount p n).message
  | .queryFailed .integerTooLarge => .unexpected "OverflowError" Sql.QueryError.integerTooLarge.message
  | .queryFailed e => .database (ReadError.queryFailed e).message
  | e => .invalid e.message

/-- The outcome of a finished run: exit status, output, crash and requests. -/
structure RunResult where
  exitCode : Nat
  stdout : String
  stderr : String
  crash : Option (String × String)
  requests : List Vcs.Request
  deriving Repr

/-- Runs a command from an empty transcript. -/
def Run.result (r : Run Unit) : RunResult :=
  match r.run {} with
  | .ok () t => ⟨0, t.stdout, t.stderr, none, t.requests⟩
  | .error (.exit code) t => ⟨code, t.stdout, t.stderr, none, t.requests⟩
  | .error (.crash c m) t => ⟨1, t.stdout, t.stderr, some (c, m), t.requests⟩

end PackageRegistry.Cli
