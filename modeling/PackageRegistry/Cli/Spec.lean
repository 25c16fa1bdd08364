/-!
# Command specifications

The command line as data, from which parser and help pages derive: options with names, action
and help; arguments; commands and groups of subcommands. Every command accepts `--help`.
-/

namespace PackageRegistry.Cli

/-! ## Parameters -/

/-- How the text of a value is read. -/
inductive ValueKind where
  /-- Any text. -/
  | text
  /-- One of a list of words, optionally ignoring case. -/
  | choice (choices : List String) (ignoreCase : Bool)
  /-- A file system path, taken as it is. -/
  | path
  /-- A file to read, opened when the command line is read. -/
  | inputFile
  deriving Repr, BEq, DecidableEq

/-- The placeholder of a value kind in help and usage lines. -/
def ValueKind.metavar : ValueKind → String
  | .text => "TEXT"
  | .choice choices _ => "[" ++ "|".intercalate choices ++ "]"
  | .path => "PATH"
  | .inputFile => "FILENAME"

/-- What giving an option does. -/
inductive OptionKind where
  /-- It takes the next word as its value. -/
  | value (kind : ValueKind)
  /-- It sets a flag. -/
  | flag
  /-- It turns a setting on; the names listed here turn it off. -/
  | switch (offNames : List String)
  /-- It shows the help page and stops. -/
  | help
  /-- It shows the version and stops. -/
  | version
  deriving Repr, BEq, DecidableEq

/-- An option. -/
structure OptionSpec where
  /-- The name its value is known by. -/
  dest : String
  /-- Its names in declaration order, such as `--sort` and `-s`. -/
  names : List String
  kind : OptionKind
  required : Bool := false
  help : String
  deriving Repr, BEq, DecidableEq

/-- Whether an option takes a value. -/
def OptionSpec.takesValue (o : OptionSpec) : Bool :=
  match o.kind with
  | .value _ => true
  | _ => false

/-- Whether an option is handled before all others: the help and the version. -/
def OptionSpec.isEager (o : OptionSpec) : Bool :=
  match o.kind with
  | .help | .version => true
  | _ => false

def OptionSpec.offNames (o : OptionSpec) : List String :=
  match o.kind with
  | .switch off => off
  | _ => []

/-- A positional argument. -/
structure ArgumentSpec where
  dest : String
  /-- Whether it takes all remaining words (and may take none). -/
  variadic : Bool := false
  kind : ValueKind := .text
  deriving Repr, BEq, DecidableEq

/-- Whether an argument must be given: one that takes a single word. -/
def ArgumentSpec.required (a : ArgumentSpec) : Bool := !a.variadic

/-- An argument's placeholder: its name in capitals, bracketed if optional, `...` if
repeated. -/
def ArgumentSpec.metavar (a : ArgumentSpec) : String :=
  let base := a.dest.toUpper
  let base := if a.required then base else "[" ++ base ++ "]"
  if a.variadic then base ++ "..." else base

/-! ## Commands -/

/-- A command or a group: its name, help text, options and positional arguments. -/
structure CommandSpec where
  name : String
  help : String
  options : List OptionSpec := []
  arguments : List ArgumentSpec := []
  deriving Repr, BEq

/-- The option every command has. -/
def helpOption : OptionSpec :=
  { dest := "help", names := ["--help"], kind := .help, help := "Show this message and exit." }

def CommandSpec.allOptions (c : CommandSpec) : List OptionSpec := c.options ++ [helpOption]

/-- A group of commands. -/
structure GroupSpec where
  spec : CommandSpec
  commands : List CommandSpec
  deriving Repr

/-- An entry of the program: a command or a group of commands. -/
inductive Entry where
  | command (c : CommandSpec)
  | group (g : GroupSpec)
  deriving Repr

def Entry.name : Entry → String
  | .command c => c.name
  | .group g => g.spec.name

/-- The specification of an entry itself. -/
def Entry.spec : Entry → CommandSpec
  | .command c => c
  | .group g => g.spec

/-- The program: the top group and its entries. -/
structure Program where
  spec : CommandSpec
  entries : List Entry
  deriving Repr

def Program.entry? (p : Program) (name : String) : Option Entry :=
  p.entries.find? (·.name == name)

def GroupSpec.command? (g : GroupSpec) (name : String) : Option CommandSpec :=
  g.commands.find? (·.name == name)

end PackageRegistry.Cli
