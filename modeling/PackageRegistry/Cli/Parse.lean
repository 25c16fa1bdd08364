import PackageRegistry.Cli.Spec
import PackageRegistry.Files.Path
import PackageRegistry.Text.Quoted
import PackageRegistry.Text.CaseMap
import PackageRegistry.Text.Similarity
/-!
# Reading a command line

Words are read against the command's specification: options left to right (`--` ends them),
long with optional `=value` or short and grouped, then positional arguments in order. Checks
run after, help and version first, the first failure reported.
-/

namespace PackageRegistry.Cli

open PackageRegistry.Text PackageRegistry.Files

/-! ## Failures -/

/-- Why a command line is refused. -/
inductive UsageFault where
  | noSuchOption (name : String) (suggestions : List String)
  | requiresArgument (name : String)
  | takesNoValue (name : String)
  | invalidChoice (hint value : String) (choices : List String)
  | unreadableFile (hint path : String) (fault : OpenFault)
  | missingOption (hint : String)
  | missingArgument (hint : String)
  | extraArguments (words : List String)
  | noSuchCommand (name : String) (suggestions : List String)
  | missingCommand
  deriving Repr, BEq

/-- The suggestions after an unknown name: none, one, or several in sorted order. -/
def suggestionText (suggestions : List String) : String :=
  match suggestions.mergeSort (· ≤ ·) with
  | [] => ""
  | [one] => " Did you mean " ++ quoted one ++ "?"
  | sorted => " (Did you mean one of: " ++ ", ".intercalate (sorted.map quoted) ++ "?)"

/-- The text of a refusal. -/
def UsageFault.message : UsageFault → String
  | .noSuchOption name suggestions =>
    "No such option " ++ quoted name ++ "." ++ suggestionText suggestions
  | .requiresArgument name => "Option " ++ quoted name ++ " requires an argument."
  | .takesNoValue name => "Option " ++ quoted name ++ " does not take a value."
  | .invalidChoice hint value choices =>
    "Invalid value for " ++ hint ++ ": " ++ quoted value ++
      (match choices with
       | [one] => " is not " ++ quoted one ++ "."
       | _ => " is not one of " ++ ", ".intercalate (choices.map quoted) ++ ".")
  | .unreadableFile hint path fault =>
    "Invalid value for " ++ hint ++ ": '" ++ path ++ "': " ++ fault.reason
  | .missingOption hint => "Missing option " ++ hint ++ "."
  | .missingArgument hint => "Missing argument " ++ hint ++ "."
  | .extraArguments [one] => "Got unexpected extra argument (" ++ one ++ ")"
  | .extraArguments words => "Got unexpected extra arguments (" ++ " ".intercalate words ++ ")"
  | .noSuchCommand name suggestions =>
    "No such command " ++ quoted name ++ "." ++ suggestionText suggestions
  | .missingCommand => "Missing command."

/-- Whether a refusal shows under the usage line: all but those about an option's value as
written. -/
def UsageFault.showsUsage : UsageFault → Bool
  | .requiresArgument _ | .takesNoValue _ => false
  | _ => true

/-- What stops reading a command line short of its values. -/
inductive ReadStop where
  | usage (fault : UsageFault)
  /-- The help option came up. -/
  | help
  /-- The version option came up. -/
  | version
  deriving Repr, BEq

/-! ## Options -/

/-- A value as given on the command line. -/
inductive Given where
  | word (text : String)
  | set (on : Bool)
  deriving Repr, BEq

/-- The state of reading options: words left, positional words found, values given (latest
first) and the options in the order given. -/
structure OptionState where
  pending : List String
  positional : List String := []
  given : List (String × Given) := []
  order : List String := []
  deriving Repr

def OptionState.record (st : OptionState) (dest : String) (g : Given) : OptionState :=
  { st with given := (dest, g) :: st.given, order := st.order ++ [dest] }

/-- Whether a name is long: it starts with two equal non-alphanumeric characters. -/
def isLongName (name : String) : Bool :=
  match name.toList with
  | a :: b :: _ => !a.isAlphanum && a = b
  | _ => false

/-- The option a name belongs to, and whether the name turns it off. -/
def CommandSpec.optionNamed? (c : CommandSpec) (name : String) : Option (OptionSpec × Bool) :=
  match c.allOptions.find? (·.names.contains name) with
  | some o => some (o, false)
  | none => (c.allOptions.find? (·.offNames.contains name)).map (·, true)

def CommandSpec.longNames (c : CommandSpec) : List String :=
  (c.allOptions.flatMap fun o => o.names ++ o.offNames).filter isLongName

/-- Gives an option found by name its value: the next word when it takes one, else on or
off. -/
def takeValue (st : OptionState) (o : OptionSpec) (off : Bool) (name : String) :
    Except UsageFault OptionState :=
  if o.takesValue then
    match st.pending with
    | v :: rest => .ok ({ st with pending := rest }.record o.dest (.word v))
    | [] => .error (.requiresArgument name)
  else .ok (st.record o.dest (.set !off))

/-- Reads the characters of a word of short options, `pfx` being its first character. -/
def readShort (c : CommandSpec) (pfx : Char) : List Char → OptionState →
    Except UsageFault OptionState
  | [], st => .ok st
  | ch :: more, st =>
    let name := String.ofList [pfx, ch]
    match c.optionNamed? name with
    | none => .error (.noSuchOption name [])
    | some (o, off) =>
      if o.takesValue then
        let st := if more.isEmpty then st else { st with pending := String.ofList more :: st.pending }
        takeValue st o off name
      else readShort c pfx more (st.record o.dest (.set !off))

def readOptionWord (c : CommandSpec) (st : OptionState) (word : String) :
    Except UsageFault OptionState :=
  let cs := word.toList
  let (name, explicit) :=
    if cs.contains '=' then
      (String.ofList (cs.takeWhile (· ≠ '=')), some (String.ofList ((cs.dropWhile (· ≠ '=')).drop 1)))
    else (word, none)
  match (c.optionNamed? name).filter (fun _ => isLongName name) with
  | some (o, off) =>
    if o.takesValue then
      let st := match explicit with
        | some v => { st with pending := v :: st.pending }
        | none => st
      takeValue st o off name
    else if explicit.isSome then .error (.takesNoValue name)
    else .ok (st.record o.dest (.set !off))
  | none =>
    if word.startsWith "--" then .error (.noSuchOption name (closeMatches name c.longNames))
    else
      match cs with
      | pfx :: rest => readShort c pfx rest st
      | [] => .ok st

/-- Reads options until the words run out, `--` comes, or (for a group) a positional word. -/
def readOptions (c : CommandSpec) (interspersed : Bool) : Nat → OptionState →
    Except UsageFault OptionState
  | 0, st => .ok st
  | fuel + 1, st =>
    match st.pending with
    | [] => .ok st
    | word :: rest =>
      if word == "--" then .ok { st with pending := rest }
      else if word.startsWith "-" && word.length > 1 then do
        let st ← readOptionWord c { st with pending := rest } word
        readOptions c interspersed fuel st
      else if interspersed then
        readOptions c interspersed fuel { st with pending := rest, positional := st.positional ++ [word] }
      else .ok st

/-! ## Values -/

/-- The value of a parameter after reading. -/
inductive ParamValue where
  | none
  | text (s : String)
  | flag (on : Bool)
  | texts (items : List String)
  | file (contents : String)
  deriving Repr, BEq

/-- How a parameter is named in a refusal: its names quoted and joined by ` / `. -/
def OptionSpec.hint (o : OptionSpec) : String :=
  " / ".intercalate (o.names.map fun n => "'" ++ n ++ "'")

/-- How an argument is named in a refusal. -/
def ArgumentSpec.hint (a : ArgumentSpec) : String := "'" ++ a.metavar ++ "'"

/-- Reads the text of a value of some kind. -/
def convertValue (ws : Workspace) (kind : ValueKind) (hint text : String) :
    Except UsageFault ParamValue :=
  match kind with
  | .text | .path => .ok (.text text)
  | .choice choices ignoreCase =>
    let norm := fun (s : String) => if ignoreCase then caseFold s else s
    match choices.find? (fun ch => norm ch == norm text) with
    | some ch => .ok (.text ch)
    | none => .error (.invalidChoice hint text (choices.map norm))
  | .inputFile =>
    if text == "-" then .ok (.file "")
    else
      match ws.readFile text with
      | .ok contents => .ok (.file contents)
      | .error fault => .error (.unreadableFile hint text fault)

/-- A parameter of a command. -/
inductive Param where
  | option (o : OptionSpec)
  | argument (a : ArgumentSpec)
  deriving Repr

/-- The name a parameter's value is kept under. -/
def Param.dest : Param → String
  | .option o => o.dest
  | .argument a => a.dest

/-- Whether a parameter is handled first. -/
def Param.isEager : Param → Bool
  | .option o => o.isEager
  | .argument _ => false

/-- The position of a parameter in the order of giving, after all when it was not given. -/
def givenRank (order : List String) (p : Param) : Nat :=
  match order.idxOf? p.dest with
  | some i => i
  | none => order.length

/-- The parameters of a command in the order they are checked. -/
def checkOrder (c : CommandSpec) (order : List String) : List Param :=
  let params := c.allOptions.map Param.option ++ c.arguments.map Param.argument
  params.mergeSort fun p q =>
    let kp := (if p.isEager then 0 else 1, givenRank order p)
    let kq := (if q.isEager then 0 else 1, givenRank order q)
    kp.1 < kq.1 || (kp.1 == kq.1 && kp.2 ≤ kq.2)

/-- Checks one parameter, given what was read for it. -/
def checkParam (ws : Workspace) (given : Option Given) (p : Param) :
    Except ReadStop ParamValue :=
  match p with
  | .option o =>
    match o.kind, given with
    | .value kind, some (.word text) => (convertValue ws kind o.hint text).mapError .usage
    | .value _, _ => if o.required then .error (.usage (.missingOption o.hint)) else .ok .none
    | .flag, some (.set on) => .ok (.flag on)
    | .flag, _ => .ok (.flag false)
    | .switch _, some (.set on) => .ok (.flag on)
    | .switch _, _ => .ok .none
    | .help, some (.set true) => .error .help
    | .version, some (.set true) => .error .version
    | _, _ => .ok .none
  | .argument a =>
    match given with
    | some (.word text) => (convertValue ws a.kind a.hint text).mapError .usage
    | _ =>
      if a.variadic then .ok .none
      else .error (.usage (.missingArgument a.hint))

/-- Checks parameters in order, collecting their values. -/
def checkParams (ws : Workspace) (given : List (String × Given)) (variadic : List String) :
    List Param → Except ReadStop (List (String × ParamValue))
  | [] => .ok []
  | p :: rest => do
    let v ← match p with
      | .argument a => if a.variadic then pure (.texts variadic) else checkParam ws (given.lookup p.dest) p
      | _ => checkParam ws (given.lookup p.dest) p
    let vs ← checkParams ws given variadic rest
    pure ((p.dest, v) :: vs)

/-! ## Reading -/

/-- What was read for a command: the values by name and, for a group, the words after its
options. -/
structure Reading where
  values : List (String × ParamValue)
  rest : List String
  deriving Repr

/-- The positional words given to single arguments, those left for a variadic one, and those
left over. -/
def fillArguments : List ArgumentSpec → List String →
    List (String × Given) × List String × List String
  | [], words => ([], [], words)
  | a :: more, words =>
    if a.variadic then ([], words, [])
    else
      match words with
      | w :: rest =>
        let (given, variadic, left) := fillArguments more rest
        ((a.dest, .word w) :: given, variadic, left)
      | [] =>
        let (given, variadic, left) := fillArguments more []
        (given, variadic, left)

/-- Reads the words given to a command (`isGroup` false) or to a group. -/
def readCommandLine (ws : Workspace) (c : CommandSpec) (isGroup : Bool) (words : List String) :
    Except ReadStop Reading := do
  let st ← (readOptions c (!isGroup) (words.length + 1) { pending := words }).mapError .usage
  if isGroup then
    let values ← checkParams ws st.given [] (checkOrder c st.order)
    pure ⟨values, st.positional ++ st.pending⟩
  else
    let (argGiven, variadic, left) := fillArguments c.arguments (st.positional ++ st.pending)
    let order := st.order ++ c.arguments.map (·.dest)
    let values ← checkParams ws (argGiven ++ st.given) variadic (checkOrder c order)
    if left.isEmpty then pure ⟨values, []⟩
    else throw (.usage (.extraArguments left))

/-! ## Values by name -/

/-- The text of a parameter, if it has one. -/
def Reading.text? (r : Reading) (dest : String) : Option String :=
  match r.values.lookup dest with
  | some (.text s) => some s
  | _ => none

def Reading.flag (r : Reading) (dest : String) : Bool :=
  r.values.lookup dest == some (.flag true)

/-- The words of a variadic argument. -/
def Reading.texts (r : Reading) (dest : String) : List String :=
  match r.values.lookup dest with
  | some (.texts items) => items
  | _ => []

/-- The contents of a file parameter. -/
def Reading.file? (r : Reading) (dest : String) : Option String :=
  match r.values.lookup dest with
  | some (.file contents) => some contents
  | _ => none

end PackageRegistry.Cli
