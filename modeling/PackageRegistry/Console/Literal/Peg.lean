import PackageRegistry.Console.Literal.Token
import PackageRegistry.Console.Literal.Tree
import Std.Data.HashMap
/-!
# The parsing machine for literal parameters

A packrat parser over the tokens, rule by rule as Python 3.11's expression grammar has them,
rules calling each other through a dispatcher (`Call`) on fuel bounding the call depth.
-/

namespace PackageRegistry.Console

/-- The rules of the expression grammar, the error rules among them. -/
inductive Rule where
  | evalInput | fieldInput
  | expressions | expression | expressionPlain | yieldExpr | starExpressions | starExpression
  | starNamedExpressions | starNamedExpression | assignmentExpression | namedExpression
  | disjunction | conjunction | inversion | comparison | bitwiseOr | bitwiseXor | bitwiseAnd
  | shiftExpr | sumExpr | termExpr | factor | power | awaitPrimary | primary | slices | sliceItem
  | atom | group | lambdef | lambdaParams | lambdaParameters | lambdaSlashNoDefault
  | lambdaSlashWithDefault | lambdaStarEtc | lambdaKwds | lambdaParamNoDefault
  | lambdaParamWithDefault | lambdaParamMaybeDefault | defaultValue | strings | listDisplay
  | tupleDisplay | setDisplay | dictDisplay | doubleStarredKvpairs | doubleStarredKvpair | kvpair
  | forIfClauses | forIfClause | listcomp | setcomp | genexp | dictcomp | arguments | args
  | kwargs | starredExpression | kwargOrStarred | kwargOrDoubleStarred | starTargets
  | starTargetsListSeq | starTargetsTupleSeq | starTarget | targetWithStarAtom | starAtom
  | tPrimary
  | invalidArguments | invalidKwarg | invalidLegacyExpression | invalidExpression
  | invalidNamedExpression | invalidComprehension | invalidDictComprehension | invalidDefault
  | invalidLambdaParameters | invalidLambdaParametersHelper | invalidLambdaStarEtc
  | invalidLambdaKwds | invalidForTarget | invalidGroup | invalidDoubleStarredKvpairs
  | invalidKvpair
  deriving Repr, BEq, Hashable, Inhabited

/-- The rules that remember their result at each position. -/
def Rule.memoized : Rule → Bool
  | .expression | .starExpression | .disjunction | .conjunction | .inversion | .factor
  | .awaitPrimary | .strings | .arguments | .starTarget | .targetWithStarAtom
  | .invalidNamedExpression | .bitwiseOr | .bitwiseXor | .bitwiseAnd | .shiftExpr | .sumExpr
  | .termExpr | .primary | .tPrimary => true
  | _ => false

/-- An argument of a call: positional (starred or not), or a keyword argument, with no name
for `**`. -/
inductive CallItem where
  | positional (value : Node)
  | keyword (name : Option String) (value : Node)
  deriving Repr

/-- What a rule parsed: an expression, a list of them, dictionary items, call arguments, or a
match alone. -/
inductive Parsed where
  | unit
  | expr (e : Node)
  | exprs (es : List Node)
  | pairs (ps : List (Option Node × Node))
  | items (is : List CallItem)
  deriving Repr

/-- The parser's input: tokens and the fault after them, whether a formatted field's
expression, and how one is parsed. -/
structure PegInput where
  tokens : Array LitToken
  fault : Option TokenFault
  field : Bool
  compile : String → Option String

/-- Where the parser stands: how many tokens it fetched, whether the error rules are on, and
the remembered results. -/
structure PegState where
  fill : Nat := 0
  invalid : Bool := false
  memo : Std.HashMap (Rule × Nat) (Option (Parsed × Nat)) := {}

/-- Why a parse ends at once: a token fault, a raised syntax error, or fuel run out. -/
inductive PegStop where
  | fault (message : String)
  | raise (message : String) (fill : Nat)
  | exhausted
  deriving Repr, BEq

/-- The effects of parsing: the input, the parser's state, and stops. -/
abbrev Peg := ReaderT PegInput (StateT PegState (Except PegStop))

/-- A parsing attempt, which may not match. -/
abbrev Try := OptionT Peg

/-- The rule dispatcher rules call each other through. -/
abbrev Call := Rule → Nat → Try (Parsed × Nat)

namespace Grammar

/-- A message as the parser reports it: inside a formatted string's field, prefixed to say so. -/
def fieldMessage (field : Bool) (message : String) : String :=
  if field then "f-string: " ++ message else message

/-- Raises a syntax error. -/
def raiseError {α : Type} (message : String) : Peg α := do
  let input ← read
  let st ← get
  throw (.raise (fieldMessage input.field message) st.fill)

/-- Raises a syntax error reported as it is, without a prefix: one another parse reported. -/
def raiseAsIs {α : Type} (message : String) : Peg α := do
  let st ← get
  throw (.raise message st.fill)

/-- Fetches the token at a position if it was not fetched yet, meeting the fault after the last
token there. -/
def touch (pos : Nat) : Peg Unit := do
  let input ← read
  let st ← get
  if pos < st.fill then pure ()
  else if pos < input.tokens.size then modify fun s => { s with fill := pos + 1 }
  else
    match input.fault with
    | some (.raised m) => throw (.fault m)
    | some (.silent m _) => throw (.fault (fieldMessage input.field m))
    | none => pure ()

/-- The token at a position, fetched. Past the end marker the end marker is read again. -/
def tokenAt (pos : Nat) : Peg LitToken := do
  touch pos
  let input ← read
  match input.tokens[pos]? with
  | some t => pure t
  | none => pure (input.tokens.back?.getD ⟨.endmarker, 0, 1⟩)

/-- The words the grammar keeps for itself; they are never names. -/
def reservedWords : List String :=
  ["False", "None", "True", "and", "as", "assert", "async", "await", "break", "class",
   "continue", "def", "del", "elif", "else", "except", "finally", "for", "from", "global", "if",
   "import", "in", "is", "lambda", "nonlocal", "not", "or", "pass", "raise", "return", "try",
   "while", "with", "yield"]

/-- The names that are keywords only at the start of a statement. -/
def softKeywords : List String := ["_", "case", "match"]

/-! ## Tokens -/

/-- The operator `s`. -/
def op (s : String) (pos : Nat) : Try Nat := do
  match (← tokenAt pos).kind with
  | .op o => if o == s then pure (pos + 1) else failure
  | _ => failure

/-- The keyword `w`. -/
def word (w : String) (pos : Nat) : Try Nat := do
  match (← tokenAt pos).kind with
  | .name n => if n == w then pure (pos + 1) else failure
  | _ => failure

/-- A name that is not a keyword. -/
def name (pos : Nat) : Try (String × Nat) := do
  match (← tokenAt pos).kind with
  | .name n => if reservedWords.contains n then failure else pure (n, pos + 1)
  | _ => failure

def softKeyword (pos : Nat) : Try Nat := do
  let (n, q) ← name pos
  if softKeywords.contains n then pure q else failure

def numberToken (pos : Nat) : Try (String × Nat) := do
  match (← tokenAt pos).kind with
  | .number t => pure (t, pos + 1)
  | _ => failure

def stringToken (pos : Nat) : Try (String × Nat) := do
  match (← tokenAt pos).kind with
  | .string t => pure (t, pos + 1)
  | _ => failure

/-- A line end. -/
def newlineToken (pos : Nat) : Try (Unit × Nat) := do
  match (← tokenAt pos).kind with
  | .newline => pure ((), pos + 1)
  | _ => failure

def endToken (pos : Nat) : Try Nat := do
  match (← tokenAt pos).kind with
  | .endmarker => pure (pos + 1)
  | _ => failure

/-- The number of brackets open after the token before a position, which was fetched. -/
def levelBefore (pos : Nat) : Peg Nat := do
  let input ← read
  pure ((input.tokens[pos - 1]?.map (·.level)).getD 0)

/-! ## Combinators -/

/-- An attempt only made when the error rules are on. -/
def invalidOnly {α : Type} (t : Try α) : Try α := do
  if (← get).invalid then t else failure

/-- Succeeds, consuming nothing, when the attempt matches. -/
def ahead {α : Type} (t : Try α) : Try Unit := do
  match ← (OptionT.lift t.run : Try (Option α)) with
  | some _ => pure ()
  | none => failure

/-- Succeeds, consuming nothing, when the attempt does not match. -/
def notAhead {α : Type} (t : Try α) : Try Unit := do
  match ← (OptionT.lift t.run : Try (Option α)) with
  | some _ => failure
  | none => pure ()

/-- Repeats a step while it matches, at most `fuel` times: the results and where they stop. -/
def repeatFrom {α : Type} (p : Nat → Try (α × Nat)) : Nat → Nat → Peg (List α × Nat)
  | 0, pos => pure ([], pos)
  | fuel + 1, pos => do
    match ← ((p pos).run : Peg (Option (α × Nat))) with
    | some (a, q) => do
      let (rest, r) ← repeatFrom p fuel q
      pure (a :: rest, r)
    | none => pure ([], pos)

/-- A step repeated as long as it matches, possibly never. -/
def many {α : Type} (p : Nat → Try (α × Nat)) (pos : Nat) : Peg (List α × Nat) := do
  let input ← read
  repeatFrom p (input.tokens.size + 1) pos

/-- A step repeated as long as it matches, at least once. -/
def many1 {α : Type} (p : Nat → Try (α × Nat)) (pos : Nat) : Try (List α × Nat) := do
  let (xs, q) ← many p pos
  if xs.isEmpty then failure else pure (xs, q)

def afterComma {α : Type} (p : Nat → Try (α × Nat)) (pos : Nat) : Try (α × Nat) := do
  let q ← op "," pos
  p q

/-- Steps separated by commas, at least one. -/
def gather {α : Type} (p : Nat → Try (α × Nat)) (pos : Nat) : Try (List α × Nat) := do
  let (a, q) ← p pos
  let (rest, r) ← many (afterComma p) q
  pure (a :: rest, r)

/-- An optional step. -/
def opt {α : Type} (p : Nat → Try (α × Nat)) (pos : Nat) : Peg (Option α × Nat) := do
  match ← ((p pos).run : Peg (Option (α × Nat))) with
  | some (a, q) => pure (some a, q)
  | none => pure (none, pos)

def optToken (p : Nat → Try Nat) (pos : Nat) : Peg Nat := do
  match ← ((p pos).run : Peg (Option Nat)) with
  | some q => pure q
  | none => pure pos

/-! ## Calling rules -/

/-- A rule that parses an expression. -/
def expr (call : Call) (r : Rule) (pos : Nat) : Try (Node × Nat) := do
  match ← call r pos with
  | (.expr e, q) => pure (e, q)
  | _ => failure

/-- A rule that parses a list of expressions. -/
def exprs (call : Call) (r : Rule) (pos : Nat) : Try (List Node × Nat) := do
  match ← call r pos with
  | (.exprs es, q) => pure (es, q)
  | _ => failure

/-- A rule that parses dictionary items. -/
def pairs (call : Call) (r : Rule) (pos : Nat) : Try (List (Option Node × Node) × Nat) := do
  match ← call r pos with
  | (.pairs ps, q) => pure (ps, q)
  | _ => failure

/-- A rule that parses call arguments. -/
def items (call : Call) (r : Rule) (pos : Nat) : Try (List CallItem × Nat) := do
  match ← call r pos with
  | (.items is, q) => pure (is, q)
  | _ => failure

/-- A rule whose match is all that counts: the position after it. -/
def matched (call : Call) (r : Rule) (pos : Nat) : Try Nat := do
  let (_, q) ← call r pos
  pure q

/-- A rule whose match is all that counts, as a step. -/
def unitOf (call : Call) (r : Rule) (pos : Nat) : Try (Unit × Nat) := do
  let (_, q) ← call r pos
  pure ((), q)

end Grammar

end PackageRegistry.Console
