import PackageRegistry.Console.Literal.ErrorRules
/-!
# Parsing and evaluating literal parameters

A literal is parsed without the error rules, then, on no parse, with them, raising the precise
syntax error. Only constants, tuples, lists, sets, dictionaries, `set()`, signed numbers and
complex sums evaluate; set members and keys must be hashable.
-/

namespace PackageRegistry.Console

namespace Grammar

/-- `eval`: expressions, line ends, and the end marker. -/
def evalInput (call : Call) (pos : Nat) : Try (Parsed × Nat) := do
  let (e, q) ← expr call .expressions pos
  let (_, q) ← many newlineToken q
  let q ← endToken q
  pure (.expr e, q)

/-- One rule, by its name. -/
def step (call : Call) : Rule → Nat → Try (Parsed × Nat)
  | .evalInput => evalInput call
  | .fieldInput => starExpressions call
  | .expressions => expressions call
  | .expression => expression call
  | .expressionPlain => expressionPlain call
  | .yieldExpr => yieldExpr call
  | .starExpressions => starExpressions call
  | .starExpression => starExpression call
  | .starNamedExpressions => starNamedExpressions call
  | .starNamedExpression => starNamedExpression call
  | .assignmentExpression => assignmentExpression call
  | .namedExpression => namedExpression call
  | .disjunction => disjunction call
  | .conjunction => conjunction call
  | .inversion => inversion call
  | .comparison => comparison call
  | .bitwiseOr => bitwiseOr call
  | .bitwiseXor => bitwiseXor call
  | .bitwiseAnd => bitwiseAnd call
  | .shiftExpr => shiftExpr call
  | .sumExpr => sumExpr call
  | .termExpr => termExpr call
  | .factor => factor call
  | .power => power call
  | .awaitPrimary => awaitPrimary call
  | .primary => primary call
  | .slices => slices call
  | .sliceItem => sliceItem call
  | .atom => atom call
  | .group => group call
  | .lambdef => lambdef call
  | .lambdaParams => lambdaParams call
  | .lambdaParameters => lambdaParameters call
  | .lambdaSlashNoDefault => lambdaSlashNoDefault call
  | .lambdaSlashWithDefault => lambdaSlashWithDefault call
  | .lambdaStarEtc => lambdaStarEtc call
  | .lambdaKwds => lambdaKwds call
  | .lambdaParamNoDefault => lambdaParamNoDefault call
  | .lambdaParamWithDefault => lambdaParamWithDefault call
  | .lambdaParamMaybeDefault => lambdaParamMaybeDefault call
  | .defaultValue => defaultValue call
  | .strings => strings call
  | .listDisplay => listDisplay call
  | .tupleDisplay => tupleDisplay call
  | .setDisplay => setDisplay call
  | .dictDisplay => dictDisplay call
  | .doubleStarredKvpairs => doubleStarredKvpairs call
  | .doubleStarredKvpair => doubleStarredKvpair call
  | .kvpair => kvpair call
  | .forIfClauses => forIfClauses call
  | .forIfClause => forIfClause call
  | .listcomp => listcomp call
  | .setcomp => setcomp call
  | .genexp => genexp call
  | .dictcomp => dictcomp call
  | .arguments => arguments call
  | .args => args call
  | .kwargs => kwargs call
  | .starredExpression => starredExpression call
  | .kwargOrStarred => kwargOrStarred call
  | .kwargOrDoubleStarred => kwargOrDoubleStarred call
  | .starTargets => starTargets call
  | .starTargetsListSeq => starTargetsListSeq call
  | .starTargetsTupleSeq => starTargetsTupleSeq call
  | .starTarget => starTarget call
  | .targetWithStarAtom => targetWithStarAtom call
  | .starAtom => starAtom call
  | .tPrimary => tPrimary call
  | .invalidArguments => invalidArguments call
  | .invalidKwarg => invalidKwarg call
  | .invalidLegacyExpression => invalidLegacyExpression call
  | .invalidExpression => invalidExpression call
  | .invalidNamedExpression => invalidNamedExpression call
  | .invalidComprehension => invalidComprehension call
  | .invalidDictComprehension => invalidDictComprehension call
  | .invalidDefault => invalidDefault call
  | .invalidLambdaParameters => invalidLambdaParameters call
  | .invalidLambdaParametersHelper => invalidLambdaParametersHelper call
  | .invalidLambdaStarEtc => invalidLambdaStarEtc call
  | .invalidLambdaKwds => invalidLambdaKwds call
  | .invalidForTarget => invalidForTarget call
  | .invalidGroup => invalidGroup call
  | .invalidDoubleStarredKvpairs => invalidDoubleStarredKvpairs call
  | .invalidKvpair => invalidKvpair call

/-- Runs a rule at a position with `fuel` call depth left, giving a remembered result when there
is one. -/
def runRule : Nat → Rule → Nat → Peg (Option (Parsed × Nat))
  | 0, _, _ => throw .exhausted
  | fuel + 1, r, pos => do
    touch pos
    if r.memoized then
      match (← get).memo[(r, pos)]? with
      | some m => return m
      | none => pure ()
    let res ← (step (fun r' pos' => OptionT.mk (runRule fuel r' pos')) r pos).run
    if r.memoized then modify fun st => { st with memo := st.memo.insert (r, pos) res }
    pure res

/-- The depth of rule calls a parse of these tokens may need. -/
def depthFor (input : PegInput) : Nat := 64 * (input.tokens.size + 4)

/-- One pass of a start rule over the tokens, from a state. -/
def runPass (input : PegInput) (start : Rule) (st : PegState) :
    Except PegStop (Option (Parsed × Nat) × PegState) :=
  ((runRule (depthFor input) start 0).run input).run st

/-- A syntax error checked against the tokens after `fill`: a fault anywhere, or a bracket left
open from an earlier line, replaces it. -/
def checkRest (input : PegInput) (fill : Nat) (message : String) : String :=
  match input.fault with
  | some (.raised m) => m
  | some (.silent _ (some (b, line))) =>
    let current := (input.tokens[fill - 1]?.map (·.line)).getD 1
    if current > line then fieldMessage input.field ("'" ++ b.toString ++ "' was never closed")
    else message
  | _ => message

/-- The syntax error a stop reports. -/
def stopMessage (input : PegInput) : PegStop → String
  | .fault m => m
  | .raise m fill => checkRest input fill m
  | .exhausted => fieldMessage input.field "too many nested parentheses"

/-- Parses tokens from a start rule in two passes: the expression, or the syntax error. -/
def parseTokens (input : PegInput) (start : Rule) : Except String Node :=
  match runPass input start {} with
  | .error stop => .error (stopMessage input stop)
  | .ok (some (.expr e, _), _) => .ok e
  | .ok (_, first) =>
    let last := input.tokens[first.fill - 1]?
    match runPass input start { fill := first.fill, invalid := true } with
    | .error stop => .error (stopMessage input stop)
    | .ok (_, second) =>
      match last.map LitToken.kind with
      | some TokenKind.indent => .error (fieldMessage input.field "unexpected indent")
      | some TokenKind.dedent => .error (fieldMessage input.field "unexpected unindent")
      | _ => .error (checkRest input second.fill (fieldMessage input.field "invalid syntax"))

end Grammar

/-- Parses a literal's text (with `field`, a formatted string field's expression) to its
expression or syntax error; `depth` bounds nesting. -/
def parseLiteralText : Nat → Bool → String → Except String Node
  | 0, _, _ => .error "too many nested parentheses"
  | depth + 1, field, text =>
    let stream := tokenize text
    let input : PegInput :=
      { tokens := stream.tokens, fault := stream.fault, field,
        compile := fun source =>
          match parseLiteralText depth true (source ++ "\n") with
          | .ok _ => none
          | .error m => some m }
    Grammar.parseTokens input (if field then .fieldInput else .evalInput)

/-! ## Evaluation -/

/-- The shape of a literal's value: a constant of some kind, or a container of values. -/
inductive LiteralShape where
  | constant (kind : ConstKind)
  | tuple (items : List LiteralShape)
  | list (items : List LiteralShape)
  | set (items : List LiteralShape)
  | dict (entries : List (LiteralShape × LiteralShape))
  deriving Repr

/-- Why a parsed literal has no value: a non-literal part, or an unhashable value by type name. -/
inductive LiteralFault where
  | malformed (node : Option Node)
  | unhashable (typeName : String)
  deriving Repr

def LiteralFault.message : LiteralFault → String
  | .malformed none => "malformed node or string: None"
  | .malformed (some n) => "malformed node or string: <ast." ++ n.className ++ " object>"
  | .unhashable t => "unhashable type: '" ++ t ++ "'"

/-- The type of the first part of a value that cannot be hashed, if any. -/
def LiteralShape.unhashable : LiteralShape → Option String
  | .constant _ => none
  | .list _ => some "list"
  | .set _ => some "set"
  | .dict _ => some "dict"
  | .tuple items => firstUnhashable items
where
  /-- The first unhashable part among the items of a tuple. -/
  firstUnhashable : List LiteralShape → Option String
    | [] => none
    | v :: rest =>
      match v.unhashable with
      | some t => some t
      | none => firstUnhashable rest

/-- Refuses a value that cannot be hashed. -/
def hashable (v : LiteralShape) : Except LiteralFault Unit :=
  match v.unhashable with
  | some t => .error (.unhashable t)
  | none => .ok ()

def numberShape : Node → Except LiteralFault ConstKind
  | .constant k =>
    if k == .integer || k == .float || k == .imaginary then .ok k
    else .error (.malformed (some (.constant k)))
  | n => .error (.malformed (some n))

/-- A number constant, possibly after a sign. -/
def signedNumberShape : Node → Except LiteralFault ConstKind
  | .unary o operand => if o == "+" || o == "-" then numberShape operand else numberShape (.unary o operand)
  | n => numberShape n

/-- A parsed literal's value, evaluated in order, set members and keys hashed once
evaluated. -/
def literalShape : Nat → Node → Except LiteralFault LiteralShape
  | 0, _ => .error (.malformed none)
  | fuel + 1, n =>
    match n with
    | .constant k => .ok (.constant k)
    | .tuple items => .tuple <$> items.mapM (literalShape fuel)
    | .list items => .list <$> items.mapM (literalShape fuel)
    | .set items => .set <$> items.mapM fun m => do
        let v ← literalShape fuel m
        hashable v
        pure v
    | .call (.name "set") [] [] => .ok (.set [])
    | .dict keys values =>
      if keys.length != values.length then .error (.malformed (some n))
      else .dict <$> (keys.zip values).mapM fun
        | (some k, v) => do
          let kv ← literalShape fuel k
          let vv ← literalShape fuel v
          hashable kv
          pure (kv, vv)
        | (none, _) => .error (.malformed none)
    | .binary o left right =>
      if o == "+" || o == "-" then do
        let l ← signedNumberShape left
        let r ← numberShape right
        if (l == .integer || l == .float) && r == .imaginary then .ok (.constant .imaginary)
        else .constant <$> signedNumberShape n
      else .constant <$> signedNumberShape n
    | _ => .constant <$> signedNumberShape n

/-- Why literal text has no value: a syntax error, or a parsed expression that is not a literal. -/
inductive LiteralError where
  | unparsed (message : String)
  | value (fault : LiteralFault)
  deriving Repr

/-- The source of literal text: the text without the blanks and tabs at its start. -/
def literalSource (text : String) : String :=
  String.ofList (text.toList.dropWhile fun c => c == ' ' || c == '\t')

/-- Literal text's warnings, `<unknown>:LINE: SyntaxWarning: MESSAGE`: one per number directly
before a word, among tokens before any fault. -/
def literalWarnings (text : String) : List String :=
  (tokenize (literalSource text)).warnings.map fun (line, message) =>
    "<unknown>:" ++ toString line ++ ": SyntaxWarning: " ++ message

/-- The value of literal text: blanks and tabs at its start are skipped, then it is parsed and
evaluated. -/
def evalLiteral (text : String) : Except LiteralError LiteralShape :=
  let source := literalSource text
  match parseLiteralText (source.length + 1) false source with
  | .error m => .error (.unparsed m)
  | .ok e =>
    match literalShape (source.length + 2) e with
    | .ok v => .ok v
    | .error f => .error (.value f)

end PackageRegistry.Console
