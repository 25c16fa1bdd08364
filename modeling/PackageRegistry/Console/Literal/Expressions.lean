import PackageRegistry.Console.Literal.Peg
/-!
# Expression rules

From an expression list down to an atom, loosest first: conditionals and `lambda`, `or`, `and`,
`not`, comparisons, bit operators, shifts, arithmetic, unary operators, `**`, `await`, then
attributes, calls and subscripts.
-/

namespace PackageRegistry.Console

namespace Grammar

/-- A comma-separated list of one rule's expressions: a tuple when there is a comma. -/
def commaList (call : Call) (item : Rule) (pos : Nat) : Try (Parsed × Nat) := do
  let (a, q) ← expr call item pos
  let (more, q2) ← many (afterComma (expr call item)) q
  if !more.isEmpty then
    let q3 ← optToken (op ",") q2
    return (.expr (.tuple (a :: more)), q3)
  match ← (OptionT.lift (op "," q).run : Try (Option Nat)) with
  | some q1 => pure (.expr (.tuple [a]), q1)
  | none => pure (.expr a, q)

def expressions (call : Call) (pos : Nat) : Try (Parsed × Nat) := commaList call .expression pos

/-- `star_expressions`: starred expressions separated by commas. -/
def starExpressions (call : Call) (pos : Nat) : Try (Parsed × Nat) :=
  commaList call .starExpression pos

/-- A conditional expression `body if test else orelse`. -/
def conditional (call : Call) (pos : Nat) : Try (Parsed × Nat) := do
  let (a, q) ← expr call .disjunction pos
  let q ← word "if" q
  let (b, q) ← expr call .disjunction q
  let q ← word "else" q
  let (c, q) ← expr call .expression q
  pure (.expr (.ifExp b a c), q)

/-- `expression`: the error rules, a conditional expression, a disjunction, or a lambda. -/
def expression (call : Call) (pos : Nat) : Try (Parsed × Nat) :=
  invalidOnly (call .invalidExpression pos) <|>
  invalidOnly (call .invalidLegacyExpression pos) <|>
  conditional call pos <|>
  call .disjunction pos <|>
  call .lambdef pos

/-- `expression_without_invalid`: an expression parsed with the error rules off. -/
def expressionPlain (call : Call) (pos : Nat) : Try (Parsed × Nat) := do
  let saved := (← get).invalid
  modify fun st => { st with invalid := false }
  let r ← (OptionT.lift (conditional call pos <|> call .disjunction pos <|> call .lambdef pos).run :
    Try (Option (Parsed × Nat)))
  modify fun st => { st with invalid := saved }
  match r with
  | some x => pure x
  | none => failure

/-- `yield_expr`. -/
def yieldExpr (call : Call) (pos : Nat) : Try (Parsed × Nat) :=
  (do
    let q ← word "yield" pos
    let q ← word "from" q
    let (_, q) ← expr call .expression q
    pure (.expr .yield, q)) <|>
  (do
    let q ← word "yield" pos
    let (_, q) ← opt (expr call .starExpressions) q
    pure (.expr .yield, q))

def starredOperand (call : Call) (pos : Nat) : Try (Parsed × Nat) := do
  let q ← op "*" pos
  let (a, q) ← expr call .bitwiseOr q
  pure (.expr (.starred a), q)

/-- `star_expression`. -/
def starExpression (call : Call) (pos : Nat) : Try (Parsed × Nat) :=
  starredOperand call pos <|> call .expression pos

/-- `star_named_expressions`: starred or named expressions separated by commas. -/
def starNamedExpressions (call : Call) (pos : Nat) : Try (Parsed × Nat) := do
  let (es, q) ← gather (expr call .starNamedExpression) pos
  let q ← optToken (op ",") q
  pure (.exprs es, q)

/-- `star_named_expression`. -/
def starNamedExpression (call : Call) (pos : Nat) : Try (Parsed × Nat) :=
  starredOperand call pos <|> call .namedExpression pos

/-- `assignment_expression`: `name := value`. -/
def assignmentExpression (call : Call) (pos : Nat) : Try (Parsed × Nat) := do
  let (n, q) ← name pos
  let q ← op ":=" q
  let (b, q) ← expr call .expression q
  pure (.expr (.namedExpr (.name n) b), q)

/-- An expression not followed by `:=`. -/
def plainNotNamed (call : Call) (pos : Nat) : Try (Node × Nat) := do
  let (a, q) ← expr call .expression pos
  notAhead (op ":=" q)
  pure (a, q)

/-- `named_expression`. -/
def namedExpression (call : Call) (pos : Nat) : Try (Parsed × Nat) :=
  call .assignmentExpression pos <|>
  invalidOnly (call .invalidNamedExpression pos) <|>
  (do
    let (a, q) ← plainNotNamed call pos
    pure (.expr a, q))

/-- Operands joined by a keyword operator: a Boolean operation when there are two or more. -/
def joinedBy (call : Call) (keyword : String) (operand : Rule) (pos : Nat) :
    Try (Parsed × Nat) := do
  let (a, q) ← expr call operand pos
  let (more, q2) ← many (fun q => do
    let q ← word keyword q
    expr call operand q) q
  if more.isEmpty then pure (.expr a, q) else pure (.expr (.boolOp (a :: more)), q2)

def disjunction (call : Call) (pos : Nat) : Try (Parsed × Nat) :=
  joinedBy call "or" .conjunction pos

def conjunction (call : Call) (pos : Nat) : Try (Parsed × Nat) :=
  joinedBy call "and" .inversion pos

def inversion (call : Call) (pos : Nat) : Try (Parsed × Nat) :=
  (do
    let q ← word "not" pos
    let (a, q) ← expr call .inversion q
    pure (.expr (.unary "not" a), q)) <|>
  call .comparison pos

/-- One comparison operator and its right operand. -/
def comparePair (call : Call) (pos : Nat) : Try ((String × Node) × Nat) :=
  let rightOf (o : String) (q : Nat) : Try ((String × Node) × Nat) := do
    let (b, q) ← expr call .bitwiseOr q
    pure ((o, b), q)
  (do let q ← op "==" pos; rightOf "==" q) <|>
  (do let q ← op "!=" pos; rightOf "!=" q) <|>
  (do let q ← op "<=" pos; rightOf "<=" q) <|>
  (do let q ← op "<" pos; rightOf "<" q) <|>
  (do let q ← op ">=" pos; rightOf ">=" q) <|>
  (do let q ← op ">" pos; rightOf ">" q) <|>
  (do let q ← word "not" pos; let q ← word "in" q; rightOf "not in" q) <|>
  (do let q ← word "in" pos; rightOf "in" q) <|>
  (do let q ← word "is" pos; let q ← word "not" q; rightOf "is not" q) <|>
  (do let q ← word "is" pos; rightOf "is" q)

def comparison (call : Call) (pos : Nat) : Try (Parsed × Nat) := do
  let (a, q) ← expr call .bitwiseOr pos
  let (ps, q2) ← many (comparePair call) q
  if ps.isEmpty then pure (.expr a, q)
  else pure (.expr (.compare a (ps.map (·.1)) (ps.map (·.2))), q2)

/-- Extends an expression with `step` for as long as it matches, at most `fuel` times. -/
def extendFrom (step : Node → Nat → Try (Node × Nat)) : Nat → Node → Nat → Peg (Node × Nat)
  | 0, a, q => pure (a, q)
  | fuel + 1, a, q => do
    match ← ((step a q).run : Peg (Option (Node × Nat))) with
    | some (b, r) => extendFrom step fuel b r
    | none => pure (a, q)

/-- Extends an expression with `step` for as long as it matches. -/
def extend (step : Node → Nat → Try (Node × Nat)) (a : Node) (q : Nat) : Peg (Node × Nat) := do
  let input ← read
  extendFrom step (input.tokens.size + 1) a q

/-- One more binary operator, of those listed in order, and its right operand. -/
def binaryStep (call : Call) (operand : Rule) (ops : List String) (a : Node) (q : Nat) :
    Try (Node × Nat) :=
  ops.foldr (fun o rest =>
    (do
      let q ← op o q
      let (b, q) ← expr call operand q
      pure (Node.binary o a b, q)) <|> rest) failure

/-- A left-associated chain of binary operators over one rule's operands. -/
def leftChain (call : Call) (operand : Rule) (ops : List String) (pos : Nat) :
    Try (Parsed × Nat) := do
  let (a, q) ← expr call operand pos
  let (e, r) ← extend (binaryStep call operand ops) a q
  pure (.expr e, r)

/-- `bitwise_or`. -/
def bitwiseOr (call : Call) (pos : Nat) : Try (Parsed × Nat) := leftChain call .bitwiseXor ["|"] pos

/-- `bitwise_xor`. -/
def bitwiseXor (call : Call) (pos : Nat) : Try (Parsed × Nat) := leftChain call .bitwiseAnd ["^"] pos

/-- `bitwise_and`. -/
def bitwiseAnd (call : Call) (pos : Nat) : Try (Parsed × Nat) := leftChain call .shiftExpr ["&"] pos

/-- `shift_expr`. -/
def shiftExpr (call : Call) (pos : Nat) : Try (Parsed × Nat) :=
  leftChain call .sumExpr ["<<", ">>"] pos

def sumExpr (call : Call) (pos : Nat) : Try (Parsed × Nat) := leftChain call .termExpr ["+", "-"] pos

def termExpr (call : Call) (pos : Nat) : Try (Parsed × Nat) :=
  leftChain call .factor ["*", "/", "//", "%", "@"] pos

/-- `factor`: unary `+`, `-` and `~`, or a power. -/
def factor (call : Call) (pos : Nat) : Try (Parsed × Nat) :=
  let unaryOf (o : String) : Try (Parsed × Nat) := do
    let q ← op o pos
    let (a, q) ← expr call .factor q
    pure (.expr (.unary o a), q)
  unaryOf "+" <|> unaryOf "-" <|> unaryOf "~" <|> call .power pos

def power (call : Call) (pos : Nat) : Try (Parsed × Nat) := do
  let (a, q) ← expr call .awaitPrimary pos
  let exponent ← (OptionT.lift (do
      let q ← op "**" q
      expr call .factor q).run : Try (Option (Node × Nat)))
  match exponent with
  | some (b, q2) => pure (.expr (.binary "**" a b), q2)
  | none => pure (.expr a, q)

/-- `await_primary`. -/
def awaitPrimary (call : Call) (pos : Nat) : Try (Parsed × Nat) :=
  (do
    let q ← word "await" pos
    let (a, q) ← expr call .primary q
    pure (.expr (.await a), q)) <|>
  call .primary pos

/-- A call of `func` with the arguments a call's parentheses held, if any. -/
def callWith (func : Node) : Option Node → Node
  | some (.call _ positional keywords) => .call func positional keywords
  | _ => .call func [] []

/-- One more attribute, call or subscript after a primary. -/
def primaryStep (call : Call) (a : Node) (q : Nat) : Try (Node × Nat) :=
  (do
    let q ← op "." q
    let (n, q) ← name q
    pure (.attribute a n, q)) <|>
  (do
    let (g, q) ← expr call .genexp q
    pure (.call a [g] [], q)) <|>
  (do
    let q ← op "(" q
    let (b, q) ← opt (expr call .arguments) q
    let q ← op ")" q
    pure (callWith a b, q)) <|>
  (do
    let q ← op "[" q
    let (s, q) ← expr call .slices q
    let q ← op "]" q
    pure (.subscript a s, q))

/-- `primary`: an atom with attributes, calls and subscripts after it. -/
def primary (call : Call) (pos : Nat) : Try (Parsed × Nat) := do
  let (a, q) ← expr call .atom pos
  let (e, r) ← extend (primaryStep call) a q
  pure (.expr e, r)

/-- `slices`: one slice, or slices and starred expressions separated by commas. -/
def slices (call : Call) (pos : Nat) : Try (Parsed × Nat) :=
  (do
    let (a, q) ← expr call .sliceItem pos
    notAhead (op "," q)
    pure (.expr a, q)) <|>
  (do
    let (es, q) ← gather (fun q => expr call .sliceItem q <|> expr call .starredExpression q) pos
    let q ← optToken (op ",") q
    pure (.expr (.tuple es), q))

/-- `slice`: `lower:upper:step` with every part optional, or a named expression. -/
def sliceItem (call : Call) (pos : Nat) : Try (Parsed × Nat) :=
  (do
    let (_, q) ← opt (expr call .expression) pos
    let q ← op ":" q
    let (_, q) ← opt (expr call .expression) q
    let (_, q) ← opt (fun q => do
      let q ← op ":" q
      opt (expr call .expression) q) q
    pure (.expr .slice, q)) <|>
  call .namedExpression pos

/-- The most decimal digits an integer literal may have. -/
def maxLiteralDigits : Nat := 4300

/-- The kind of constant a number's text makes, refusing a decimal integer with too many
digits. -/
def numberKind (text : String) : Peg ConstKind := do
  let cs := text.toList
  let lower := cs.map Char.toLower
  if lower.getLast? == some 'j' then return .imaginary
  if lower.take 2 == ['0', 'x'] || lower.take 2 == ['0', 'o'] || lower.take 2 == ['0', 'b'] then
    return .integer
  if lower.any (fun c => c == '.' || c == 'e') then return .float
  let digits := (cs.filter isDigitChar).length
  if digits > maxLiteralDigits then
    raiseError ("Exceeds the limit (" ++ toString maxLiteralDigits ++
      " digits) for integer string conversion: value has " ++ toString digits ++
      " digits; use sys.set_int_max_str_digits() to increase the limit - Consider hexadecimal " ++
      "for huge integer literals to avoid decimal conversion limits.")
  return .integer

/-- `atom`: a name, a constant, strings, a number, a bracketed display, or `...`. -/
def atom (call : Call) (pos : Nat) : Try (Parsed × Nat) :=
  (do
    let (n, q) ← name pos
    pure (.expr (.name n), q)) <|>
  (do
    let q ← word "True" pos
    pure (.expr (.constant .true), q)) <|>
  (do
    let q ← word "False" pos
    pure (.expr (.constant .false), q)) <|>
  (do
    let q ← word "None" pos
    pure (.expr (.constant .none), q)) <|>
  (do
    let _ ← stringToken pos
    call .strings pos) <|>
  (do
    let (text, q) ← numberToken pos
    let k ← numberKind text
    pure (.expr (.constant k), q)) <|>
  (do
    let _ ← op "(" pos
    call .tupleDisplay pos <|> call .group pos <|> call .genexp pos) <|>
  (do
    let _ ← op "[" pos
    call .listDisplay pos <|> call .listcomp pos) <|>
  (do
    let _ ← op "\x7b" pos
    call .dictDisplay pos <|> call .setDisplay pos <|> call .dictcomp pos <|> call .setcomp pos) <|>
  (do
    let q ← op "..." pos
    pure (.expr (.constant .ellipsis), q))

/-- `group`: a parenthesized yield or named expression. -/
def group (call : Call) (pos : Nat) : Try (Parsed × Nat) :=
  (do
    let q ← op "(" pos
    let (a, q) ← expr call .yieldExpr q <|> expr call .namedExpression q
    let q ← op ")" q
    pure (.expr a, q)) <|>
  invalidOnly (call .invalidGroup pos)

def lambdef (call : Call) (pos : Nat) : Try (Parsed × Nat) := do
  let q ← word "lambda" pos
  let (_, q) ← opt (call .lambdaParams) q
  let q ← op ":" q
  let (b, q) ← expr call .expression q
  pure (.expr (.lambda b), q)

end Grammar

end PackageRegistry.Console
