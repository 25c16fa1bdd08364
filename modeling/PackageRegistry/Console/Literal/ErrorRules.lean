import PackageRegistry.Console.Literal.Displays
import PackageRegistry.Console.Literal.Lambdas
/-!
# Error rules

The rules of the second pass, tried after the first found no parse. Each recognizes a common
mistake and raises its syntax error, or fails and parsing goes on: a missing comma, an
unparenthesized generator among call arguments, a `for` target that cannot be assigned.
-/

namespace PackageRegistry.Console

namespace Grammar

/-- Whether an expression is the name `print` or `exec`, which once began statements. -/
def isLegacyName : Node → Bool
  | .name n => n == "print" || n == "exec"
  | _ => false

/-- The positional arguments of parsed call arguments. -/
def positionalCount : Node → Nat
  | .call _ positional _ => positional.length
  | _ => 0

/-- Whether parsed call arguments unpack a mapping with `**`. -/
def unpacksMapping : Node → Bool
  | .call _ _ keywords => keywords.any (·.1.isNone)
  | _ => false

/-- `invalid_arguments`. -/
def invalidArguments (call : Call) (pos : Nat) : Try (Parsed × Nat) :=
  (do
    let (_, q) ← expr call .args pos
    let q ← op "," q
    let _ ← op "*" q
    raiseError "iterable argument unpacking follows keyword argument unpacking") <|>
  (do
    let (_, q) ← expr call .expression pos
    let q ← matched call .forIfClauses q
    let q ← op "," q
    let _ ← opt (fun q => unitOf call .args q <|> (do
      let (_, q) ← expr call .expression q
      let q ← matched call .forIfClauses q
      pure ((), q))) q
    raiseError "Generator expression must be parenthesized") <|>
  (do
    let (_, q) ← name pos
    let q ← op "=" q
    let (_, q) ← expr call .expression q
    let _ ← matched call .forIfClauses q
    raiseError "invalid syntax. Maybe you meant '==' or ':=' instead of '='?") <|>
  (do
    let found ← (OptionT.lift (do
        let (a, q) ← expr call .args pos
        let _ ← matched call .forIfClauses q
        pure a).run : Try (Option Node))
    match found with
    | some a =>
      if positionalCount a ≤ 1 then failure
      else raiseError "Generator expression must be parenthesized"
    | none =>
      (do
        let (_, q) ← expr call .args pos
        let q ← op "," q
        let (_, q) ← expr call .expression q
        let _ ← matched call .forIfClauses q
        raiseError "Generator expression must be parenthesized") <|>
      (do
        let (a, q) ← expr call .args pos
        let q ← op "," q
        let _ ← expr call .args q
        raiseError (if unpacksMapping a then "positional argument follows keyword argument unpacking"
          else "positional argument follows keyword argument")))

/-- `invalid_kwarg`. -/
def invalidKwarg (call : Call) (pos : Nat) : Try (Parsed × Nat) :=
  (do
    let w ← match (← tokenAt pos).kind with
      | .name w => if w == "True" || w == "False" || w == "None" then pure w else failure
      | _ => failure
    let _ ← op "=" (pos + 1)
    raiseError ("cannot assign to " ++ w)) <|>
  (do
    let (_, q) ← name pos
    let q ← op "=" q
    let (_, q) ← expr call .expression q
    let _ ← matched call .forIfClauses q
    raiseError "invalid syntax. Maybe you meant '==' or ':=' instead of '='?") <|>
  (do
    notAhead (do
      let (_, q) ← name pos
      op "=" q)
    let (_, q) ← expr call .expression pos
    let _ ← op "=" q
    raiseError "expression cannot contain assignment, perhaps you meant \"==\"?")

/-- `invalid_legacy_expression`: `print x` or `exec x`. -/
def invalidLegacyExpression (call : Call) (pos : Nat) : Try (Parsed × Nat) := do
  let (n, q) ← name pos
  notAhead (op "(" q)
  let _ ← expr call .starExpressions q
  if n == "print" || n == "exec" then
    raiseError ("Missing parentheses in call to '" ++ n ++ "'. Did you mean " ++ n ++ "(...)?")
  else failure

/-- `invalid_expression`. -/
def invalidExpression (call : Call) (pos : Nat) : Try (Parsed × Nat) := do
  let found ← (OptionT.lift (do
      notAhead ((do
        let (_, q) ← name pos
        let _ ← stringToken q
        pure pos) <|> softKeyword pos)
      let (a, q) ← expr call .disjunction pos
      let (_, q) ← expr call .expressionPlain q
      pure (a, q)).run : Try (Option (Node × Nat)))
  match found with
  | some (a, q) =>
    if isLegacyName a then failure
    else if (← levelBefore q) == 0 then failure
    else raiseError "invalid syntax. Perhaps you forgot a comma?"
  | none => do
    let (_, q) ← expr call .disjunction pos
    let q ← word "if" q
    let (_, q) ← expr call .disjunction q
    notAhead (word "else" q <|> op ":" q)
    raiseError "expected 'else' after 'if' expression"

/-- `invalid_named_expression`. -/
def invalidNamedExpression (call : Call) (pos : Nat) : Try (Parsed × Nat) :=
  (do
    let (a, q) ← expr call .expression pos
    let q ← op ":=" q
    let _ ← expr call .expression q
    raiseError ("cannot use assignment expressions with " ++ a.exprName)) <|>
  (do
    let (_, q) ← name pos
    let q ← op "=" q
    let (_, q) ← expr call .bitwiseOr q
    notAhead (op "=" q <|> op ":=" q)
    raiseError "invalid syntax. Maybe you meant '==' or ':=' instead of '='?") <|>
  (do
    notAhead (matched call .listDisplay pos <|> matched call .tupleDisplay pos <|>
      matched call .genexp pos <|> word "True" pos <|> word "None" pos <|> word "False" pos)
    let (a, q) ← expr call .bitwiseOr pos
    let q ← op "=" q
    let (_, q) ← expr call .bitwiseOr q
    notAhead (op "=" q <|> op ":=" q)
    raiseError ("cannot assign to " ++ a.exprName ++ " here. Maybe you meant '==' instead of '='?"))

/-- `invalid_comprehension`. -/
def invalidComprehension (call : Call) (pos : Nat) : Try (Parsed × Nat) :=
  (do
    let q ← op "[" pos <|> op "(" pos <|> op "\x7b" pos
    let (_, q) ← expr call .starredExpression q
    let _ ← matched call .forIfClauses q
    raiseError "iterable unpacking cannot be used in comprehension") <|>
  (do
    let q ← op "[" pos <|> op "\x7b" pos
    let (_, q) ← expr call .starNamedExpression q
    let q ← op "," q
    let (_, q) ← exprs call .starNamedExpressions q
    let _ ← matched call .forIfClauses q
    raiseError "did you forget parentheses around the comprehension target?") <|>
  (do
    let q ← op "[" pos <|> op "\x7b" pos
    let (_, q) ← expr call .starNamedExpression q
    let q ← op "," q
    let _ ← matched call .forIfClauses q
    raiseError "did you forget parentheses around the comprehension target?")

/-- `invalid_dict_comprehension`. -/
def invalidDictComprehension (call : Call) (pos : Nat) : Try (Parsed × Nat) := do
  let q ← op "\x7b" pos
  let q ← op "**" q
  let (_, q) ← expr call .bitwiseOr q
  let q ← matched call .forIfClauses q
  let _ ← op "\x7d" q
  raiseError "dict unpacking cannot be used in dict comprehension"

/-- `invalid_default`. -/
def invalidDefault (_ : Call) (pos : Nat) : Try (Parsed × Nat) := do
  let q ← op "=" pos
  ahead (op ")" q <|> op "," q)
  raiseError "expected default value expression"

/-- `lambda_slash_no_default` or `lambda_slash_with_default`. -/
def eitherSlash (call : Call) (pos : Nat) : Try (Unit × Nat) :=
  unitOf call .lambdaSlashNoDefault pos <|> unitOf call .lambdaSlashWithDefault pos

/-- `invalid_lambda_parameters`. -/
def invalidLambdaParameters (call : Call) (pos : Nat) : Try (Parsed × Nat) :=
  (do
    let (_, q) ← many (unitOf call .lambdaParamNoDefault) pos
    let q ← matched call .invalidLambdaParametersHelper q
    let _ ← matched call .lambdaParamNoDefault q
    raiseError "non-default argument follows default argument") <|>
  (do
    let (_, q) ← many (unitOf call .lambdaParamNoDefault) pos
    let q ← op "(" q
    let (_, q) ← gather lambdaParam q
    let q ← optToken (op ",") q
    let _ ← op ")" q
    raiseError "Lambda expression parameters cannot be parenthesized") <|>
  (do
    let q ← op "/" pos
    let _ ← op "," q
    raiseError "at least one argument must precede /") <|>
  (do
    let (_, q) ← eitherSlash call pos
    let (_, q) ← many (unitOf call .lambdaParamMaybeDefault) q
    let _ ← op "/" q
    raiseError "/ may appear only once") <|>
  (do
    let (_, q) ← opt (eitherSlash call) pos
    let (_, q) ← many (unitOf call .lambdaParamMaybeDefault) q
    let q ← op "*" q
    let q ← op "," q <|> matched call .lambdaParamNoDefault q
    let (_, q) ← many (unitOf call .lambdaParamMaybeDefault) q
    let _ ← op "/" q
    raiseError "/ must be ahead of *") <|>
  (do
    let (_, q) ← many1 (unitOf call .lambdaParamMaybeDefault) pos
    let q ← op "/" q
    let _ ← op "*" q
    raiseError "expected comma between / and *")

/-- `invalid_lambda_parameters_helper`: parameters with a default, before a misplaced one
without. -/
def invalidLambdaParametersHelper (call : Call) (pos : Nat) : Try (Parsed × Nat) :=
  (do
    let q ← matched call .lambdaSlashWithDefault pos
    pure (.unit, q)) <|>
  (do
    let (_, q) ← many1 (unitOf call .lambdaParamWithDefault) pos
    pure (.unit, q))

/-- `invalid_lambda_star_etc`. -/
def invalidLambdaStarEtc (call : Call) (pos : Nat) : Try (Parsed × Nat) :=
  (do
    let q ← op "*" pos
    let _ ← op ":" q <|> (do
      let q ← op "," q
      op ":" q <|> op "**" q)
    raiseError "named arguments must follow bare *") <|>
  (do
    let q ← op "*" pos
    let (_, q) ← lambdaParam q
    let _ ← op "=" q
    raiseError "var-positional argument cannot have default value") <|>
  (do
    let q ← op "*" pos
    let q ← matched call .lambdaParamNoDefault q <|> op "," q
    let (_, q) ← many (unitOf call .lambdaParamMaybeDefault) q
    let q ← op "*" q
    let _ ← matched call .lambdaParamNoDefault q <|> op "," q
    raiseError "* argument may appear only once")

/-- `invalid_lambda_kwds`. -/
def invalidLambdaKwds (_ : Call) (pos : Nat) : Try (Parsed × Nat) :=
  (do
    let q ← op "**" pos
    let (_, q) ← lambdaParam q
    let _ ← op "=" q
    raiseError "var-keyword argument cannot have default value") <|>
  (do
    let q ← op "**" pos
    let (_, q) ← lambdaParam q
    let q ← op "," q
    let _ ← lambdaParam q
    raiseError "arguments cannot follow var-keyword argument") <|>
  (do
    let q ← op "**" pos
    let (_, q) ← lambdaParam q
    let q ← op "," q
    let _ ← op "*" q <|> op "**" q <|> op "/" q
    raiseError "arguments cannot follow var-keyword argument")

/-- `invalid_for_target`: a `for` whose target cannot be assigned to. -/
def invalidForTarget (call : Call) (pos : Nat) : Try (Parsed × Nat) := do
  let q ← optToken (word "async") pos
  let q ← word "for" q
  let (a, _) ← expr call .starExpressions q
  match a.invalidForTarget with
  | some bad => raiseError ("cannot assign to " ++ bad.exprName)
  | none => failure

/-- `invalid_group`: a starred expression in parentheses. -/
def invalidGroup (call : Call) (pos : Nat) : Try (Parsed × Nat) :=
  (do
    let q ← op "(" pos
    let (_, q) ← expr call .starredExpression q
    let _ ← op ")" q
    raiseError "cannot use starred expression here") <|>
  (do
    let q ← op "(" pos
    let q ← op "**" q
    let (_, q) ← expr call .expression q
    let _ ← op ")" q
    raiseError "cannot use double starred expression here")

/-- A key and `:`, then a starred value or nothing: the errors of a dictionary item's value. -/
def invalidValue (call : Call) (pos : Nat) : Try (Parsed × Nat) :=
  (do
    let (_, q) ← expr call .expression pos
    let q ← op ":" q
    let q ← op "*" q
    let _ ← expr call .bitwiseOr q
    raiseError "cannot use a starred expression in a dictionary value") <|>
  (do
    let (_, q) ← expr call .expression pos
    let q ← op ":" q
    ahead (op "\x7d" q <|> op "," q)
    raiseError "expression expected after dictionary key and ':'")

/-- `invalid_double_starred_kvpairs`. -/
def invalidDoubleStarredKvpairs (call : Call) (pos : Nat) : Try (Parsed × Nat) :=
  (do
    let (_, q) ← gather (pairItem call .doubleStarredKvpair) pos
    let q ← op "," q
    let q ← matched call .invalidKvpair q
    pure (.unit, q)) <|>
  invalidValue call pos

/-- `invalid_kvpair`. -/
def invalidKvpair (call : Call) (pos : Nat) : Try (Parsed × Nat) :=
  (do
    let (_, q) ← expr call .expression pos
    notAhead (op ":" q)
    raiseError "':' expected after dictionary key") <|>
  invalidValue call pos

end Grammar

end PackageRegistry.Console
