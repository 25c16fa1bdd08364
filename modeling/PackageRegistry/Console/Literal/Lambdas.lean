import PackageRegistry.Console.Literal.Peg
/-!
# Lambda parameter rules

A `lambda`'s parameters in grammar order. A lambda is never a literal, so only whether they
match matters.
-/

namespace PackageRegistry.Console

namespace Grammar

/-- `lambda_param`: a name. -/
def lambdaParam (pos : Nat) : Try (Unit × Nat) := do
  let (_, q) ← name pos
  pure ((), q)

/-- A step that ends with a comma, or before a `:`. -/
def commaOrColon (q : Nat) : Try Nat := op "," q <|> (do ahead (op ":" q); pure q)

/-- `lambda_param_no_default`. -/
def lambdaParamNoDefault (_ : Call) (pos : Nat) : Try (Parsed × Nat) := do
  let (_, q) ← lambdaParam pos
  let q ← commaOrColon q
  pure (.unit, q)

/-- `lambda_param_with_default`. -/
def lambdaParamWithDefault (call : Call) (pos : Nat) : Try (Parsed × Nat) := do
  let (_, q) ← lambdaParam pos
  let q ← matched call .defaultValue q
  let q ← commaOrColon q
  pure (.unit, q)

/-- `lambda_param_maybe_default`. -/
def lambdaParamMaybeDefault (call : Call) (pos : Nat) : Try (Parsed × Nat) := do
  let (_, q) ← lambdaParam pos
  let (_, q) ← opt (unitOf call .defaultValue) q
  let q ← commaOrColon q
  pure (.unit, q)

/-- `default`: `=` and an expression. -/
def defaultValue (call : Call) (pos : Nat) : Try (Parsed × Nat) :=
  (do
    let q ← op "=" pos
    let (_, q) ← expr call .expression q
    pure (.unit, q)) <|>
  invalidOnly (call .invalidDefault pos)

/-- `lambda_slash_no_default`: parameters without a default, then `/`. -/
def lambdaSlashNoDefault (call : Call) (pos : Nat) : Try (Parsed × Nat) := do
  let (_, q) ← many1 (unitOf call .lambdaParamNoDefault) pos
  let q ← op "/" q
  let q ← commaOrColon q
  pure (.unit, q)

/-- `lambda_slash_with_default`: parameters, some with a default, then `/`. -/
def lambdaSlashWithDefault (call : Call) (pos : Nat) : Try (Parsed × Nat) := do
  let (_, q) ← many (unitOf call .lambdaParamNoDefault) pos
  let (_, q) ← many1 (unitOf call .lambdaParamWithDefault) q
  let q ← op "/" q
  let q ← commaOrColon q
  pure (.unit, q)

/-- `lambda_star_etc`: what follows `*`, or `**name` alone. -/
def lambdaStarEtc (call : Call) (pos : Nat) : Try (Parsed × Nat) :=
  invalidOnly (call .invalidLambdaStarEtc pos) <|>
  (do
    let q ← op "*" pos
    let q ← matched call .lambdaParamNoDefault q
    let (_, q) ← many (unitOf call .lambdaParamMaybeDefault) q
    let (_, q) ← opt (unitOf call .lambdaKwds) q
    pure (.unit, q)) <|>
  (do
    let q ← op "*" pos
    let q ← op "," q
    let (_, q) ← many1 (unitOf call .lambdaParamMaybeDefault) q
    let (_, q) ← opt (unitOf call .lambdaKwds) q
    pure (.unit, q)) <|>
  (do
    let q ← matched call .lambdaKwds pos
    pure (.unit, q))

/-- `lambda_kwds`: `**name`. -/
def lambdaKwds (call : Call) (pos : Nat) : Try (Parsed × Nat) :=
  invalidOnly (call .invalidLambdaKwds pos) <|>
  (do
    let q ← op "**" pos
    let q ← matched call .lambdaParamNoDefault q
    pure (.unit, q))

/-- `lambda_parameters`. -/
def lambdaParameters (call : Call) (pos : Nat) : Try (Parsed × Nat) :=
  let starEtc (q : Nat) : Peg Nat := do
    let (_, q) ← opt (unitOf call .lambdaStarEtc) q
    pure q
  (do
    let q ← matched call .lambdaSlashNoDefault pos
    let (_, q) ← many (unitOf call .lambdaParamNoDefault) q
    let (_, q) ← many (unitOf call .lambdaParamWithDefault) q
    let q ← starEtc q
    pure (.unit, q)) <|>
  (do
    let q ← matched call .lambdaSlashWithDefault pos
    let (_, q) ← many (unitOf call .lambdaParamWithDefault) q
    let q ← starEtc q
    pure (.unit, q)) <|>
  (do
    let (_, q) ← many1 (unitOf call .lambdaParamNoDefault) pos
    let (_, q) ← many (unitOf call .lambdaParamWithDefault) q
    let q ← starEtc q
    pure (.unit, q)) <|>
  (do
    let (_, q) ← many1 (unitOf call .lambdaParamWithDefault) pos
    let q ← starEtc q
    pure (.unit, q)) <|>
  (do
    let q ← matched call .lambdaStarEtc pos
    pure (.unit, q))

/-- `lambda_params`. -/
def lambdaParams (call : Call) (pos : Nat) : Try (Parsed × Nat) :=
  invalidOnly (call .invalidLambdaParameters pos) <|> call .lambdaParameters pos

end Grammar

end PackageRegistry.Console
