import PackageRegistry.Console.Literal.Expressions
import PackageRegistry.Console.Literal.Strings
/-!
# Display, call and target rules

Tuples, groups, lists, dictionaries, sets and comprehensions; `for` clauses with their targets;
call arguments (positional, then keywords with starred ones, then `**` ones); and assignment
targets.
-/

namespace PackageRegistry.Console

namespace Grammar

/-- `strings`: adjacent string tokens, checked for faults. -/
def strings (_ : Call) (pos : Nat) : Try (Parsed × Nat) := do
  let (texts, q) ← many1 stringToken pos
  let input ← read
  match stringsFault input.compile texts with
  | some (.own f) => raiseError f
  | some (.field f) => raiseAsIs f
  | none => pure (.expr (stringsNode texts), q)

def listDisplay (call : Call) (pos : Nat) : Try (Parsed × Nat) := do
  let q ← op "[" pos
  let (a, q) ← opt (exprs call .starNamedExpressions) q
  let q ← op "]" q
  pure (.expr (.list (a.getD [])), q)

/-- `tuple`: `()`, or an item and a comma, maybe more items. -/
def tupleDisplay (call : Call) (pos : Nat) : Try (Parsed × Nat) := do
  let q ← op "(" pos
  let (a, q) ← opt (fun q => do
    let (y, q) ← expr call .starNamedExpression q
    let q ← op "," q
    let (z, q) ← opt (exprs call .starNamedExpressions) q
    pure (y :: z.getD [], q)) q
  let q ← op ")" q
  pure (.expr (.tuple (a.getD [])), q)

def setDisplay (call : Call) (pos : Nat) : Try (Parsed × Nat) := do
  let q ← op "\x7b" pos
  let (a, q) ← exprs call .starNamedExpressions q
  let q ← op "\x7d" q
  pure (.expr (.set a), q)

/-- `dict`, or braces around misplaced items when the error rules are on. -/
def dictDisplay (call : Call) (pos : Nat) : Try (Parsed × Nat) :=
  (do
    let q ← op "\x7b" pos
    let (a, q) ← opt (pairs call .doubleStarredKvpairs) q
    let q ← op "\x7d" q
    let ps := a.getD []
    pure (.expr (.dict (ps.map (·.1)) (ps.map (·.2))), q)) <|>
  invalidOnly (do
    let q ← op "\x7b" pos
    let q ← matched call .invalidDoubleStarredKvpairs q
    let q ← op "\x7d" q
    pure (.unit, q))

def pairItem (call : Call) (r : Rule) (pos : Nat) : Try ((Option Node × Node) × Nat) := do
  match ← pairs call r pos with
  | ([p], q) => pure (p, q)
  | _ => failure

/-- `double_starred_kvpairs`. -/
def doubleStarredKvpairs (call : Call) (pos : Nat) : Try (Parsed × Nat) := do
  let (ps, q) ← gather (pairItem call .doubleStarredKvpair) pos
  let q ← optToken (op ",") q
  pure (.pairs ps, q)

/-- `double_starred_kvpair`: `**mapping` or `key: value`. -/
def doubleStarredKvpair (call : Call) (pos : Nat) : Try (Parsed × Nat) :=
  (do
    let q ← op "**" pos
    let (a, q) ← expr call .bitwiseOr q
    pure (.pairs [(none, a)], q)) <|>
  call .kvpair pos

def kvpair (call : Call) (pos : Nat) : Try (Parsed × Nat) := do
  let (a, q) ← expr call .expression pos
  let q ← op ":" q
  let (b, q) ← expr call .expression q
  pure (.pairs [(some a, b)], q)

/-- `for_if_clauses`. -/
def forIfClauses (call : Call) (pos : Nat) : Try (Parsed × Nat) := do
  let (_, q) ← many1 (unitOf call .forIfClause) pos
  pure (.unit, q)

/-- A `for` clause after its `in`: the iterable and the `if` conditions. -/
def clauseRest (call : Call) (pos : Nat) : Try (Parsed × Nat) := do
  let (_, q) ← expr call .disjunction pos
  let (_, q) ← many (fun q => do
    let q ← word "if" q
    expr call .disjunction q) q
  pure (.unit, q)

/-- `for_if_clause`; after `in` no other alternative is tried. -/
def forIfClause (call : Call) (pos : Nat) : Try (Parsed × Nat) := do
  let head (q : Nat) : Try Nat := do
    let q ← word "for" q
    let (_, q) ← expr call .starTargets q
    word "in" q
  match ← (OptionT.lift (do let q ← word "async" pos; head q).run : Try (Option Nat)) with
  | some q => clauseRest call q
  | none =>
    match ← (OptionT.lift (head pos).run : Try (Option Nat)) with
    | some q => clauseRest call q
    | none => invalidOnly (call .invalidForTarget pos)

/-- A comprehension in brackets: the element rule, then `for` clauses. -/
def comprehension (call : Call) (opening closing : String) (element : Rule) (made : Node)
    (pos : Nat) : Try (Parsed × Nat) := do
  let q ← op opening pos
  let q ← matched call element q
  let q ← matched call .forIfClauses q
  let q ← op closing q
  pure (.expr made, q)

def listcomp (call : Call) (pos : Nat) : Try (Parsed × Nat) :=
  comprehension call "[" "]" .namedExpression .listComp pos <|>
  invalidOnly (call .invalidComprehension pos)

def setcomp (call : Call) (pos : Nat) : Try (Parsed × Nat) :=
  comprehension call "\x7b" "\x7d" .namedExpression .setComp pos <|>
  invalidOnly (call .invalidComprehension pos)

/-- An assignment expression, or an expression not followed by `:=`. -/
def namedOrPlain (call : Call) (pos : Nat) : Try (Node × Nat) :=
  expr call .assignmentExpression pos <|> (do
    let (a, q) ← expr call .expression pos
    notAhead (op ":=" q)
    pure (a, q))

def genexp (call : Call) (pos : Nat) : Try (Parsed × Nat) :=
  (do
    let q ← op "(" pos
    let (_, q) ← namedOrPlain call q
    let q ← matched call .forIfClauses q
    let q ← op ")" q
    pure (.expr .generatorExp, q)) <|>
  invalidOnly (call .invalidComprehension pos)

def dictcomp (call : Call) (pos : Nat) : Try (Parsed × Nat) :=
  comprehension call "\x7b" "\x7d" .kvpair .dictComp pos <|>
  invalidOnly (call .invalidDictComprehension pos)

/-- `arguments`: arguments before the closing parenthesis. -/
def arguments (call : Call) (pos : Nat) : Try (Parsed × Nat) :=
  (do
    let (a, q) ← expr call .args pos
    let q ← optToken (op ",") q
    ahead (op ")" q)
    pure (.expr a, q)) <|>
  invalidOnly (call .invalidArguments pos)

/-- A positional argument: starred, or an expression not followed by `=`. -/
def argElement (call : Call) (pos : Nat) : Try (Node × Nat) :=
  expr call .starredExpression pos <|> (do
    let (a, q) ← namedOrPlain call pos
    notAhead (op "=" q)
    pure (a, q))

/-- The call a list of arguments makes: positional ones first, starred ones among the keyword
arguments after them. -/
def collectCall (positional : List Node) (is : List CallItem) : Node :=
  .call (.name "") (positional ++ is.filterMap fun
      | .positional e => some e
      | .keyword _ _ => none)
    (is.filterMap fun
      | .keyword n v => some (n, v)
      | .positional _ => none)

def args (call : Call) (pos : Nat) : Try (Parsed × Nat) :=
  (do
    let (a, q) ← gather (argElement call) pos
    let (b, q) ← opt (fun q => do
      let q ← op "," q
      items call .kwargs q) q
    pure (.expr (collectCall a (b.getD [])), q)) <|>
  (do
    let (b, q) ← items call .kwargs pos
    pure (.expr (collectCall [] b), q))

def callItem (call : Call) (r : Rule) (pos : Nat) : Try (CallItem × Nat) := do
  match ← items call r pos with
  | ([i], q) => pure (i, q)
  | _ => failure

def kwargs (call : Call) (pos : Nat) : Try (Parsed × Nat) :=
  (do
    let (a, q) ← gather (callItem call .kwargOrStarred) pos
    let q ← op "," q
    let (b, q) ← gather (callItem call .kwargOrDoubleStarred) q
    pure (.items (a ++ b), q)) <|>
  (do
    let (a, q) ← gather (callItem call .kwargOrStarred) pos
    pure (.items a, q)) <|>
  (do
    let (a, q) ← gather (callItem call .kwargOrDoubleStarred) pos
    pure (.items a, q))

/-- `starred_expression`: `*` and an expression; `*` alone is an error. -/
def starredExpression (call : Call) (pos : Nat) : Try (Parsed × Nat) :=
  (do
    let q ← op "*" pos
    let (a, q) ← expr call .expression q
    pure (.expr (.starred a), q)) <|>
  (do
    let _ ← op "*" pos
    raiseError "Invalid star expression")

def keywordArgument (call : Call) (pos : Nat) : Try (Parsed × Nat) := do
  let (n, q) ← name pos
  let q ← op "=" q
  let (b, q) ← expr call .expression q
  pure (.items [.keyword (some n) b], q)

/-- `kwarg_or_starred`. -/
def kwargOrStarred (call : Call) (pos : Nat) : Try (Parsed × Nat) :=
  invalidOnly (call .invalidKwarg pos) <|>
  keywordArgument call pos <|>
  (do
    let (a, q) ← expr call .starredExpression pos
    pure (.items [.positional a], q))

/-- `kwarg_or_double_starred`. -/
def kwargOrDoubleStarred (call : Call) (pos : Nat) : Try (Parsed × Nat) :=
  invalidOnly (call .invalidKwarg pos) <|>
  keywordArgument call pos <|>
  (do
    let q ← op "**" pos
    let (a, q) ← expr call .expression q
    pure (.items [.keyword none a], q))

/-- `star_targets`: one target, or a tuple of them. -/
def starTargets (call : Call) (pos : Nat) : Try (Parsed × Nat) :=
  (do
    let (a, q) ← expr call .starTarget pos
    notAhead (op "," q)
    pure (.expr a, q)) <|>
  (do
    let (a, q) ← expr call .starTarget pos
    let (b, q) ← many (afterComma (expr call .starTarget)) q
    let q ← optToken (op ",") q
    pure (.expr (.tuple (a :: b)), q))

/-- `star_targets_list_seq`. -/
def starTargetsListSeq (call : Call) (pos : Nat) : Try (Parsed × Nat) := do
  let (es, q) ← gather (expr call .starTarget) pos
  let q ← optToken (op ",") q
  pure (.exprs es, q)

/-- `star_targets_tuple_seq`. -/
def starTargetsTupleSeq (call : Call) (pos : Nat) : Try (Parsed × Nat) :=
  (do
    let (a, q) ← expr call .starTarget pos
    let (b, q) ← many1 (afterComma (expr call .starTarget)) q
    let q ← optToken (op ",") q
    pure (.exprs (a :: b), q)) <|>
  (do
    let (a, q) ← expr call .starTarget pos
    let q ← op "," q
    pure (.exprs [a], q))

/-- `star_target`. -/
def starTarget (call : Call) (pos : Nat) : Try (Parsed × Nat) :=
  (do
    let q ← op "*" pos
    notAhead (op "*" q)
    let (a, q) ← expr call .starTarget q
    pure (.expr (.starred a), q)) <|>
  call .targetWithStarAtom pos

/-- `t_lookahead`: what may follow a primary inside a target. -/
def tLookahead (pos : Nat) : Try Nat := op "(" pos <|> op "[" pos <|> op "." pos

/-- `target_with_star_atom`. -/
def targetWithStarAtom (call : Call) (pos : Nat) : Try (Parsed × Nat) :=
  (do
    let (a, q) ← expr call .tPrimary pos
    let q ← op "." q
    let (n, q) ← name q
    notAhead (tLookahead q)
    pure (.expr (.attribute a n), q)) <|>
  (do
    let (a, q) ← expr call .tPrimary pos
    let q ← op "[" q
    let (s, q) ← expr call .slices q
    let q ← op "]" q
    notAhead (tLookahead q)
    pure (.expr (.subscript a s), q)) <|>
  call .starAtom pos

/-- `star_atom`. -/
def starAtom (call : Call) (pos : Nat) : Try (Parsed × Nat) :=
  (do
    let (n, q) ← name pos
    pure (.expr (.name n), q)) <|>
  (do
    let q ← op "(" pos
    let (a, q) ← expr call .targetWithStarAtom q
    let q ← op ")" q
    pure (.expr a, q)) <|>
  (do
    let q ← op "(" pos
    let (a, q) ← opt (exprs call .starTargetsTupleSeq) q
    let q ← op ")" q
    pure (.expr (.tuple (a.getD [])), q)) <|>
  (do
    let q ← op "[" pos
    let (a, q) ← opt (exprs call .starTargetsListSeq) q
    let q ← op "]" q
    pure (.expr (.list (a.getD [])), q))

/-- One more attribute, subscript or call in a target's primary, which must be followed by more. -/
def tPrimaryStep (call : Call) (a : Node) (q : Nat) : Try (Node × Nat) :=
  (do
    let q ← op "." q
    let (n, q) ← name q
    ahead (tLookahead q)
    pure (.attribute a n, q)) <|>
  (do
    let q ← op "[" q
    let (s, q) ← expr call .slices q
    let q ← op "]" q
    ahead (tLookahead q)
    pure (.subscript a s, q)) <|>
  (do
    let (g, q) ← expr call .genexp q
    ahead (tLookahead q)
    pure (.call a [g] [], q)) <|>
  (do
    let q ← op "(" q
    let (b, q) ← opt (expr call .arguments) q
    let q ← op ")" q
    ahead (tLookahead q)
    pure (callWith a b, q))

/-- `t_primary`: the primary a target's attribute or subscript applies to. -/
def tPrimary (call : Call) (pos : Nat) : Try (Parsed × Nat) := do
  let (a, q) ← expr call .atom pos
  ahead (tLookahead q)
  let (e, r) ← extend (tPrimaryStep call) a q
  pure (.expr e, r)

end Grammar

end PackageRegistry.Console
