/-!
# Syntax trees of literal parameters

The expressions a meta tag's parameters parse to, kept for their shape: whether they evaluate to
a value, and how a syntax error names a misplaced expression or an unassignable `for` target.
-/

namespace PackageRegistry.Console

/-- The kind of a constant. -/
inductive ConstKind where
  | integer
  | float
  | imaginary
  | text
  | bytes
  | true
  | false
  | none
  | ellipsis
  deriving Repr, BEq, DecidableEq, Inhabited

/-- A parsed expression. -/
inductive Node where
  | name (id : String)
  | constant (kind : ConstKind)
  | joinedStr
  | tuple (items : List Node)
  | list (items : List Node)
  | set (items : List Node)
  /-- A dictionary display; a `**` item has no key. -/
  | dict (keys : List (Option Node)) (values : List Node)
  | starred (value : Node)
  | unary (op : String) (operand : Node)
  | binary (op : String) (left right : Node)
  | boolOp (values : List Node)
  | compare (left : Node) (ops : List String) (rights : List Node)
  /-- A call with its positional arguments and its keyword arguments (no name for `**`). -/
  | call (func : Node) (args : List Node) (keywords : List (Option String × Node))
  | attribute (value : Node) (attr : String)
  | subscript (value index : Node)
  | slice
  | ifExp (test body orelse : Node)
  | lambda (body : Node)
  | namedExpr (target value : Node)
  | yield
  | await (value : Node)
  | listComp
  | setComp
  | dictComp
  | generatorExp
  deriving Repr, Inhabited

/-- How a syntax error names an expression. -/
def Node.exprName : Node → String
  | .attribute .. => "attribute"
  | .subscript .. => "subscript"
  | .starred _ => "starred"
  | .name _ => "name"
  | .list _ => "list"
  | .tuple _ => "tuple"
  | .lambda _ => "lambda"
  | .call .. => "function call"
  | .boolOp _ | .binary .. | .unary .. => "expression"
  | .generatorExp => "generator expression"
  | .yield => "yield expression"
  | .await _ => "await expression"
  | .listComp => "list comprehension"
  | .setComp => "set comprehension"
  | .dictComp => "dict comprehension"
  | .dict .. => "dict literal"
  | .set _ => "set display"
  | .joinedStr => "f-string expression"
  | .constant .none => "None"
  | .constant .true => "True"
  | .constant .false => "False"
  | .constant .ellipsis => "ellipsis"
  | .constant _ => "literal"
  | .compare .. => "comparison"
  | .ifExp .. => "conditional expression"
  | .namedExpr .. => "named expression"
  | .slice => "slice"

/-- The class name of an expression, as a refused literal names it. -/
def Node.className : Node → String
  | .name _ => "Name"
  | .constant _ => "Constant"
  | .joinedStr => "JoinedStr"
  | .tuple _ => "Tuple"
  | .list _ => "List"
  | .set _ => "Set"
  | .dict .. => "Dict"
  | .starred _ => "Starred"
  | .unary .. => "UnaryOp"
  | .binary .. => "BinOp"
  | .boolOp _ => "BoolOp"
  | .compare .. => "Compare"
  | .call .. => "Call"
  | .attribute .. => "Attribute"
  | .subscript .. => "Subscript"
  | .slice => "Slice"
  | .ifExp .. => "IfExp"
  | .lambda _ => "Lambda"
  | .namedExpr .. => "NamedExpr"
  | .yield => "Yield"
  | .await _ => "Await"
  | .listComp => "ListComp"
  | .setComp => "SetComp"
  | .dictComp => "DictComp"
  | .generatorExp => "GeneratorExp"

mutual

/-- The first part of a `for` target that cannot be assigned to, if any. -/
def Node.invalidForTarget : Node → Option Node
  | .list items => firstInvalidTarget items
  | .tuple items => firstInvalidTarget items
  | .starred value => value.invalidForTarget
  | .compare left ops _ => if ops.head? == some "in" then left.invalidForTarget else none
  | .name _ | .subscript .. | .attribute .. => none
  | e => some e

/-- The first invalid target among the items of a list or tuple target. -/
def firstInvalidTarget : List Node → Option Node
  | [] => none
  | e :: rest =>
    match e.invalidForTarget with
    | some bad => some bad
    | none => firstInvalidTarget rest

end

end PackageRegistry.Console
