import PackageRegistry.Sql.Token
import PackageRegistry.Sql.Convert
/-!
# SQL expressions, subqueries and the end of a query

What follows `FROM`: `WHERE`, `ORDER BY`, and `LIMIT` with an optional `OFFSET`. Expressions
follow SQLite's precedence. A failure names the token where the text stops being a query's
prefix.
-/

namespace PackageRegistry.Sql

/-- Binary operators. -/
inductive BinaryOp where
  | or | and
  | eq | ne | lt | le | gt | ge | is | isNot
  | bitAnd | bitOr | shiftLeft | shiftRight
  | add | sub | mul | div | rem
  | concat
  deriving Repr, BEq, DecidableEq

/-- Prefix operators. -/
inductive PrefixOp where
  | not | negate | plus | bitNot
  deriving Repr, BEq, DecidableEq

/-- How the arms of a compound query are joined. -/
inductive CompoundOp where
  | unionAll | union | intersect | except
  deriving Repr, BEq, DecidableEq

/-- The operator as its error messages name it. -/
def CompoundOp.keyword : CompoundOp → String
  | .unionAll => "UNION ALL"
  | .union => "UNION"
  | .intersect => "INTERSECT"
  | .except => "EXCEPT"

/-- How a name is written: bare, in double quotes, or in brackets or backquotes. -/
inductive NameStyle where
  | bare
  | doubleQuoted
  | bracketed
  deriving Repr, BEq, DecidableEq

/-- How two sources are joined: the pairs the constraint admits, and for outer joins unpaired
rows with `NULL`s. `cross` keeps the read order. -/
inductive JoinKind where
  | inner
  | cross
  | left
  | right
  | full
  deriving Repr, BEq, DecidableEq

/-- What a window frame counts: rows, values of the order term, or groups of peers. -/
inductive FrameUnit where
  | rows
  | range
  | groups
  deriving Repr, BEq, DecidableEq

/-- What a window frame leaves out: nothing, the current row, it and its peers, or its peers. -/
inductive FrameExclude where
  | noOthers
  | currentRow
  | group
  | ties
  deriving Repr, BEq, DecidableEq

/-! ## Failures -/

/-- Why a query is refused. -/
inductive SqlError where
  /-- The text stops being SQL at this token (none: at the end). -/
  | nearToken (token : Option String)
  | unrecognizedToken (text : String)
  | noSuchColumn (name : String)
  | noSuchTable (name : String)
  /-- `INDEXED BY` names an index the table does not have. -/
  | noSuchIndex (name : String)
  | noSuchFunction (name : String)
  | wrongArgumentCount (name : String)
  | tooManyArguments (name : String)
  | misusedAggregate (name : String)
  | orderTermOutOfRange (position count : Nat)
  | integerOverflow
  /-- A `?NNN` variable whose number is out of range. -/
  | variableRange
  | noSuchCollation (name : String)
  | escapeNotSingle
  | tooBig
  /-- An aggregate left in an order term of a query that is not an aggregate. -/
  | aggregateInOrder (name : String)
  /-- A `LIMIT` or `OFFSET` that is not an integer. -/
  | datatypeMismatch
  | rowValueMisused
  /-- A subquery used as one value returns this many columns. -/
  | subqueryColumns (count expected : Nat)
  | noTablesSpecified
  /-- A function that exists only to be replaced, called anyway. -/
  | functionContext (name : String)
  | userFunctionFailed
  | malformedJson
  | jsonPath (path : String)
  | likelihoodArgument (name : String)
  | distinctArguments
  /-- A `json_object` label that is not text. -/
  | jsonLabels
  | jsonObjectArguments
  /-- A JSON edit function, by the part of its name after `json_`, given an even number of
  arguments. -/
  | jsonOddArguments (name : String)
  | jsonArrayValue
  | patternTooComplex
  /-- `ORDER BY` or `LIMIT` on an arm of a compound before the last, with the operator after. -/
  | clauseOrder (clause : String) (op : CompoundOp)
  /-- Compound arms with different numbers of result columns, by the operator between them. -/
  | compoundColumns (op : CompoundOp)
  /-- An order term of a compound query that names no result column, by its position. -/
  | orderTermNoMatch (position : Nat)
  /-- A table read as a table-valued function. -/
  | notFunction (name : String)
  /-- A table-valued function given more arguments than it takes. -/
  | tooManyTableArguments (name : String) (most : Nat)
  /-- `RAISE` outside a trigger. -/
  | raiseOutsideTrigger
  /-- A window function called without a window, or a window call where none may stand. -/
  | misusedWindow (name : String)
  | ambiguousColumn (name : String)
  /-- Words before `JOIN` that make no join, as written. -/
  | unknownJoinType (words : String)
  | naturalJoinConstraint
  /-- `ON` or `USING` on the first source of `FROM`. -/
  | joinConstraintFirst (clause : String)
  | usingColumnMissing (name : String)
  | valuesWidth
  | groupTermOutOfRange (position count : Nat)
  | aggregateInGroup
  | havingWithoutAggregate
  | noSuchWindow (name : String)
  | notWindowFunction (name : String)
  /-- A window built on another that sets again what that one sets, by what and its name. -/
  | windowOverride (part name : String)
  | filterNotAggregate
  | windowDistinct
  | rangeOffsetOrder
  | unsupportedFrame
  /-- A frame offset or a window function's argument out of its range, by its text. -/
  | windowArgument (text : String)
  /-- A common table read while its own query is being read. -/
  | circularReference (name : String)
  /-- A recursive common table read again inside a subquery of its recursive arms. -/
  | multipleRecursiveReferences (name : String)
  /-- A recursive common table read twice by one of its arms. -/
  | multipleRecursiveTable (name : String)
  /-- A common table whose query gives `values` columns, for `columns` names. -/
  | commonTableColumns (name : String) (values columns : Nat)
  | duplicateWithName (name : String)
  | recursiveAggregate
  | recursiveWindow
  /-- A result column's `AS` name that computes an aggregate, where none may stand. -/
  | aliasedAggregate (name : String)
  /-- A result column's `AS` name that computes a window, where none may stand. -/
  | aliasedWindow (name : String)
  | filterNonAggregate (name : String)
  /-- The parser's stack ran out: the text nests too deeply. -/
  | stackOverflow
  /-- An expression deeper than the engine allows. -/
  | expressionTooDeep
  /-- A function the connection may not run, such as loading an extension. -/
  | notAuthorized
  | rtreeDepthArgument
  /-- A failure the engine reports by its code alone. -/
  | logicError
  /-- `rtreecheck` called with neither one nor two arguments. -/
  | rtreeCheckArguments
  | unknownTokenizer (name : String)
  /-- A schema of this name is not attached. -/
  | unknownDatabase (name : String)
  | argumentTypeMismatch
  /-- A virtual table module refused its arguments. -/
  | moduleArguments (name : String)
  /-- A hexadecimal literal the engine cannot code as an integer, by its text (after a minus
  sign when negated). -/
  | hexTooBig (text : String)
  deriving Repr, BEq, DecidableEq

/-- How a table in `FROM` chooses its index: freely, `INDEXED BY` a name, or `NOT INDEXED`. -/
inductive IndexHint where
  | free
  | indexedBy (name : String)
  | notIndexed
  deriving Repr, BEq, DecidableEq

mutual

/-- An expression. -/
inductive Expr where
  | literal (v : SqlValue)
  /-- A hexadecimal literal past sixteen significant digits, or `0x8000000000000000`, whose
  negation has no integer; it stands for its low 64 bits. -/
  | hexLiteral (text : String)
  /-- A column name, with its table and how it was written. -/
  | name (table : Option String) (column : String) (style : NameStyle)
  /-- A bound variable, by number. -/
  | variable (index : Nat)
  | unary (op : PrefixOp) (e : Expr)
  | binary (op : BinaryOp) (a b : Expr)
  | isNull (negated : Bool) (e : Expr)
  /-- `LIKE`, `GLOB`, `REGEXP` or `MATCH` by its keyword, with subject, pattern and escape. -/
  | like (negated : Bool) (operator : String) (e pattern : Expr) (escape : Option Expr)
  | between (negated : Bool) (e lo hi : Expr)
  | inList (negated : Bool) (e : Expr) (items : List Expr)
  | inSelect (negated : Bool) (e : Expr) (query : Select)
  | exists (query : Select)
  /-- A subquery standing for the first column of its first row. -/
  | scalar (query : Select)
  /-- A row value `(a, b, …)` of two or more items. -/
  | vector (items : List Expr)
  /-- `CASE [operand] WHEN … THEN … [ELSE …] END`. -/
  | case (operand : Option Expr) (arms : List (Expr × Expr)) (otherwise : Option Expr)
  | cast (e : Expr) (typeName : String)
  /-- A function call by its name as written (`f(*)` has no arguments); `->`, `->>` too. -/
  | call (function : String) (args : List Expr) (distinct : Bool)
  | collate (e : Expr) (collation : String)
  /-- `IS TRUE`, `IS FALSE` and their negations: a test of an operand's truth, which `NULL`
  fails. -/
  | isTruth (negated truth : Bool) (e : Expr)
  /-- A resolved column: the `index`-th of the row `depth` queries out, with its affinity and
  collation (none: `BINARY`). -/
  | column (depth index : Nat) (affinity : Affinity) (collation : Option String)
  /-- A column named with its schema and its table. -/
  | schemaName (schema table column : String)
  /-- `RAISE(…)`, which only a trigger may run. -/
  | raise
  /-- A function call with a filter, a window (none for a filter alone), or both. -/
  | over (function : String) (args : List Expr) (distinct : Bool) (filter : Option Expr)
      (window : Option WindowSpec)
  /-- The value of the bound query's window call at this position, for the current row. -/
  | windowValue (index : Nat)

/-- A term of `ORDER BY`. -/
structure OrderTerm where
  expr : Expr
  descending : Bool := false
  nullsFirst : Option Bool := none

/-- A result column of a subquery: every column (of one table), or an expression with an
optional name. -/
inductive ResultColumn where
  | all (table : Option String)
  | expr (e : Expr) (asName : Option String)

/-- A bound of a window frame. -/
inductive FrameBound where
  | unboundedPreceding
  | preceding (offset : Expr)
  | currentRow
  | following (offset : Expr)
  | unboundedFollowing

/-- A window frame: what it counts, where it starts and ends, and what it leaves out. -/
structure Frame where
  unit : FrameUnit
  start : FrameBound
  finish : FrameBound
  exclude : FrameExclude := .noOthers

/-- A window: the one it builds on (`named` when the call names it alone), its partition, order
and frame. -/
structure WindowSpec where
  base : Option String := none
  named : Bool := false
  partition : List Expr := []
  order : List OrderTerm := []
  frame : Option Frame := none

/-- What a query reads after `FROM`, each under an optional alias: a table, a table function, a
subquery, or a join. -/
inductive FromItem where
  | table (schema : Option String) (name : String) (asName : Option String) (hint : IndexHint)
  | function (schema : Option String) (name : String) (args : List Expr) (asName : Option String)
  | subquery (query : Select) (asName : Option String)
  | join (left : FromItem) (kind : JoinKind) (natural : Bool) (right : FromItem)
      (on : Option Expr) (usingColumns : List String)
  /-- A recursive common table read by one of its own recursive arms, with its column names. -/
  | recursive (name : String) (columns : List String) (asName : Option String)
  /-- A source that cannot be read, with the failure reading it reports. -/
  | refused (error : SqlError)

/-- A common table of a `WITH` clause: its name, its column names (none: its query's), and its
query. -/
structure CommonTable where
  name : String
  columns : List String := []
  query : Select

/-- A subquery: its first arm and the later arms with their operators; its order and window
apply to the whole. -/
structure Select where
  distinct : Bool := false
  columns : List ResultColumn
  source : Option FromItem := none
  filter : Option Expr := none
  group : List Expr := []
  having : Option Expr := none
  /-- The windows its `WINDOW` clause names. -/
  windows : List (String × WindowSpec) := []
  compound : List (CompoundOp × Select) := []
  order : List OrderTerm := []
  limit : Option Expr := none
  offset : Option Expr := none
  /-- Whether the arm is a row of `VALUES`. -/
  isValues : Bool := false
  /-- The common tables its `WITH` clause defines, for the whole query. -/
  ctes : List CommonTable := []
  /-- The names a common table gives the result columns of its query, where it is read. -/
  names : List String := []
  /-- For a recursive common table: the first arm reading the table itself; later arms too. -/
  recursion : Option Nat := none

end

instance : Inhabited Expr := ⟨.literal .null⟩

/-- A source named in `FROM` or after `IN`: a table function if arguments follow, else a
table. -/
def FromItem.named (schema : Option String) (table : String) (args : Option (List Expr))
    (asName : Option String) : FromItem :=
  match args with
  | some a => .function schema table a asName
  | none => .table schema table asName .free

/-! ## Heights -/

/-- The greatest height an expression may have. -/
def maxExprHeight : Nat := 1000

/-- The fuel for measuring heights: enough to tell every height up to one past the greatest
allowed. -/
def heightFuel : Nat := maxExprHeight + 2

mutual

/-- A parsed expression's height as the engine measures it: a leaf one, a compound one above its
highest part, a negated pattern, `BETWEEN` or `IN` one more; `COLLATE` and row values are
leaves. Exact within `fuel`. -/
def Expr.height : Nat → Expr → Nat
  | 0, _ => 0
  | fuel + 1, e =>
    let highest := fun (xs : List Expr) => xs.foldl (fun m x => max m (x.height fuel)) 0
    let negation := fun (negated : Bool) => if negated then 1 else 0
    match e with
    | .literal _ | .hexLiteral _ | .variable _ | .raise | .column .. | .windowValue _ | .vector _
    | .collate .. => 1
    | .name none .. => 1
    | .name (some _) .. => 2
    | .schemaName .. => 3
    | .unary _ a | .isNull _ a | .cast a _ | .isTruth _ _ a => a.height fuel + 1
    | .binary _ a b => max (a.height fuel) (b.height fuel) + 1
    | .like negated _ subject pattern escape =>
      highest (subject :: pattern :: escape.toList) + 1 + negation negated
    | .between negated a _ _ => a.height fuel + 1 + negation negated
    | .inList negated a items => max (a.height fuel) (highest items) + 1 + negation negated
    | .inSelect negated a q => max (a.height fuel) (q.height fuel) + 1 + negation negated
    | .exists q | .scalar q => q.height fuel + 1
    | .case operand arms otherwise =>
      highest (operand.toList ++ arms.flatMap (fun (w, t) => [w, t]) ++ otherwise.toList) + 1
    | .call _ args _ | .over _ args _ _ _ => highest args + 1

/-- A subquery's height over its arms: results, filter, grouping, `HAVING`, order, window (one
above `LIMIT`/`OFFSET`). -/
def Select.height : Nat → Select → Nat
  | 0, _ => 0
  | fuel + 1, q =>
    let highest := fun (xs : List Expr) => xs.foldl (fun m x => max m (x.height fuel)) 0
    let columns := q.columns.foldl (fun m c =>
      match c with
      | .all none => max m 1
      | .all (some _) => max m 2
      | .expr x _ => max m (x.height fuel)) 0
    let window := if q.limit.isNone && q.offset.isNone then 0
      else highest (q.limit.toList ++ q.offset.toList) + 1
    let own := max (max columns window)
      (highest (q.filter.toList ++ q.group ++ q.having.toList ++ q.order.map (·.expr)))
    q.compound.foldl (fun m (_, arm) => max m (arm.height fuel)) own

end

/-- Refuses an expression the parser has just built when it is higher than the engine allows. -/
def checkHeight (e : Expr) : Except SqlError Expr :=
  if e.height heightFuel > maxExprHeight then .error .expressionTooDeep else .ok e

/-- Refuses a window of rows whose `LIMIT` and `OFFSET` node is too high. -/
def checkWindowHeight (limit offset : Option Expr) : Except SqlError Unit :=
  match limit with
  | some l =>
    if max (l.height heightFuel) ((offset.map (·.height heightFuel)).getD 0) + 1 > maxExprHeight then
      .error .expressionTooDeep
    else .ok ()
  | none => .ok ()

/-- Whether an expression is the integer `0` as written. -/
def Expr.isZeroConstant : Expr → Bool
  | .literal (.integer n) => n == 0
  | _ => false

/-- `a AND b`, or the integer `0` when either side is a written `0`. -/
def andOf (a b : Expr) : Expr :=
  if a.isZeroConstant || b.isZeroConstant then .literal (.integer 0) else .binary .and a b

/-- The part of a query after its `FROM` clause. -/
structure QueryTail where
  filter : Option Expr := none
  order : List OrderTerm := []
  limit : Option Expr := none
  offset : Option Expr := none
  /-- Tokens after a closing `;`, which make a second statement. -/
  trailing : Bool := false


/-- The ordinal of a position: `1st`, `2nd`, `3rd`, `4th`, …, `11th`, …, `21st`. -/
def ordinal (n : Nat) : String :=
  let suffix :=
    if n % 100 ≥ 11 && n % 100 ≤ 13 then "th"
    else match n % 10 with
      | 1 => "st"
      | 2 => "nd"
      | 3 => "rd"
      | _ => "th"
  toString n ++ suffix

/-- The text of a failure. -/
def SqlError.message : SqlError → String
  | .nearToken (some t) => "near \"" ++ t ++ "\": syntax error"
  | .nearToken none => "incomplete input"
  | .unrecognizedToken t => "unrecognized token: \"" ++ t ++ "\""
  | .noSuchColumn n => "no such column: " ++ n
  | .noSuchTable n => "no such table: " ++ n
  | .noSuchIndex n => "no such index: " ++ n
  | .noSuchFunction n => "no such function: " ++ n
  | .wrongArgumentCount n => "wrong number of arguments to function " ++ n ++ "()"
  | .tooManyArguments n => "too many arguments on function " ++ n
  | .misusedAggregate n => "misuse of aggregate function " ++ n ++ "()"
  | .orderTermOutOfRange k n =>
    ordinal k ++ " ORDER BY term out of range - should be between 1 and " ++ toString n
  | .integerOverflow => "integer overflow"
  | .noSuchCollation n => "no such collation sequence: " ++ n
  | .escapeNotSingle => "ESCAPE expression must be a single character"
  | .tooBig => "string or blob too big"
  | .aggregateInOrder n => "misuse of aggregate: " ++ n ++ "()"
  | .datatypeMismatch => "datatype mismatch"
  | .variableRange =>
    "variable number must be between ?1 and ?" ++ toString maxVariableNumber
  | .rowValueMisused => "row value misused"
  | .subqueryColumns n k =>
    "sub-select returns " ++ toString n ++ " columns - expected " ++ toString k
  | .noTablesSpecified => "no tables specified"
  | .functionContext n => "unable to use function " ++ n ++ " in the requested context"
  | .notAuthorized => "not authorized"
  | .rtreeDepthArgument => "Invalid argument to rtreedepth()"
  | .logicError => "SQL logic error"
  | .rtreeCheckArguments => "wrong number of arguments to function rtreecheck()"
  | .unknownTokenizer n => "unknown tokenizer: " ++ n
  | .unknownDatabase n => "unknown database " ++ n
  | .argumentTypeMismatch => "argument type mismatch"
  | .moduleArguments n => "invalid arguments to " ++ n ++ " constructor"
  | .userFunctionFailed => "user-defined function raised exception"
  | .malformedJson => "malformed JSON"
  | .jsonPath p => "JSON path error near '" ++ p ++ "'"
  | .likelihoodArgument n =>
    "second argument to " ++ n ++ "() must be a constant between 0.0 and 1.0"
  | .distinctArguments => "DISTINCT aggregates must have exactly one argument"
  | .jsonLabels => "json_object() labels must be TEXT"
  | .jsonObjectArguments => "json_object() requires an even number of arguments"
  | .jsonOddArguments n => "json_" ++ n ++ "() needs an odd number of arguments"
  | .jsonArrayValue => "JSON cannot hold BLOB values"
  | .patternTooComplex => "LIKE or GLOB pattern too complex"
  | .clauseOrder clause op => clause ++ " clause should come after " ++ op.keyword ++ " not before"
  | .compoundColumns op =>
    "SELECTs to the left and right of " ++ op.keyword ++
      " do not have the same number of result columns"
  | .orderTermNoMatch k =>
    ordinal k ++ " ORDER BY term does not match any column in the result set"
  | .notFunction n => "'" ++ n ++ "' is not a function"
  | .tooManyTableArguments n k => "too many arguments on " ++ n ++ "() - max " ++ toString k
  | .raiseOutsideTrigger => "RAISE() may only be used within a trigger-program"
  | .misusedWindow n => "misuse of window function " ++ n ++ "()"
  | .ambiguousColumn n => "ambiguous column name: " ++ n
  | .unknownJoinType w => "unknown join type: " ++ w
  | .naturalJoinConstraint => "a NATURAL join may not have an ON or USING clause"
  | .joinConstraintFirst c => "a JOIN clause is required before " ++ c
  | .usingColumnMissing n =>
    "cannot join using column " ++ n ++ " - column not present in both tables"
  | .valuesWidth => "all VALUES must have the same number of terms"
  | .groupTermOutOfRange k n =>
    ordinal k ++ " GROUP BY term out of range - should be between 1 and " ++ toString n
  | .aggregateInGroup => "aggregate functions are not allowed in the GROUP BY clause"
  | .havingWithoutAggregate => "HAVING clause on a non-aggregate query"
  | .noSuchWindow n => "no such window: " ++ n
  | .notWindowFunction n => n ++ "() may not be used as a window function"
  | .windowOverride part n => "cannot override " ++ part ++ " of window: " ++ n
  | .filterNotAggregate => "FILTER clause may only be used with aggregate window functions"
  | .windowDistinct => "DISTINCT is not supported for window functions"
  | .rangeOffsetOrder =>
    "RANGE with offset PRECEDING/FOLLOWING requires one ORDER BY expression"
  | .unsupportedFrame => "unsupported frame specification"
  | .windowArgument t => t
  | .circularReference n => "circular reference: " ++ n
  | .multipleRecursiveReferences n => "multiple recursive references: " ++ n
  | .multipleRecursiveTable n => "multiple references to recursive table: " ++ n
  | .commonTableColumns n k m =>
    "table " ++ n ++ " has " ++ toString k ++ " values for " ++ toString m ++ " columns"
  | .duplicateWithName n => "duplicate WITH table name: " ++ n
  | .recursiveAggregate => "recursive aggregate queries not supported"
  | .recursiveWindow => "cannot use window functions in recursive queries"
  | .aliasedAggregate n => "misuse of aliased aggregate " ++ n
  | .aliasedWindow n => "misuse of aliased window function " ++ n
  | .filterNonAggregate n => "FILTER may not be used with non-aggregate " ++ n ++ "()"
  | .stackOverflow => "parser stack overflow"
  | .hexTooBig text => "hex literal too big: " ++ text
  | .expressionTooDeep => "Expression tree is too large (maximum depth " ++ toString maxExprHeight ++ ")"

/-- The deepest stack index: the stack has a hundred entries, the first the start state. -/
def stackLimit : Nat := 99

/-- Places a symbol at stack index `depth`; past `stackLimit` the parse fails. -/
def place (depth : Nat) : Except SqlError Unit :=
  if depth > stackLimit then .error .stackOverflow else .ok ()

/-- The failure at the next token. -/
def failAt {α : Type} : List Token → Except SqlError α
  | [] => .error (.nearToken none)
  | t :: _ => .error (if t.kind == .illegal then .unrecognizedToken t.text else .nearToken (some t.text))

/-- The keywords of SQLite's SQL. -/
def keywords : List String :=
  ["ABORT", "ACTION", "ADD", "AFTER", "ALL", "ALTER", "ALWAYS", "ANALYZE", "AND", "AS", "ASC",
   "ATTACH", "AUTOINCREMENT", "BEFORE", "BEGIN", "BETWEEN", "BY", "CASCADE", "CASE", "CAST",
   "CHECK", "COLLATE", "COLUMN", "COMMIT", "CONFLICT", "CONSTRAINT", "CREATE", "CROSS",
   "CURRENT", "CURRENT_DATE", "CURRENT_TIME", "CURRENT_TIMESTAMP", "DATABASE", "DEFAULT",
   "DEFERRABLE", "DEFERRED", "DELETE", "DESC", "DETACH", "DISTINCT", "DO", "DROP", "EACH",
   "ELSE", "END", "ESCAPE", "EXCEPT", "EXCLUDE", "EXCLUSIVE", "EXISTS", "EXPLAIN", "FAIL",
   "FILTER", "FIRST", "FOLLOWING", "FOR", "FOREIGN", "FROM", "FULL", "GENERATED", "GLOB",
   "GROUP", "GROUPS", "HAVING", "IF", "IGNORE", "IMMEDIATE", "IN", "INDEX", "INDEXED",
   "INITIALLY", "INNER", "INSERT", "INSTEAD", "INTERSECT", "INTO", "IS", "ISNULL", "JOIN", "KEY",
   "LAST", "LEFT", "LIKE", "LIMIT", "MATCH", "MATERIALIZED", "NATURAL", "NO", "NOT", "NOTHING",
   "NOTNULL", "NULL", "NULLS", "OF", "OFFSET", "ON", "OR", "ORDER", "OTHERS", "OUTER", "OVER",
   "PARTITION", "PLAN", "PRAGMA", "PRECEDING", "PRIMARY", "QUERY", "RAISE", "RANGE",
   "RECURSIVE", "REFERENCES", "REGEXP", "REINDEX", "RELEASE", "RENAME", "REPLACE", "RESTRICT",
   "RETURNING", "RIGHT", "ROLLBACK", "ROW", "ROWS", "SAVEPOINT", "SELECT", "SET", "TABLE",
   "TEMP", "TEMPORARY", "THEN", "TIES", "TO", "TRANSACTION", "TRIGGER", "UNBOUNDED", "UNION",
   "UNIQUE", "UPDATE", "USING", "VACUUM", "VALUES", "VIEW", "VIRTUAL", "WHEN", "WHERE",
   "WINDOW", "WITH", "WITHOUT"]

/-- Keywords standing for a name where allowed: operand, after a dot, alias, collation, type. -/
def fallbackWords : List String :=
  ["ABORT", "ACTION", "AFTER", "ALWAYS", "ANALYZE", "ASC", "ATTACH", "BEFORE", "BEGIN", "BY",
   "CASCADE", "CAST", "COLUMN", "CONFLICT", "CURRENT", "CURRENT_DATE", "CURRENT_TIME",
   "CURRENT_TIMESTAMP", "DATABASE", "DEFERRED", "DESC", "DETACH", "DO", "EACH", "END",
   "EXCLUDE", "EXCLUSIVE", "EXPLAIN", "FAIL", "FILTER", "FIRST", "FOLLOWING", "FOR",
   "GENERATED", "GLOB", "GROUPS", "IF", "IGNORE", "IMMEDIATE", "INITIALLY", "INSTEAD", "KEY",
   "LAST", "LIKE", "MATCH", "MATERIALIZED", "NO", "NULLS", "OF", "OFFSET", "OTHERS", "OVER",
   "PARTITION", "PLAN", "PRAGMA", "PRECEDING", "QUERY", "RAISE", "RANGE", "RECURSIVE", "REGEXP",
   "REINDEX", "RELEASE", "RENAME", "REPLACE", "RESTRICT", "ROLLBACK", "ROW", "ROWS",
   "SAVEPOINT", "TEMP", "TEMPORARY", "TIES", "TRIGGER", "UNBOUNDED", "VACUUM", "VIEW",
   "VIRTUAL", "WINDOW", "WITH", "WITHOUT"]

/-- The join keywords, which name columns, functions and tables but are never aliases. -/
def joinWords : List String := ["CROSS", "FULL", "INNER", "LEFT", "NATURAL", "OUTER", "RIGHT"]

/-- A plain name: a word no keyword (or one falling back to a name), or a quoted name. -/
def idOf? (t : Token) : Option (String × NameStyle) :=
  match t.kind with
  | .word =>
    let u := t.text.toUpper
    if !keywords.contains u || fallbackWords.contains u then some (t.text, .bare) else none
  | .quotedName n dq => some (n, if dq then .doubleQuoted else .bracketed)
  | _ => none

/-- The name of a column or a function: a plain name, `INDEXED` or a join keyword. -/
def identifierOf? (t : Token) : Option (String × NameStyle) :=
  match idOf? t with
  | some r => some r
  | none =>
    if t.kind == .word && (t.text.toUpper == "INDEXED" || joinWords.contains t.text.toUpper) then
      some (t.text, .bare)
    else none

/-- A name after a dot or `AS`, or of a table: the name of a column or function, or a string. -/
def nameOf? (t : Token) : Option (String × NameStyle) :=
  match identifierOf? t, t.kind with
  | some r, _ => some r
  | none, .string s => some (s, .bare)
  | _, _ => none

/-- An alias without `AS`, a collation or a word of a type name: a plain name or a string. -/
def plainNameOf? (t : Token) : Option String :=
  match idOf? t, t.kind with
  | some (n, _), _ => some n
  | none, .string s => some s
  | _, _ => none

/-- The value of a hexadecimal digit. -/
def hexValue (c : Char) : Nat :=
  if c.isDigit then c.toNat - '0'.toNat else c.toLower.toNat - 'a'.toNat + 10

/-- Whether an integer literal is written in hexadecimal. -/
def isHexText (digits : String) : Bool :=
  digits.startsWith "0x" || digits.startsWith "0X"

/-- An integer literal's value: hexadecimal keeps its low 64 bits; wider decimal is a double. -/
def integerLiteral (digits : String) : SqlValue :=
  if isHexText digits then
    let v : Nat := (digits.toList.drop 2).foldl (fun (n : Nat) c => 16 * n + hexValue c) 0 % Nat.pow 2 64
    .integer (if v ≥ Nat.pow 2 63 then (v : Int) - Int.pow 2 64 else (v : Int))
  else
    let n := digits.toList.foldl (fun (n : Nat) c => 10 * n + (c.toNat - '0'.toNat)) 0
    if n ≤ Nat.pow 2 63 - 1 then .integer n else .real (readReal (bytesOf digits)).value

/-- The number of significant digits of a hexadecimal literal: those after `0x` and its leading
zeros. -/
def significantHexDigits (text : String) : Nat :=
  ((text.toList.drop 2).dropWhile (· == '0')).length

/-- Whether a hexadecimal literal is past sixteen significant digits, or the least integer. -/
def isWideHex (text : String) : Bool :=
  significantHexDigits text > 16 ||
    match integerLiteral text with
    | .integer n => n == -(Int.ofNat (Nat.pow 2 63))
    | _ => false

def blobBytes (hex : String) : List UInt8 :=
  let rec pairs : List Char → List UInt8
    | a :: b :: rest => UInt8.ofNat (16 * hexValue a + hexValue b) :: pairs rest
    | _ => []
  pairs hex.toList

/-- The literal a token stands for, if it is one. -/
def literalOf? (t : Token) : Option SqlValue :=
  match t.kind with
  | .string s => some (.text (bytesOf s))
  | .integer ds => some (integerLiteral ds)
  | .float text => some (.real (readReal (bytesOf text)).value)
  | .blob hex => some (.blob (blobBytes hex))
  | _ => if t.isKeyword "NULL" then some .null else none

/-- The expression of a literal token; a wide hexadecimal literal keeps its text. -/
def literalExpr? (t : Token) : Option Expr :=
  match t.kind with
  | .integer ds =>
    if isHexText ds && isWideHex ds then some (.hexLiteral ds) else (literalOf? t).map .literal
  | _ => (literalOf? t).map .literal

/-- A token's binary operator level and the expression it makes; multi-word forms apart. -/
def binaryLevel? (t : Token) : Option (Nat × (Expr → Expr → Expr)) :=
  let op := fun (l : Nat) (o : BinaryOp) => some (l, Expr.binary o)
  if t.kind != .symbol && t.kind != .word then none
  else if t.isKeyword "OR" then op 1 .or
  else if t.isKeyword "AND" then some (2, andOf)
  else if t.kind != .symbol then none
  else match t.text with
    | "=" | "==" => op 4 .eq
    | "!=" | "<>" => op 4 .ne
    | "<" => op 5 .lt
    | "<=" => op 5 .le
    | ">" => op 5 .gt
    | ">=" => op 5 .ge
    | "&" => op 7 .bitAnd
    | "|" => op 7 .bitOr
    | "<<" => op 7 .shiftLeft
    | ">>" => op 7 .shiftRight
    | "+" => op 8 .add
    | "-" => op 8 .sub
    | "*" => op 9 .mul
    | "/" => op 9 .div
    | "%" => op 9 .rem
    | "||" => op 10 .concat
    | "->" | "->>" => some (10, fun a b => Expr.call t.text [a, b] false)
    | _ => none

/-- Whether a token is one of the pattern operators `LIKE`, `GLOB`, `REGEXP` and `MATCH`. -/
def Token.isPatternWord (t : Token) : Bool :=
  t.isKeyword "LIKE" || t.isKeyword "GLOB" || t.isKeyword "REGEXP" || t.isKeyword "MATCH"

/-- `IS` or `IS NOT`: a test for `NULL` when the right side is the `NULL` literal. -/
def isTest (negated : Bool) (a b : Expr) : Expr :=
  match b with
  | .literal .null => .isNull negated a
  | _ => .binary (if negated then .isNot else .is) a b

/-- Whether the next token is `t`. -/
def startsWithSymbol (s : String) : List Token → Bool
  | t :: _ => t.isSymbol s
  | [] => false

/-- Whether the next token is the keyword `k`. -/
def startsWithKeyword (k : String) : List Token → Bool
  | t :: _ => t.isKeyword k
  | [] => false

/-- A type name's signed number at stack index `depth` (one deeper after a sign). -/
def readSignedNumber (depth : Nat) (ts : List Token) : Except SqlError (List String × List Token) := do
  let (sign, ts) := match ts with
    | t :: rest => if t.isSymbol "+" || t.isSymbol "-" then ([t.text], rest) else ([], ts)
    | [] => ([], ts)
  if !sign.isEmpty then place depth
  match ts with
  | t :: rest =>
    match t.kind with
    | .integer _ | .float _ => do
      place (depth + sign.length)
      .ok (sign ++ [t.text], rest)
    | _ => failAt ts
  | [] => failAt ts

/-- A type name at `depth`: names and strings, each deeper, then `(n)` or `(n, m)`. -/
def readTypeName (depth : Nat) (ts : List Token) : Except SqlError (String × List Token) := do
  let words := ts.takeWhile fun t => (plainNameOf? t).isSome
  let rest := ts.drop words.length
  place depth
  if words.length > 1 then place (depth + 1)
  if words.isEmpty then .ok ("", rest)
  else
    let name := " ".intercalate (words.map (·.text))
    match rest with
    | p :: more =>
      if p.isSymbol "(" then do
        place (depth + 1)
        let (first, r) ← readSignedNumber (depth + 2) more
        match r with
        | c :: after =>
          if c.isSymbol ")" then do
            place (depth + 3)
            .ok (name ++ "(" ++ String.join first ++ ")", after)
          else if c.isSymbol "," then do
            place (depth + 3)
            let (second, r) ← readSignedNumber (depth + 4) after
            match r with
            | d :: after =>
              if d.isSymbol ")" then do
                place (depth + 5)
                .ok (name ++ "(" ++ String.join first ++ "," ++ String.join second ++ ")", after)
              else failAt r
            | [] => failAt r
          else failAt r
        | [] => failAt r
      else .ok (name, rest)
    | [] => .ok (name, rest)

/-- The rest of a table's name after its first part at `depth`: `.` and the name when the first
part is a schema. -/
def readTableName (depth : Nat) (first : String) (ts : List Token) :
    Except SqlError (Option String × String × List Token) := do
  place (depth + 1)
  match ts with
  | d :: more =>
    if d.isSymbol "." then
      match more with
      | m :: after =>
        match nameOf? m with
        | some (table, _) => do
          place (depth + 2)
          .ok (some first, table, after)
        | none => failAt more
      | [] => failAt more
    else .ok (none, first, ts)
  | [] => .ok (none, first, ts)

/-- `table.column` or `schema.table.column` after the first part at `depth` and a dot, each
part and dot one deeper. -/
def readQualified (depth : Nat) (first : String) (ts : List Token) : Except SqlError (Expr × List Token) := do
  place (depth + 1)
  match ts with
  | c :: after =>
    match nameOf? c with
    | none => failAt ts
    | some (column, style) => do
      place (depth + 2)
      match after with
      | d :: more =>
        if d.isSymbol "." then do
          place (depth + 3)
          match more with
          | c2 :: rest =>
            match nameOf? c2 with
            | some (inner, _) => do
              place (depth + 4)
              .ok (.schemaName first column inner, rest)
            | none => failAt more
          | [] => failAt more
        else .ok (.name (some first) column style, after)
      | [] => .ok (.name (some first) column style, [])
  | [] => failAt ts

/-- `RAISE` at `depth`: `(IGNORE)`, or `(ROLLBACK|ABORT|FAIL, name)`. -/
def readRaise (depth : Nat) (ts : List Token) : Except SqlError (Expr × List Token) :=
  let close := fun (k : Nat) (r : List Token) =>
    match r with
    | c :: after =>
      if c.isSymbol ")" then do
        place (depth + k)
        .ok (Expr.raise, after)
      else failAt r
    | [] => failAt r
  match ts with
  | p :: rest =>
    if !p.isSymbol "(" then failAt ts
    else do
      place (depth + 1)
      match rest with
      | k :: more =>
        if k.isKeyword "IGNORE" then do
          place (depth + 2)
          close 3 more
        else if k.isKeyword "ROLLBACK" || k.isKeyword "ABORT" || k.isKeyword "FAIL" then do
          place (depth + 2)
          match more with
          | c :: after =>
            if !c.isSymbol "," then failAt more
            else do
              place (depth + 3)
              match after with
              | n :: r =>
                if (nameOf? n).isSome then do
                  place (depth + 4)
                  close 5 r
                else failAt after
              | [] => failAt after
          | [] => failAt more
        else failAt rest
      | [] => failAt rest
  | [] => failAt ts

/-- A compound operator at the start of the tokens, and the tokens after it. -/
def compoundOpAt? : List Token → Option (CompoundOp × List Token)
  | t :: rest =>
    if t.isKeyword "UNION" then
      if startsWithKeyword "ALL" rest then some (.unionAll, rest.drop 1) else some (.union, rest)
    else if t.isKeyword "INTERSECT" then some (.intersect, rest)
    else if t.isKeyword "EXCEPT" then some (.except, rest)
    else none
  | [] => none

/-- The most arguments a function call may have. -/
def maxArguments : Nat := 127

/-- Whether the tokens start a query: `SELECT`, `VALUES` or `WITH`. -/
def startsQuery (ts : List Token) : Bool :=
  startsWithKeyword "SELECT" ts || startsWithKeyword "VALUES" ts || startsWithKeyword "WITH" ts

/-- Whether the tokens start a `WINDOW` clause: the word, a name and `AS`. -/
def startsWindowClause : List Token → Bool
  | w :: n :: a :: _ => w.isKeyword "WINDOW" && (nameOf? n).isSome && a.isKeyword "AS"
  | _ => false

/-- The join kind before `JOIN` and naturalness; `OUTER` needs a side, excludes `INNER`,
`CROSS`. -/
def joinKindOf (words : List Token) : Except SqlError (JoinKind × Bool) :=
  let upper := words.map (·.text.toUpper)
  let has := fun (k : String) => upper.contains k
  let left := has "LEFT" || has "FULL"
  let right := has "RIGHT" || has "FULL"
  let inner := has "INNER" || has "CROSS"
  let known := ["NATURAL", "LEFT", "OUTER", "RIGHT", "FULL", "INNER", "CROSS"]
  if upper.any (!known.contains ·) || (inner && (left || right || has "OUTER")) ||
      (has "OUTER" && !left && !right) then
    .error (.unknownJoinType (" ".intercalate (words.map (·.text))))
  else
    .ok (if left && right then .full else if left then .left else if right then .right
      else if has "CROSS" then .cross else .inner, has "NATURAL")

/-- A join operator from `depth`, each token deeper: `,`, `JOIN`, or keywords then `JOIN`. -/
def readJoinOperator (depth : Nat) (ts : List Token) :
    Except SqlError (Option (JoinKind × Bool × List Token)) :=
  let joined := fun (words : List Token) (after : List Token) => do
    place (depth + words.length)
    (joinKindOf words).map fun (k, n) => some (k, n, after)
  match ts with
  | t :: rest =>
    if t.isSymbol "," || t.isKeyword "JOIN" then do
      place depth
      .ok (some (.inner, false, rest))
    else if t.kind == .word && joinWords.contains t.text.toUpper then do
      place depth
      match rest with
      | a :: r1 =>
        if a.isKeyword "JOIN" then joined [t] r1
        else if (nameOf? a).isNone then failAt rest
        else do
          place (depth + 1)
          match r1 with
          | b :: r2 =>
            if b.isKeyword "JOIN" then joined [t, a] r2
            else if (nameOf? b).isNone then failAt r1
            else do
              place (depth + 2)
              match r2 with
              | c :: r3 => if c.isKeyword "JOIN" then joined [t, a, b] r3 else failAt r2
              | [] => failAt r2
          | [] => failAt r1
      | [] => failAt rest
    else .ok none
  | [] => .ok none

/-- Whether a token names the unit of a window frame. -/
def isFrameUnit (t : Token) : Bool :=
  t.isKeyword "ROWS" || t.isKeyword "RANGE" || t.isKeyword "GROUPS"

/-- Whether a frame starts at the current row and ends before it, or starts after it and ends
at or before it. -/
def FrameBound.outOfOrder : FrameBound → FrameBound → Bool
  | .currentRow, .preceding _ => true
  | .following _, .preceding _ => true
  | .following _, .currentRow => true
  | _, _ => false

/-- An optional `AS name` or bare name at `depth` (written or not), a name after `AS` deeper. -/
def readAlias (depth : Nat) (ts : List Token) : Except SqlError (Option String × List Token) := do
  place depth
  match ts with
  | t :: rest =>
    if t.isKeyword "AS" then
      match rest with
      | n :: after =>
        match nameOf? n with
        | some (name, _) => do
          place (depth + 1)
          .ok (some name, after)
        | none => failAt rest
      | [] => failAt rest
    else if startsWindowClause ts then .ok (none, ts)
    else match plainNameOf? t with
      | some name => .ok (some name, rest)
      | none => .ok (none, ts)
  | [] => .ok (none, ts)

/-- An optional `INDEXED BY name` or `NOT INDEXED` at stack index `depth`. -/
def readIndexHint (depth : Nat) (ts : List Token) : Except SqlError (IndexHint × List Token) := do
  place depth
  match ts with
  | t :: u :: rest =>
    if t.isKeyword "INDEXED" then
      if u.isKeyword "BY" then
        match rest with
        | n :: after =>
          match nameOf? n with
          | some (name, _) => .ok (.indexedBy name, after)
          | none => failAt rest
        | [] => failAt rest
      else failAt (u :: rest)
    else if t.isKeyword "NOT" then
      if u.isKeyword "INDEXED" then .ok (.notIndexed, rest) else failAt (u :: rest)
    else .ok (.free, ts)
  | [t] => if t.isKeyword "INDEXED" || t.isKeyword "NOT" then failAt [] else .ok (.free, ts)
  | [] => .ok (.free, ts)

/-- Whether constant as written: literals, variables, bare `TRUE`/`FALSE`, operators on
them. -/
def Expr.isConstantAsWritten : Nat → Expr → Bool
  | 0, _ => false
  | fuel + 1, e =>
    match e with
    | .literal _ | .hexLiteral _ | .variable _ => true
    | .name none n .bare => n.toUpper == "TRUE" || n.toUpper == "FALSE"
    | .unary _ a | .isNull _ a | .cast a _ | .collate a _ | .isTruth _ _ a => a.isConstantAsWritten fuel
    | .binary _ a b => a.isConstantAsWritten fuel && b.isConstantAsWritten fuel
    | .between _ a lo hi =>
      a.isConstantAsWritten fuel && lo.isConstantAsWritten fuel && hi.isConstantAsWritten fuel
    | .inList _ a items => a.isConstantAsWritten fuel && items.all (·.isConstantAsWritten fuel)
    | .vector items => items.all (·.isConstantAsWritten fuel)
    | .case operand arms otherwise =>
      (operand.all (·.isConstantAsWritten fuel)) &&
        arms.all (fun (w, t) => w.isConstantAsWritten fuel && t.isConstantAsWritten fuel) &&
        otherwise.all (·.isConstantAsWritten fuel)
    | _ => false

/-- `e IN (items)`: one constant item makes `e = +item` (unless `e` is a row value). -/
def inListOf (fuel : Nat) (negated : Bool) (e : Expr) (items : List Expr) : Expr :=
  let isRow := match e with
    | .vector _ => true
    | _ => false
  match items with
  | [item] =>
    if !isRow && item.isConstantAsWritten fuel then
      let test := Expr.binary .eq e (.unary .plus item)
      if negated then .unary .not test else test
    else .inList negated e items
  | _ => .inList negated e items

mutual

/-- An expression binding at least as tight as `level` at `depth`; `fuel` bounds nesting. -/
def readExpr : Nat → Nat → Nat → List Token → Except SqlError (Expr × List Token)
  | 0, _, _, ts => failAt ts
  | fuel + 1, level, depth, ts => do
    let (e, rest) ← readOperand fuel depth ts
    readInfix fuel level depth e rest

/-- An operand at `depth`: a prefix operator and its operand (deeper), or a primary. -/
def readOperand : Nat → Nat → List Token → Except SqlError (Expr × List Token)
  | 0, _, ts => failAt ts
  | fuel + 1, depth, ts =>
    match ts with
    | [] => failAt ts
    | t :: rest =>
      if t.isKeyword "NOT" then do
        place depth
        let (e, r) ← readExpr fuel 3 (depth + 1) rest
        .ok (← checkHeight (.unary .not e), r)
      else if t.isSymbol "-" then do
        place depth
        match rest with
        | n :: after =>
          if n.kind == .integer "9223372036854775808" then do
            place (depth + 1)
            .ok (.literal (.integer minInteger), after)
          else do
            let (e, r) ← readExpr fuel 12 (depth + 1) rest
            .ok (← checkHeight (.unary .negate e), r)
        | [] => failAt rest
      else if t.isSymbol "+" then do
        place depth
        let (e, r) ← readExpr fuel 12 (depth + 1) rest
        .ok (← checkHeight (.unary .plus e), r)
      else if t.isSymbol "~" then do
        place depth
        let (e, r) ← readExpr fuel 12 (depth + 1) rest
        .ok (← checkHeight (.unary .bitNot e), r)
      else if t.isSymbol "(" then do
        place depth
        if startsQuery rest then do
          let (q, r) ← readSelect fuel (depth + 1) rest
          match r with
          | c :: after =>
            if c.isSymbol ")" then do
              place (depth + 2)
              .ok (← checkHeight (.scalar q), after)
            else failAt r
          | [] => failAt r
        else do
          let (items, r) ← readItems fuel true (depth + 1) [] rest
          match items with
          | [e] => .ok (e, r)
          | _ => .ok (.vector items, r)
      else if t.isKeyword "CAST" then
        if !startsWithSymbol "(" rest then failAt rest
        else do
          place depth
          place (depth + 1)
          let (e, r) ← readExpr fuel 1 (depth + 2) (rest.drop 1)
          match r with
          | a :: more =>
            if a.isKeyword "AS" then do
              place (depth + 3)
              let (typeName, r) ← readTypeName (depth + 4) more
              match r with
              | c :: after =>
                if c.isSymbol ")" then do
                  place (depth + 5)
                  .ok (.cast e typeName, after)
                else failAt r
              | [] => failAt r
            else failAt r
          | [] => failAt r
      else if t.isKeyword "RAISE" then do
        place depth
        readRaise depth rest
      else if t.isKeyword "CURRENT_DATE" || t.isKeyword "CURRENT_TIME" ||
          t.isKeyword "CURRENT_TIMESTAMP" then do
        place depth
        .ok (.call t.text [] false, rest)
      else if t.isKeyword "EXISTS" then
        match rest with
        | p :: more =>
          if p.isSymbol "(" then do
            place depth
            place (depth + 1)
            let (q, r) ← readSelect fuel (depth + 2) more
            match r with
            | c :: after =>
              if c.isSymbol ")" then do
                place (depth + 3)
                .ok (← checkHeight (.exists q), after)
              else failAt r
            | [] => failAt r
          else failAt rest
        | [] => failAt rest
      else if t.isKeyword "CASE" then do
        place depth
        let (operand, r) ← if startsWithKeyword "WHEN" rest then do
            place (depth + 1)
            .ok (none, rest)
          else do
            let (e, r) ← readExpr fuel 1 (depth + 1) rest
            .ok (some e, r)
        if !startsWithKeyword "WHEN" r then failAt r
        else do
          let (arms, r) ← readArms fuel (depth + 2) [] r
          let (otherwise, r) ← if startsWithKeyword "ELSE" r then do
              place (depth + 3)
              let (e, r) ← readExpr fuel 1 (depth + 4) (r.drop 1)
              .ok (some e, r)
            else do
              place (depth + 3)
              .ok (none, r)
          match r with
          | e :: after =>
            if e.isKeyword "END" then do
              place (depth + 4)
              .ok (← checkHeight (.case operand arms otherwise), after)
            else failAt r
          | [] => failAt r
      else
        match t.kind, rest with
        | .string s, d :: more =>
          if d.isSymbol "." then do
            place depth
            readQualified depth s more
          else do
            place depth
            .ok (.literal (.text (bytesOf s)), rest)
        | _, _ =>
        match literalExpr? t with
        | some e => do
          place depth
          .ok (e, rest)
        | none =>
          match t.kind with
          | .numbered k => do
            place depth
            .ok (.variable k, rest)
          | .variable _ => .error .variableRange
          | _ =>
            match identifierOf? t with
            | none => failAt ts
            | some (n, dq) => do
              place depth
              match rest with
              | p :: more =>
                if p.isSymbol "(" then do
                  place (depth + 1)
                  let (call, r) ← readCall fuel n depth more
                  -- after `f(*)` the window or filter is one shallower than after `f(...)`
                  let suffix := if startsWithSymbol "*" more then depth + 4 else depth + 5
                  readCallSuffix fuel call suffix r
                else if p.isSymbol "." then readQualified depth n more
                else .ok (.name none n dq, rest)
              | [] => .ok (.name none n dq, [])

/-- The `WHEN … THEN …` arms of a `CASE`, the first `WHEN` at `depth`, each later deeper. -/
def readArms : Nat → Nat → List (Expr × Expr) → List Token →
    Except SqlError (List (Expr × Expr) × List Token)
  | 0, _, _, ts => failAt ts
  | fuel + 1, depth, acc, ts =>
    let w0 := if acc.isEmpty then depth else depth + 1
    match ts with
    | w :: rest =>
      if w.isKeyword "WHEN" then do
        place w0
        let (c, r) ← readExpr fuel 1 (w0 + 1) rest
        match r with
        | t :: more =>
          if t.isKeyword "THEN" then do
            place (w0 + 2)
            let (v, r) ← readExpr fuel 1 (w0 + 3) more
            readArms fuel depth (acc ++ [(c, v)]) r
          else failAt r
        | [] => failAt r
      else .ok (acc, ts)
    | [] => .ok (acc, ts)

/-- A call after its `(`, the name at `depth`: `*`, or `DISTINCT`/`ALL` and arguments. -/
def readCall : Nat → String → Nat → List Token → Except SqlError (Expr × List Token)
  | 0, _, _, ts => failAt ts
  | fuel + 1, f, depth, ts =>
    match ts with
    | [] => failAt ts
    | s :: r =>
      if s.isSymbol "*" then do
        place (depth + 2)
        match r with
        | c :: after =>
          if c.isSymbol ")" then do
            place (depth + 3)
            .ok (.call f [] false, after)
          else failAt r
        | [] => failAt r
      else do
        let distinct := s.isKeyword "DISTINCT"
        let body := if distinct || s.isKeyword "ALL" then r else ts
        place (depth + 2)
        let (args, r) ← if startsWithSymbol ")" body then do
            place (depth + 3)
            .ok ([], body)
          else readArguments fuel (depth + 3) [] body
        if args.length > maxArguments then .error (.tooManyArguments f)
        else match r with
        | c :: after =>
          if c.isSymbol ")" then do
            place (depth + 4)
            .ok (← checkHeight (.call f args distinct), after)
          else failAt r
        | [] => failAt r

/-- Arguments separated by commas, the first at `depth`, each later two deeper. -/
def readArguments : Nat → Nat → List Expr → List Token → Except SqlError (List Expr × List Token)
  | 0, _, _, ts => failAt ts
  | fuel + 1, depth, acc, ts => do
    let (e, r) ← readExpr fuel 1 (if acc.isEmpty then depth else depth + 2) ts
    match r with
    | c :: after =>
      if c.isSymbol "," then do
        place (depth + 1)
        readArguments fuel depth (acc ++ [e]) after
      else .ok (acc ++ [e], r)
    | [] => .ok (acc ++ [e], r)

/-- After a call's `)`: `FILTER (WHERE …)`, then `OVER` and a window; no `DISTINCT` window
call. -/
def readCallSuffix : Nat → Expr → Nat → List Token → Except SqlError (Expr × List Token)
  | 0, call, _, ts => .ok (call, ts)
  | fuel + 1, call, depth, ts => do
    let (filter, r) ← match ts with
      | f :: p :: w :: more =>
        if f.isKeyword "FILTER" && p.isSymbol "(" then do
          place depth
          place (depth + 1)
          if w.isKeyword "WHERE" then do
            place (depth + 2)
            let (e, r) ← readExpr fuel 1 (depth + 3) more
            match r with
            | c :: after =>
              if c.isSymbol ")" then do
                place (depth + 4)
                .ok (some e, after)
              else failAt r
            | [] => failAt r
          else failAt (ts.drop 2)
        else .ok (none, ts)
      | _ => .ok (none, ts)
    let overAt := if filter.isSome then depth + 1 else depth
    let window ← match r with
      | o :: n :: more =>
        if o.isKeyword "OVER" && n.isSymbol "(" then do
          place overAt
          place (overAt + 1)
          let (spec, r) ← readWindow fuel (overAt + 2) more
          match r with
          | c :: after =>
            if c.isSymbol ")" then do
              place (overAt + 3)
              .ok (some (spec, after))
            else failAt r
          | [] => failAt r
        else if o.isKeyword "OVER" then
          match nameOf? n with
          | some (name, _) => do
            place overAt
            place (overAt + 1)
            .ok (some ({ base := some name, named := true }, more))
          | none => .ok none
        else .ok none
      | _ => .ok none
    match call, window, filter with
    | .call f args distinct, some (spec, after), _ =>
      if distinct then .error .windowDistinct else .ok (.over f args false filter (some spec), after)
    | .call f args distinct, none, some c => .ok (.over f args distinct (some c) none, r)
    | _, _, _ => .ok (call, r)

/-- A window after its `(` from `depth`: its base window, partition, order and frame. -/
def readWindow : Nat → Nat → List Token → Except SqlError (WindowSpec × List Token)
  | 0, _, ts => failAt ts
  | fuel + 1, depth, ts => do
    let (base, r) := match ts with
      | t :: rest =>
        if t.isKeyword "PARTITION" || t.isKeyword "ORDER" || isFrameUnit t || t.isSymbol ")" then
          (none, ts)
        else match nameOf? t with
          | some (n, _) => (some n, rest)
          | none => (none, ts)
      | [] => (none, ts)
    if base.isSome then place depth
    let w := if base.isSome then depth + 1 else depth
    let (partition, r) ← match r with
      | p :: b :: more =>
        if p.isKeyword "PARTITION" then
          if b.isKeyword "BY" then do
            place w
            place (w + 1)
            readArguments fuel (w + 2) [] more
          else failAt (r.drop 1)
        else .ok ([], r)
      | _ => if startsWithKeyword "PARTITION" r then failAt (r.drop 1) else .ok ([], r)
    -- after a partition the order and the frame stand each one deeper than without
    let o := if partition.isEmpty then w else w + 3
    let (order, r) ← match r with
      | p :: b :: more =>
        if p.isKeyword "ORDER" then
          if b.isKeyword "BY" then do
            place o
            place (o + 1)
            readOrderTerms fuel (o + 2) [] more
          else failAt (r.drop 1)
        else do
          if !partition.isEmpty then place o
          .ok ([], r)
      | _ =>
        if startsWithKeyword "ORDER" r then failAt (r.drop 1)
        else do
          if !partition.isEmpty then place o
          .ok ([], r)
    let f := if !partition.isEmpty then w + 4 else if !order.isEmpty then w + 3 else w
    let (frame, r) ← readFrame fuel f r
    .ok ({ base, partition, order, frame }, r)

/-- An optional frame at `depth`: its unit, `BETWEEN` a start `AND` an end or a start alone,
then `EXCLUDE`. -/
def readFrame : Nat → Nat → List Token → Except SqlError (Option Frame × List Token)
  | 0, _, ts => failAt ts
  | fuel + 1, depth, ts => do
    place depth
    match ts with
    | u :: rest =>
      if !isFrameUnit u then .ok (none, ts)
      else do
        let unit : FrameUnit :=
          if u.isKeyword "ROWS" then .rows else if u.isKeyword "RANGE" then .range else .groups
        let (start, finish, x, r) ← if startsWithKeyword "BETWEEN" rest then do
            place (depth + 1)
            let (start, r) ← readFrameBound fuel true (depth + 2) (rest.drop 1)
            match r with
            | a :: more =>
              if a.isKeyword "AND" then do
                place (depth + 3)
                let (finish, r) ← readFrameBound fuel false (depth + 4) more
                .ok (start, finish, depth + 5, r)
              else failAt r
            | [] => failAt r
          else do
            let (start, r) ← readFrameBound fuel true (depth + 1) rest
            .ok (start, FrameBound.currentRow, depth + 2, r)
        place x
        let (exclude, r) ← match r with
          | e :: more =>
            if e.isKeyword "EXCLUDE" then
              match more with
              | a :: after =>
                if a.isKeyword "NO" then
                  if startsWithKeyword "OTHERS" after then do
                    place (x + 1)
                    place (x + 2)
                    .ok (FrameExclude.noOthers, after.drop 1)
                  else failAt after
                else if a.isKeyword "CURRENT" then
                  if startsWithKeyword "ROW" after then do
                    place (x + 1)
                    place (x + 2)
                    .ok (.currentRow, after.drop 1)
                  else failAt after
                else if a.isKeyword "GROUP" then do
                  place (x + 1)
                  .ok (.group, after)
                else if a.isKeyword "TIES" then do
                  place (x + 1)
                  .ok (.ties, after)
                else failAt more
              | [] => failAt more
            else .ok (.noOthers, r)
          | [] => .ok (.noOthers, r)
        if start.outOfOrder finish then .error .unsupportedFrame
        else .ok (some { unit, start, finish, exclude }, r)
    | [] => .ok (none, ts)

/-- A frame bound at `depth`, a start if `isStart`: `UNBOUNDED PRECEDING`/`FOLLOWING`,
`CURRENT ROW`, or an expression and direction. -/
def readFrameBound : Nat → Bool → Nat → List Token → Except SqlError (FrameBound × List Token)
  | 0, _, _, ts => failAt ts
  | fuel + 1, isStart, depth, ts =>
    match ts with
    | t :: rest =>
      if t.isKeyword "UNBOUNDED" then do
        place depth
        match rest with
        | d :: after =>
          if isStart && d.isKeyword "PRECEDING" then do
            place (depth + 1)
            .ok (.unboundedPreceding, after)
          else if !isStart && d.isKeyword "FOLLOWING" then do
            place (depth + 1)
            .ok (.unboundedFollowing, after)
          else failAt rest
        | [] => failAt rest
      else if t.isKeyword "CURRENT" then do
        place depth
        if startsWithKeyword "ROW" rest then do
          place (depth + 1)
          .ok (.currentRow, rest.drop 1)
        else failAt rest
      else do
        let (e, r) ← readExpr fuel 3 depth ts
        -- an offset that is not constant as written counts as NULL
        let e := if e.isConstantAsWritten fuel then e else .literal .null
        match r with
        | d :: after =>
          if d.isKeyword "PRECEDING" then do
            place (depth + 1)
            .ok (.preceding e, after)
          else if d.isKeyword "FOLLOWING" then do
            place (depth + 1)
            .ok (.following e, after)
          else failAt r
        | [] => failAt r
    | [] => failAt ts

/-- A `WINDOW` clause's definitions, `name AS (window)`, the first at `depth`, each later two
deeper. -/
def readWindowDefs : Nat → Nat → List (String × WindowSpec) → List Token →
    Except SqlError (List (String × WindowSpec) × List Token)
  | 0, _, _, ts => failAt ts
  | fuel + 1, depth, acc, ts =>
    let k := if acc.isEmpty then depth else depth + 2
    match ts with
    | n :: a :: p :: more =>
      match nameOf? n with
      | some (name, _) =>
        if !a.isKeyword "AS" then failAt (ts.drop 1)
        else if !p.isSymbol "(" then failAt (ts.drop 2)
        else do
          place k
          place (k + 1)
          place (k + 2)
          let (spec, r) ← readWindow fuel (k + 3) more
          match r with
          | c :: after =>
            if !c.isSymbol ")" then failAt r
            else do
              place (k + 4)
              let acc := acc ++ [(name, spec)]
              if startsWithSymbol "," after then do
                place (depth + 1)
                readWindowDefs fuel depth acc (after.drop 1)
              else .ok (acc, after)
          | [] => failAt r
      | none => failAt ts
    | _ => failAt (ts.drop (ts.length - 1 |>.min 2))

/-- `ORDER BY` terms; the first at `depth`, later ones two deeper, direction and nulls one and two
deeper. -/
def readOrderTerms : Nat → Nat → List OrderTerm → List Token →
    Except SqlError (List OrderTerm × List Token)
  | 0, _, _, ts => failAt ts
  | fuel + 1, depth, acc, ts => do
    let k := if acc.isEmpty then depth else depth + 2
    let (e, r) ← readExpr fuel 1 k ts
    place (k + 1)
    let (descending, r) := match r with
      | d :: more =>
        if d.isKeyword "DESC" then (true, more)
        else if d.isKeyword "ASC" then (false, more)
        else (false, r)
      | [] => (false, r)
    place (k + 2)
    let (nullsFirst, r) ← match r with
      | n :: more =>
        if n.isKeyword "NULLS" then
          match more with
          | f :: after =>
            if f.isKeyword "FIRST" then do
              place (k + 3)
              .ok (some true, after)
            else if f.isKeyword "LAST" then do
              place (k + 3)
              .ok (some false, after)
            else failAt more
          | [] => failAt more
        else .ok (none, r)
      | [] => .ok (none, r)
    let acc := acc ++ [{ expr := e, descending, nullsFirst }]
    match r with
    | c :: more =>
      if c.isSymbol "," then do
        place (depth + 1)
        readOrderTerms fuel depth acc more
      else .ok (acc, r)
    | [] => .ok (acc, r)

/-- A parenthesized list: first at `depth`, later two deeper; `)` one deeper, or three in a row
value. -/
def readItems : Nat → Bool → Nat → List Expr → List Token → Except SqlError (List Expr × List Token)
  | 0, _, _, _, ts => failAt ts
  | fuel + 1, rowValue, depth, acc, ts => do
    let (e, r) ← readExpr fuel 1 (if acc.isEmpty then depth else depth + 2) ts
    match r with
    | d :: more =>
      if d.isSymbol "," then do
        place (depth + 1)
        readItems fuel rowValue depth (acc ++ [e]) more
      else if d.isSymbol ")" then do
        place (if rowValue && !acc.isEmpty then depth + 3 else depth + 1)
        .ok (acc ++ [e], more)
      else failAt r
    | [] => failAt r

/-- Result columns at `depth`: each two deeper after a mark, expression four, name six. -/
def readResultColumns : Nat → Nat → List ResultColumn → List Token →
    Except SqlError (List ResultColumn × List Token)
  | 0, _, _, ts => failAt ts
  | fuel + 1, depth, acc, ts => do
    place (depth + 2)
    place (depth + 3)
    let expression := fun (ts : List Token) => do
      let (e, r) ← readExpr fuel 1 (depth + 4) ts
      place (depth + 5)
      let (asName, r) ← readAlias (depth + 6) r
      .ok (ResultColumn.expr e asName, r)
    let (column, r) ← match ts with
      | s :: rest =>
        if s.isSymbol "*" then do
          place (depth + 4)
          .ok (ResultColumn.all none, rest)
        else match nameOf? s, rest with
          | some (t, _), d :: st :: after =>
            if d.isSymbol "." && st.isSymbol "*" then do
              place (depth + 4)
              place (depth + 5)
              place (depth + 6)
              .ok (ResultColumn.all (some t), after)
            else expression ts
          | _, _ => expression ts
      | [] => failAt ts
    let acc := acc ++ [column]
    match r with
    | c :: more =>
      if c.isSymbol "," then do
        place (depth + 3)
        readResultColumns fuel depth acc more
      else .ok (acc, r)
    | [] => .ok (acc, r)

/-- A subquery from its `SELECT` at `depth`: an optional `WITH`, one arm, then compound arms. -/
def readSelect : Nat → Nat → List Token → Except SqlError (Select × List Token)
  | 0, _, ts => failAt ts
  | fuel + 1, depth, ts =>
    match ts with
    | w :: rest =>
      if w.isKeyword "WITH" then do
        place depth
        let recursive := startsWithKeyword "RECURSIVE" rest
        if recursive then place (depth + 1)
        let rest := if recursive then rest.drop 1 else rest
        let tables := if recursive then depth + 2 else depth + 1
        let (ctes, r) ← readCommonTables fuel tables [] rest
        let (q, r) ← readCompound fuel (tables + 1) r
        .ok ({ q with ctes }, r)
      else readCompound fuel depth ts
    | [] => failAt ts

/-- A query without a `WITH` clause at stack index `depth`: its arms and their
compound operators. -/
def readCompound : Nat → Nat → List Token → Except SqlError (Select × List Token)
  | 0, _, ts => failAt ts
  | fuel + 1, depth, ts => do
    let (head, r) ← readCore fuel depth ts
    readCompoundArms fuel depth { head with compound := [] } head.compound r

/-- The common tables of a `WITH` clause, the first at `depth`, each later two deeper; a name
defined once. -/
def readCommonTables : Nat → Nat → List CommonTable → List Token →
    Except SqlError (List CommonTable × List Token)
  | 0, _, _, ts => failAt ts
  | fuel + 1, depth, acc, ts =>
    let k := if acc.isEmpty then depth else depth + 2
    match ts with
    | n :: rest =>
      match nameOf? n with
      | none => failAt ts
      | some (name, _) => do
        place k
        place (k + 1)
        let (columns, r) ← if startsWithSymbol "(" rest then readNames fuel (k + 2) 2 [] (rest.drop 1)
          else .ok ([], rest)
        let r ← match r with
          | a :: more =>
            if !a.isKeyword "AS" then failAt r
            else do
              place (k + 2)
              if startsWithKeyword "MATERIALIZED" more then do
                place (k + 3)
                .ok (more.drop 1)
              else match more with
                | x :: y :: after =>
                  if x.isKeyword "NOT" then
                    if y.isKeyword "MATERIALIZED" then do
                      place (k + 3)
                      place (k + 4)
                      .ok after
                    else failAt (more.drop 1)
                  else .ok more
                | _ => .ok more
          | [] => failAt r
        match r with
        | p :: more =>
          if !p.isSymbol "(" then failAt r
          else do
            place (k + 3)
            let (query, r) ← readSelect fuel (k + 4) more
            match r with
            | c :: after =>
              if !c.isSymbol ")" then failAt r
              else if acc.any (·.name.toLower == name.toLower) then .error (.duplicateWithName name)
              else do
                place (k + 5)
                let acc := acc ++ [{ name, columns, query }]
                if startsWithSymbol "," after then do
                  place (depth + 1)
                  readCommonTables fuel depth acc (after.drop 1)
                else .ok (acc, after)
            | [] => failAt r
        | [] => failAt r
    | [] => failAt ts

/-- Arms after a compound's first (operators one deeper, arms two); the last arm's order and
window are the whole's. -/
def readCompoundArms : Nat → Nat → Select → List (CompoundOp × Select) → List Token →
    Except SqlError (Select × List Token)
  | 0, _, _, _, ts => failAt ts
  | fuel + 1, depth, head, arms, ts =>
    match compoundOpAt? ts with
    | some (op, rest) => do
      place (depth + 1)
      if op == .unionAll then place (depth + 2)
      let (core, r) ← readCore fuel (depth + 2) rest
      readCompoundArms fuel depth head (arms ++ [(op, { core with compound := [] })] ++ core.compound) r
    | none =>
      match arms.getLast? with
      | none => .ok (head, ts)
      | some (_, last) =>
        let before := (head :: arms.map (·.2)).zip (arms.map (·.1))
        match before.reverse.find? fun (q, _) => !q.order.isEmpty || q.limit.isSome with
        | some (q, op) => .error (.clauseOrder (if q.order.isEmpty then "LIMIT" else "ORDER BY") op)
        | none =>
          let bare := fun (q : Select) => { q with order := [], limit := none, offset := none }
          .ok ({ head with compound := arms.map fun (op, q) => (op, bare q),
                           order := last.order, limit := last.limit, offset := last.offset }, ts)

/-- One arm from its `SELECT` at `depth`: each clause, written or not, one deeper. -/
def readCore : Nat → Nat → List Token → Except SqlError (Select × List Token)
  | 0, _, ts => failAt ts
  | fuel + 1, depth, ts =>
    match ts with
    | s :: rest =>
      if s.isKeyword "VALUES" then do
        place depth
        readValues fuel depth [] rest
      else if !s.isKeyword "SELECT" then failAt ts
      else do
        place depth
        let distinct := startsWithKeyword "DISTINCT" rest
        let rest := if distinct || startsWithKeyword "ALL" rest then rest.drop 1 else rest
        place (depth + 1)
        let (columns, r) ← readResultColumns fuel depth [] rest
        place (depth + 3)
        let (source, r) ← if startsWithKeyword "FROM" r then do
            let (item, r) ← readFromClause fuel (depth + 4) (r.drop 1)
            .ok (some item, r)
          else .ok (none, r)
        place (depth + 4)
        let (filter, r) ← if startsWithKeyword "WHERE" r then do
            let (e, r) ← readExpr fuel 1 (depth + 5) (r.drop 1)
            .ok (some e, r)
          else .ok (none, r)
        let (group, r) ← match r with
          | g :: b :: more =>
            if g.isKeyword "GROUP" then
              if b.isKeyword "BY" then do
                place (depth + 5)
                place (depth + 6)
                readArguments fuel (depth + 7) [] more
              else failAt (r.drop 1)
            else .ok ([], r)
          | _ => if startsWithKeyword "GROUP" r then failAt (r.drop 1) else .ok ([], r)
        place (depth + 5)
        place (depth + 6)
        let (having, r) ← if startsWithKeyword "HAVING" r then do
            let (e, r) ← readExpr fuel 1 (depth + 7) (r.drop 1)
            .ok (some e, r)
          else .ok (none, r)
        let (windows, r) ← if startsWindowClause r then do
            place (depth + 7)
            readWindowDefs fuel (depth + 8) [] (r.drop 1)
          else .ok ([], r)
        let o := if windows.isEmpty then depth + 7 else depth + 8
        place o
        let (order, r) ← match r with
          | p :: b :: more =>
            if p.isKeyword "ORDER" then
              if b.isKeyword "BY" then do
                place (o + 1)
                readOrderTerms fuel (o + 2) [] more
              else failAt (r.drop 1)
            else .ok ([], r)
          | _ => if startsWithKeyword "ORDER" r then failAt (r.drop 1) else .ok ([], r)
        place (o + 1)
        let (limit, offset, r) ← if startsWithKeyword "LIMIT" r then do
            let (lim, r) ← readExpr fuel 1 (o + 2) (r.drop 1)
            match r with
            | x :: more =>
              if x.isKeyword "OFFSET" then do
                place (o + 3)
                let (off, r) ← readExpr fuel 1 (o + 4) more
                .ok (some lim, some off, r)
              else if x.isSymbol "," then do
                place (o + 3)
                let (count, r) ← readExpr fuel 1 (o + 4) more
                .ok (some count, some lim, r)
              else .ok (some lim, none, r)
            | [] => .ok (some lim, none, r)
          else .ok (none, none, r)
        checkWindowHeight limit offset
        .ok ({ distinct, columns, source, filter, group, having, windows, order, limit, offset }, r)
    | [] => failAt ts

/-- `VALUES` rows at `depth`: first one deeper, later two; more rows are `UNION ALL` arms. -/
def readValues : Nat → Nat → List (List Expr) → List Token → Except SqlError (Select × List Token)
  | 0, _, _, ts => failAt ts
  | fuel + 1, depth, acc, ts =>
    let p0 := if acc.isEmpty then depth + 1 else depth + 2
    match ts with
    | p :: rest =>
      if !p.isSymbol "(" then failAt ts
      else do
        place p0
        let (items, r) ← readItems fuel false (p0 + 1) [] rest
        let acc := acc ++ [items]
        if startsWithSymbol "," r then do
          place (depth + 1)
          readValues fuel depth acc (r.drop 1)
        else
          let arm := fun (row : List Expr) =>
            ({ columns := row.map (ResultColumn.expr · none), isValues := true } : Select)
          match acc with
          | first :: more =>
            .ok ({ arm first with compound := more.map fun row => (CompoundOp.unionAll, arm row) }, r)
          | [] => failAt r
    | [] => failAt ts

/-- A `FROM` clause at `depth`: sources joined from the left; no constraint on the first. -/
def readFromClause : Nat → Nat → List Token → Except SqlError (FromItem × List Token)
  | 0, _, ts => failAt ts
  | fuel + 1, depth, ts => do
    place depth
    let (first, constraint, r) ← readFromItem fuel (depth + 1) ts
    let (on, usingColumns, r) ← readJoinConstraint fuel constraint r
    if on.isSome then .error (.joinConstraintFirst "ON")
    else if !usingColumns.isEmpty then .error (.joinConstraintFirst "USING")
    else readJoins fuel depth first r

/-- The sources joined after the first; the sources before at `depth`, operator and source one
deeper. -/
def readJoins : Nat → Nat → FromItem → List Token → Except SqlError (FromItem × List Token)
  | 0, _, left, ts => .ok (left, ts)
  | fuel + 1, depth, left, ts => do
    match ← readJoinOperator (depth + 1) ts with
    | none => .ok (left, ts)
    | some (kind, natural, r) => do
      let (right, constraint, r) ← readFromItem fuel (depth + 1) r
      let right := match right with
        | .join .. => .subquery { columns := [.all none], source := some right } none
        | _ => right
      let (on, usingColumns, r) ← readJoinConstraint fuel constraint r
      readJoins fuel depth (.join left kind natural right on usingColumns) r

/-- An optional `ON` expression or `USING (names)` at `depth`, written or not. -/
def readJoinConstraint : Nat → Nat → List Token →
    Except SqlError (Option Expr × List String × List Token)
  | 0, _, ts => .ok (none, [], ts)
  | fuel + 1, depth, ts => do
    place depth
    match ts with
    | t :: rest =>
      if t.isKeyword "ON" then do
        let (e, r) ← readExpr fuel 1 (depth + 1) rest
        .ok (some e, [], r)
      else if t.isKeyword "USING" then
        match rest with
        | p :: more =>
          if p.isSymbol "(" then do
            place (depth + 1)
            let (names, r) ← readNames fuel (depth + 2) 0 [] more
            .ok (none, names, r)
          else failAt rest
        | [] => failAt rest
      else .ok (none, [], ts)
    | [] => .ok (none, [], ts)

/-- Comma-separated names up to `)`; the first at `depth`, later two deeper after `marks`
marks. -/
def readNames : Nat → Nat → Nat → List String → List Token →
    Except SqlError (List String × List Token)
  | 0, _, _, _, ts => failAt ts
  | fuel + 1, depth, marks, acc, ts =>
    let k := if acc.isEmpty then depth else depth + 2
    match ts with
    | n :: rest =>
      match nameOf? n with
      | some (name, _) => do
        place (k + marks)
        match rest with
        | d :: more =>
          if d.isSymbol "," then do
            place (depth + 1)
            readNames fuel depth marks (acc ++ [name]) more
          else if d.isSymbol ")" then do
            place (depth + 1)
            .ok (acc ++ [name], more)
          else failAt rest
        | [] => failAt rest
      | none => failAt ts
    | [] => failAt ts

/-- A `FROM` source at `depth`: a subquery, or a name with table function arguments; an alias;
its constraint index. -/
def readFromItem : Nat → Nat → List Token → Except SqlError (FromItem × Nat × List Token)
  | 0, _, ts => failAt ts
  | fuel + 1, depth, ts =>
    match ts with
    | p :: rest =>
      if p.isSymbol "(" then do
        place depth
        if startsQuery rest then do
          let (q, r) ← readSelect fuel (depth + 1) rest
          match r with
          | c :: after =>
            if c.isSymbol ")" then do
              place (depth + 2)
              let (asName, after) ← readAlias (depth + 3) after
              .ok (.subquery q asName, depth + 4, after)
            else failAt r
          | [] => failAt r
        else do
          -- sources in parentheses: a join under an alias reads as a subquery of all its columns
          let (inner, r) ← readFromClause fuel (depth + 1) rest
          match r with
          | c :: after =>
            if c.isSymbol ")" then do
              place (depth + 2)
              let (asName, after) ← readAlias (depth + 3) after
              let item := match asName, inner with
                | none, _ => inner
                | some a, .table schema name _ hint => .table schema name (some a) hint
                | some a, .function schema name args _ => .function schema name args (some a)
                | some a, .subquery q _ => .subquery q (some a)
                | some a, join => .subquery { columns := [.all none], source := some join } (some a)
              .ok (item, depth + 4, after)
            else failAt r
          | [] => failAt r
      else
        match nameOf? p with
        | none => failAt ts
        | some (first, _) => do
          place depth
          let ((schema, table, args), after) ← readTableCall fuel first depth rest
          -- the alias follows the name, or the arguments' closing parenthesis
          let a := if args.isSome then depth + 5 else depth + 2
          let (asName, after) ← readAlias a after
          match args with
          | some _ => .ok (FromItem.named schema table args asName, a + 1, after)
          | none => do
            let (hint, after) ← readIndexHint (a + 1) after
            .ok (.table schema table asName hint, a + 2, after)
    | [] => failAt ts

/-- A table name's rest at `depth`, then arguments: `(` two deeper, arguments three, `)` four. -/
def readTableCall : Nat → String → Nat → List Token →
    Except SqlError ((Option String × String × Option (List Expr)) × List Token)
  | 0, _, _, ts => failAt ts
  | fuel + 1, first, depth, ts => do
    let (schema, table, after) ← readTableName depth first ts
    place (depth + 2)
    match after with
    | o :: body =>
      if o.isSymbol "(" then do
        let (args, r) ← if startsWithSymbol ")" body then do
            place (depth + 3)
            .ok ([], body)
          else readArguments fuel (depth + 3) [] body
        match r with
        | c :: more =>
          if c.isSymbol ")" then do
            place (depth + 4)
            .ok ((schema, table, some args), more)
          else failAt r
        | [] => failAt r
      else .ok ((schema, table, none), after)
    | [] => .ok ((schema, table, none), after)

/-- Operators after an expression at `depth` binding at least as tight as `level`; operands two
deeper. -/
def readInfix : Nat → Nat → Nat → Expr → List Token → Except SqlError (Expr × List Token)
  | 0, _, _, e, ts => .ok (e, ts)
  | fuel + 1, level, depth, e, ts =>
    match ts with
    | [] => .ok (e, [])
    | t :: rest =>
      if t.isKeyword "COLLATE" then
        if level > 11 then .ok (e, ts)
        else match rest with
          | c :: after =>
            match plainNameOf? c with
            | some n => do
              place (depth + 1)
              place (depth + 2)
              readInfix fuel level depth (.collate e n) after
            | none => failAt rest
          | [] => failAt rest
      else if level > 4 then
        match binaryLevel? t with
        | some (l, make) =>
          if l ≥ level then do
            place (depth + 1)
            let (b, r) ← readExpr fuel (l + 1) (depth + 2) rest
            readInfix fuel level depth (← checkHeight (make e b)) r
          else .ok (e, ts)
        | none => .ok (e, ts)
      else if t.isKeyword "ISNULL" then do
        place (depth + 1)
        readInfix fuel level depth (← checkHeight (.isNull false e)) rest
      else if t.isKeyword "NOTNULL" then do
        place (depth + 1)
        readInfix fuel level depth (← checkHeight (.isNull true e)) rest
      else if t.isKeyword "IS" then do
        place (depth + 1)
        match rest with
        | n :: more =>
          if n.isKeyword "NOT" then do
            place (depth + 2)
            match more with
            | d :: f :: after =>
              if d.isKeyword "DISTINCT" && f.isKeyword "FROM" then do
                place (depth + 3)
                place (depth + 4)
                let (b, r) ← readExpr fuel 5 (depth + 5) after
                readInfix fuel level depth (← checkHeight (isTest false e b)) r
              else do
                let (b, r) ← readExpr fuel 5 (depth + 3) more
                readInfix fuel level depth (← checkHeight (isTest true e b)) r
            | _ => do
              let (b, r) ← readExpr fuel 5 (depth + 3) more
              readInfix fuel level depth (← checkHeight (isTest true e b)) r
          else if n.isKeyword "DISTINCT" then
            match more with
            | f :: after =>
              if f.isKeyword "FROM" then do
                place (depth + 2)
                place (depth + 3)
                let (b, r) ← readExpr fuel 5 (depth + 4) after
                readInfix fuel level depth (← checkHeight (isTest true e b)) r
              else failAt more
            | [] => failAt more
          else do
            let (b, r) ← readExpr fuel 5 (depth + 2) rest
            readInfix fuel level depth (← checkHeight (isTest false e b)) r
        | [] => failAt rest
      else if t.isKeyword "NOT" then
        match rest with
        | n :: more =>
          if n.isKeyword "NULL" then do
            place (depth + 1)
            place (depth + 2)
            readInfix fuel level depth (← checkHeight (.isNull true e)) more
          else do
            place (depth + 1)
            readNegatable fuel level true depth e rest
        | [] => failAt rest
      else if t.isPatternWord || t.isKeyword "BETWEEN" || t.isKeyword "IN" then
        readNegatable fuel level false depth e ts
      else
        match binaryLevel? t with
        | some (l, make) =>
          if l ≥ level then do
            place (depth + 1)
            let (b, r) ← readExpr fuel (l + 1) (depth + 2) rest
            readInfix fuel level depth (← checkHeight (make e b)) r
          else .ok (e, ts)
        | none => .ok (e, ts)

/-- `LIKE`, `GLOB`, `REGEXP`, `MATCH`, `BETWEEN`, `IN` at `depth`, after an optional `NOT`; the
rest two deeper. -/
def readNegatable : Nat → Nat → Bool → Nat → Expr → List Token → Except SqlError (Expr × List Token)
  | 0, _, _, _, _, ts => failAt ts
  | fuel + 1, level, negated, depth, e, ts =>
    let word := if negated then depth + 2 else depth + 1
    match ts with
    | t :: rest =>
      if t.isPatternWord then do
        place word
        let (pattern, r) ← readExpr fuel 5 (depth + 2) rest
        match r with
        | x :: more =>
          if x.isKeyword "ESCAPE" then do
            place (depth + 3)
            let (esc, r) ← readExpr fuel 7 (depth + 4) more
            readInfix fuel level depth (← checkHeight (.like negated t.text e pattern (some esc))) r
          else readInfix fuel level depth (← checkHeight (.like negated t.text e pattern none)) r
        | [] => readInfix fuel level depth (← checkHeight (.like negated t.text e pattern none)) r
      else if t.isKeyword "BETWEEN" then do
        place word
        -- the lower bound takes every operator that binds tighter than `AND`; after an `OR`
        -- every `AND` belongs to it, so the bound never ends
        let (lo, r) ← readExpr fuel 3 (depth + 2) rest
        match r with
        | a :: more =>
          if a.isKeyword "AND" then do
            place (depth + 3)
            let (hi, r) ← readExpr fuel 5 (depth + 4) more
            readInfix fuel level depth (← checkHeight (.between negated e lo hi)) r
          else if a.isKeyword "OR" then do
            place (depth + 3)
            let (_, r) ← readExpr fuel 1 (depth + 4) more
            failAt r
          else failAt r
        | [] => failAt r
      else if t.isKeyword "IN" then do
        place word
        match rest with
        | p :: more =>
          if p.isSymbol "(" then do
            place (depth + 2)
            if startsQuery more then do
              let (q, r) ← readSelect fuel (depth + 3) more
              match r with
              | c :: after =>
                if c.isSymbol ")" then do
                  place (depth + 4)
                  readInfix fuel level depth (← checkHeight (.inSelect negated e q)) after
                else failAt r
              | [] => failAt r
            else if startsWithSymbol ")" more then do
              place (depth + 3)
              place (depth + 4)
              -- an empty list makes the test a constant, and its subject is dropped
              readInfix fuel level depth (.literal (.integer (if negated then 1 else 0))) (more.drop 1)
            else do
              let (items, r) ← readItems fuel false (depth + 3) [] more
              -- a list of one subquery tests the subquery's rows
              let test := match items with
                | [.scalar q] => .inSelect negated e q
                | _ => inListOf fuel negated e items
              readInfix fuel level depth (← checkHeight test) r
          else match nameOf? p with
            | some (first, _) => do
              place (depth + 2)
              -- a table or a table-valued function: every column of it is the list
              let ((schema, table, args), r) ← readTableCall fuel first (depth + 2) more
              let q : Select :=
                { columns := [.all none], source := some (FromItem.named schema table args none) }
              readInfix fuel level depth (← checkHeight (.inSelect negated e q)) r
            | none => failAt rest
        | [] => failAt rest
      else failAt ts
    | [] => failAt ts

end

/-- The fuel for reading the expressions of a token list. -/
def exprFuel (ts : List Token) : Nat := 4 * ts.length + 8

/-- Depths after `FROM`: `WHERE` five, its expression six, `GROUP BY`/`HAVING` six and seven,
`ORDER BY` eight, `LIMIT` nine. -/
def tailWhereDepth : Nat := 5

/-- The end of the statement: nothing, or `;` and what follows it. -/
def readEnd (tail : QueryTail) (ts : List Token) : Except SqlError QueryTail :=
  match ts with
  | [] => .ok tail
  | t :: rest =>
    if t.kind == .semicolon then
      .ok { tail with trailing := !rest.isEmpty }
    else failAt ts

/-- `LIMIT` and what follows it, `LIMIT` standing at stack index `depth`. -/
def readLimit (depth : Nat) (tail : QueryTail) (ts : List Token) : Except SqlError QueryTail :=
  match ts with
  | t :: rest =>
    if t.isKeyword "LIMIT" then do
      place depth
      let (lim, r) ← readExpr (exprFuel rest) 1 (depth + 1) rest
      let (limit, offset, r) ← match r with
        | o :: more =>
          if o.isKeyword "OFFSET" then do
            place (depth + 2)
            let (off, r) ← readExpr (exprFuel more) 1 (depth + 3) more
            .ok (lim, some off, r)
          else if o.isSymbol "," then do
            place (depth + 2)
            let (count, r) ← readExpr (exprFuel more) 1 (depth + 3) more
            .ok (count, some lim, r)
          else .ok (lim, none, r)
        | [] => .ok (lim, none, r)
      checkWindowHeight (some limit) offset
      readEnd { tail with limit := some limit, offset } r
    else readEnd tail ts
  | [] => .ok tail

/-- `ORDER BY` and what follows it, `ORDER` standing at stack index `depth`. -/
def readOrder (depth : Nat) (tail : QueryTail) (ts : List Token) : Except SqlError QueryTail :=
  match ts with
  | t :: rest =>
    if t.isKeyword "ORDER" then
      match rest with
      | b :: more =>
        if b.isKeyword "BY" then do
          place depth
          place (depth + 1)
          let (terms, r) ← readOrderTerms (exprFuel more) (depth + 2) [] more
          readLimit (depth + 1) { tail with order := terms } r
        else failAt rest
      | [] => failAt rest
    else readLimit (depth + 1) tail ts
  | [] => .ok tail

/-- Reads the part of a query after its `FROM` clause. -/
def readQueryTail (ts : List Token) : Except SqlError QueryTail :=
  let orderDepth := tailWhereDepth + 3
  match ts with
  | t :: rest =>
    if t.isKeyword "WHERE" then do
      place tailWhereDepth
      let (e, r) ← readExpr (exprFuel rest) 1 (tailWhereDepth + 1) rest
      readOrder orderDepth { filter := some e } r
    else readOrder orderDepth {} ts
  | [] => .ok {}

end PackageRegistry.Sql
