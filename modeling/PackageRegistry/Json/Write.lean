import PackageRegistry.Json.Value
import PackageRegistry.Decimal.Format
import PackageRegistry.Text.Quoted
/-!
# Writing JSON

JSON text inline (`, ` and `: `) or indented by two, escaping outside printable ASCII when asked.
Doubles take their shortest digits, or `NaN`, `Infinity`, `-Infinity`.
-/

namespace PackageRegistry

open PackageRegistry.Decimal PackageRegistry.Text

namespace Json

/-- The `\uhhhh` escape of a code unit. -/
def unitEscape (u : Nat) : List Char :=
  '\\' :: 'u' :: hexPadded 4 u

/-- One character of a string as written: with `ascii` all outside printable ASCII escaped, else
only controls and surrogate stand-ins. -/
def escapeChar (ascii : Bool) (c : Char) : List Char :=
  match c with
  | '"' => ['\\', '"']
  | '\\' => ['\\', '\\']
  | '\n' => ['\\', 'n']
  | '\r' => ['\\', 'r']
  | '\t' => ['\\', 't']
  | '\x08' => ['\\', 'b']
  | '\x0c' => ['\\', 'f']
  | c =>
    let n := c.toNat
    if let some u := standInUnit? c then unitEscape u
    else if 0x20 ≤ n ∧ (n ≤ 0x7E ∨ !ascii) then [c]
    else if n < 0x10000 then unitEscape n
    else
      let v := n - 0x10000
      unitEscape (0xD800 + v / 0x400) ++ unitEscape (0xDC00 + v % 0x400)

/-- A string as a JSON string literal, escaped as `escapeChar ascii` says. -/
def quote (ascii : Bool) (s : String) : String :=
  String.ofList ('"' :: s.toList.flatMap (escapeChar ascii) ++ ['"'])

/-- The text of a scalar value, strings escaped as `escapeChar ascii` says; containers are
written by the layouts. -/
def scalarText (ascii : Bool) : Json → String
  | .null => "null"
  | .bool true => "true"
  | .bool false => "false"
  | .int n => toString n
  | .float x => formatFloat .document x
  | .str s => quote ascii s
  | .arr _ => "[]"
  | .obj _ => "\x7b\x7d"

/-- The indentation of a nesting depth: two spaces per level. -/
def indentOf (depth : Nat) : String :=
  String.ofList (List.replicate (2 * depth) ' ')

mutual

/-- Inline JSON text: `[1, 2]`, `{"a": 1}`. -/
def compact : Json → String
  | .arr items => "[" ++ compactItems items ++ "]"
  | .obj members => "\x7b" ++ compactMembers members ++ "\x7d"
  | j => scalarText true j

/-- Inline array items, separated by `, `. -/
def compactItems : List Json → String
  | [] => ""
  | [j] => compact j
  | j :: rest => compact j ++ ", " ++ compactItems rest

/-- Inline object members, separated by `, `. -/
def compactMembers : List (String × Json) → String
  | [] => ""
  | [(k, v)] => quote true k ++ ": " ++ compact v
  | (k, v) :: rest => quote true k ++ ": " ++ compact v ++ ", " ++ compactMembers rest

end

mutual

/-- JSON indented by two per level from `depth`, strings escaped by `escapeChar ascii`. -/
def pretty (ascii : Bool) (depth : Nat) : Json → String
  | .arr [] => "[]"
  | .obj [] => "\x7b\x7d"
  | .arr items => "[\n" ++ prettyItems ascii (depth + 1) items ++ "\n" ++ indentOf depth ++ "]"
  | .obj members =>
    "\x7b\n" ++ prettyMembers ascii (depth + 1) members ++ "\n" ++ indentOf depth ++ "\x7d"
  | j => scalarText ascii j

/-- Indented array items at nesting `depth`, one per line. -/
def prettyItems (ascii : Bool) (depth : Nat) : List Json → String
  | [] => ""
  | [j] => indentOf depth ++ pretty ascii depth j
  | j :: rest => indentOf depth ++ pretty ascii depth j ++ ",\n" ++ prettyItems ascii depth rest

/-- Indented object members at nesting `depth`, one per line. -/
def prettyMembers (ascii : Bool) (depth : Nat) : List (String × Json) → String
  | [] => ""
  | [(k, v)] => indentOf depth ++ quote ascii k ++ ": " ++ pretty ascii depth v
  | (k, v) :: rest =>
    indentOf depth ++ quote ascii k ++ ": " ++ pretty ascii depth v ++ ",\n" ++
      prettyMembers ascii depth rest

end

/-- Whether a value counts as present: not null, false, zero, empty text or an empty
container. -/
def isTruthy : Json → Bool
  | .null => false
  | .bool b => b
  | .int n => n != 0
  | .float x => !(x == 0.0)
  | .str s => !s.isEmpty
  | .arr items => !items.isEmpty
  | .obj members => !members.isEmpty

mutual

/-- A value's literal form as a message shows it: `None`, `True`, numbers, quoted texts, lists
and dictionaries. -/
def literal : Json → String
  | .null => "None"
  | .bool true => "True"
  | .bool false => "False"
  | .int n => toString n
  | .float x => formatFloat .literal x
  | .str s => quoted s
  | .arr items => "[" ++ literalItems items ++ "]"
  | .obj members => "\x7b" ++ literalMembers members ++ "\x7d"

/-- Literal items, separated by `, `. -/
def literalItems : List Json → String
  | [] => ""
  | [j] => literal j
  | j :: rest => literal j ++ ", " ++ literalItems rest

/-- Literal members, separated by `, `. -/
def literalMembers : List (String × Json) → String
  | [] => ""
  | [(k, v)] => quoted k ++ ": " ++ literal v
  | (k, v) :: rest => quoted k ++ ": " ++ literal v ++ ", " ++ literalMembers rest

end

end Json

end PackageRegistry
