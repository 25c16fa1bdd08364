import PackageRegistry.Toml.Value
import PackageRegistry.Text.Quoted
import PackageRegistry.Decimal.Format
/-!
# Writing TOML

A document of tables of plain values, each a `[name]` header with `key = value` lines. Texts are
basic strings with escapes; floats take their shortest round-trip digits.
-/

namespace PackageRegistry.Toml

open PackageRegistry.Text PackageRegistry.Decimal

/-- The escape of a character in a basic string, or none when it is written as it is. -/
def basicEscape? (c : Char) : Option String :=
  match c with
  | '\x08' => some "\\b"
  | '\n' => some "\\n"
  | '\x0c' => some "\\f"
  | '\r' => some "\\r"
  | '"' => some "\\\""
  | '\\' => some "\\\\"
  | _ =>
    if (c.toNat < 32 && c != '\t') || c.toNat == 127 then
      some ("\\u" ++ String.ofList (hexPadded 4 c.toNat))
    else none

def basicStringText (s : String) : String :=
  "\"" ++ String.join (s.toList.map fun c => (basicEscape? c).getD c.toString) ++ "\""

/-- A key, bare when it can be. -/
def keyText (k : String) : String :=
  if !k.isEmpty && k.toList.all (fun c => c.isAlphanum || c == '-' || c == '_') then k
  else basicStringText k

def twoDigits (n : Nat) : String := if n < 10 then "0" ++ toString n else toString n

def CalendarDate.text (d : CalendarDate) : String :=
  let y := toString d.year
  String.ofList (List.replicate (4 - y.length) '0') ++ y ++ "-" ++ twoDigits d.month ++ "-" ++
    twoDigits d.day

/-- A time as `HH:MM:SS`, with `.ffffff` when there are microseconds. -/
def ClockTime.text (t : ClockTime) : String :=
  let base := twoDigits t.hour ++ ":" ++ twoDigits t.minute ++ ":" ++ twoDigits t.second
  if t.micro == 0 then base
  else
    let m := toString t.micro
    base ++ "." ++ String.ofList (List.replicate (6 - m.length) '0') ++ m

/-- An offset as `+HH:MM`, `Z` written as `+00:00`. -/
def UtcOffset.text : UtcOffset → String
  | .utc => "+00:00"
  | .shift negative h m => (if negative then "-" else "+") ++ twoDigits h ++ ":" ++ twoDigits m

mutual

def valueText : TomlValue → String
  | .string s => basicStringText s
  | .integer n => toString n
  | .float x => formatFloat .literal x
  | .boolean b => if b then "true" else "false"
  | .dateTime d t o => d.text ++ " " ++ t.text ++ ((o.map UtcOffset.text).getD "")
  | .date d => d.text
  | .time t => t.text
  | .array [] => "[]"
  | .array items => "[\n" ++ itemsText items ++ "]"
  | .table members => "\x7b " ++ membersText members ++ " \x7d"

/-- The items of a non-empty array, one per indented line, each followed by a comma. -/
def itemsText : List TomlValue → String
  | [] => ""
  | v :: rest => "    " ++ valueText v ++ ",\n" ++ itemsText rest

/-- The members of an inline table. -/
def membersText : List (String × TomlValue) → String
  | [] => ""
  | [(k, v)] => keyText k ++ " = " ++ valueText v
  | (k, v) :: rest => keyText k ++ " = " ++ valueText v ++ ", " ++ membersText rest

end

def memberLines (members : TomlTable) : String :=
  String.join (members.map fun (k, v) => keyText k ++ " = " ++ valueText v ++ "\n")

/-- A document of tables: each a header and its lines, separated by empty lines. -/
def writeTables (tables : List (String × TomlTable)) : String :=
  "\n".intercalate (tables.map fun (name, members) => "[" ++ keyText name ++ "]\n" ++
    memberLines members)

end PackageRegistry.Toml
