import PackageRegistry.Text.Word
/-!
# Named binds

Query text names bound values `:name`; each bind becomes `?`, values passed in order. The first
bind without a value is reported.
-/

namespace PackageRegistry.Sql

open PackageRegistry.Text

/-- The name of a bind whose colon is followed by `rest`: the longest run of word characters
not followed by a colon, which may be empty. -/
def bindName (rest : List Char) : List Char :=
  let run := rest.takeWhile isWordChar
  if (rest.drop run.length).head? == some ':' then run.dropLast else run

/-- Whether a colon after this character (none: at the start) can open a bind. -/
def opensBind : Option Char → Bool
  | some p => !(p == ':' || isWordChar p || p == '\\')
  | none => true

/-- A text's binds replaced by `?` after character `prev`: the new text and the bind names in
order. -/
def replaceBinds (prev : Option Char) (cs : List Char) : List Char × List String :=
  match cs with
  | [] => ([], [])
  | c :: rest =>
    let name := bindName rest
    if c == ':' && opensBind prev && !name.isEmpty then
      let (text, names) := replaceBinds name.getLast? (rest.drop name.length)
      ('?' :: text, String.ofList name :: names)
    else
      let (text, names) := replaceBinds (some c) rest
      (c :: text, names)
termination_by cs.length
decreasing_by
  all_goals simp only [List.length_cons, List.length_drop]
  all_goals omega

/-- Whether a character continues the run after an escaped colon: a word character or `$`. -/
def isEscapeRunChar (c : Char) : Bool := isWordChar c || c == '$'

/-- Drops each backslash that escapes a colon: one followed by a colon whose run of word
characters and `$` is not followed by another colon. -/
def dropColonEscapes : List Char → List Char
  | [] => []
  | c :: rest =>
    if c == '\\' && rest.head? == some ':' &&
        ((rest.drop 1).dropWhile isEscapeRunChar).head? != some ':' then
      dropColonEscapes rest
    else c :: dropColonEscapes rest

/-- The text the engine reads for a text with named binds, and the bind names in order. -/
def positionalBinds (text : String) : String × List String :=
  let (cs, names) := replaceBinds none text.toList
  (String.ofList (dropColonEscapes cs), names)

/-- The values of named binds in order, or the first name that has no value. -/
def bindValues {α : Type} (values : List (String × α)) : List String → Except String (List α)
  | [] => .ok []
  | n :: rest =>
    match values.lookup n with
    | some v => do
      let vs ← bindValues values rest
      .ok (v :: vs)
    | none => .error n

end PackageRegistry.Sql
