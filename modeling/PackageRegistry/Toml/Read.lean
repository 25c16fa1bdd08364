import PackageRegistry.Toml.Namespace
import PackageRegistry.Toml.Literal
/-!
# Reading a TOML document

A document is read a statement at a time: blank lines, comments, pairs, and table and array
headers. No table is declared twice, no key defined twice, inline values never changed.
Failures carry `(at line L, column C)`; reading is bounded at depth 1000.
-/

namespace PackageRegistry.Toml

open PackageRegistry.Text

/-! ## Values

A value is read at some level, what it holds further down: an array's routine a level below,
skipping gaps a level below that and reading items at that level; an inline table's a level
below, its set-up a built-in step and a routine below, its pairs a level below its routine; a
pair's key and value a level below the pair; a string a level below, after a built-in check of
its quotes; a shaped value as `shapedValue` says.
-/

mutual

/-- A value at level `depth`; `fuel` bounds nesting and items, twice the text length being
enough. -/
def readValue : Nat → Nat → List Char → Reading (TomlValue × List Char)
  | 0, _, cs => faultAt "Invalid value" cs
  | fuel + 1, depth, cs => do
    within depth .routine
    match cs with
    | '[' :: rest => do
      within (depth + 1) .routine
      let r ← skipAllGaps (depth + 2) rest
      match r with
      | ']' :: after => .ok (.array [], after)
      | _ => readItems fuel (depth + 1) [] r
    | '{' :: rest => do
      within (depth + 1) .routine
      within (depth + 2) .builtin
      within (depth + 3) .routine
      match rest.dropWhile isLineBlank with
      | '}' :: after => .ok (.table [], after)
      | r => readMembers fuel (depth + 1) [] [] r
    | '"' :: '"' :: '"' :: rest => do
      within (depth + 1) .builtin
      let (s, r) ← multilineBasicString (depth + 1) rest
      .ok (.string s, r)
    | '"' :: rest => do
      within (depth + 1) .builtin
      let (s, r) ← lineBasicString (depth + 1) rest
      .ok (.string s, r)
    | '\'' :: '\'' :: '\'' :: rest => do
      within (depth + 1) .builtin
      let (s, r) ← multilineLiteralString (depth + 1) rest
      .ok (.string s, r)
    | '\'' :: rest => do
      within (depth + 1) .builtin
      let (s, r) ← literalString (depth + 1) rest
      .ok (.string s, r)
    | 't' :: 'r' :: 'u' :: 'e' :: rest => do
      within (depth + 1) .builtin
      .ok (.boolean true, rest)
    | 'f' :: 'a' :: 'l' :: 's' :: 'e' :: rest => do
      within (depth + 1) .builtin
      .ok (.boolean false, rest)
    | [] => do
      within (depth + 1) .comparison
      faultFrom depth "Invalid value" []
    | _ => shapedValue depth cs

/-- An array's items at level `depth` from the next, those before reversed. -/
def readItems : Nat → Nat → List TomlValue → List Char → Reading (TomlValue × List Char)
  | 0, _, _, cs => faultAt "Unclosed array" cs
  | fuel + 1, depth, acc, cs => do
    let (v, r) ← readValue fuel (depth + 1) cs
    let r ← skipAllGaps (depth + 1) r
    match r with
    | ']' :: after => .ok (.array (v :: acc).reverse, after)
    | ',' :: after => do
      let after ← skipAllGaps (depth + 1) after
      match after with
      | ']' :: rest => .ok (.array (v :: acc).reverse, rest)
      | _ => readItems fuel depth (v :: acc) after
    | _ => faultFrom depth "Unclosed array" r

/-- An inline table's members at `depth` from the next pair, with those so far and frozen
marks. -/
def readMembers : Nat → Nat → TomlTable → Marks → List Char → Reading (TomlValue × List Char)
  | 0, _, _, _, cs => faultAt "Unclosed inline table" cs
  | fuel + 1, depth, members, marks, cs => do
    let (key, v, r) ← readPair fuel (depth + 1) cs
    if marks.has key .frozen then
      faultFrom depth ("Cannot mutate immutable namespace " ++ quotedTuple key) r
    else
      let stem := key.getLast?.getD ""
      match defineAt false key.dropLast stem v members with
      | .error .noNest => faultFrom depth "Cannot overwrite a value" r
      | .error .occupied => faultFrom depth ("Duplicate inline table key " ++ quoted stem) r
      | .ok members =>
        match r.dropWhile isLineBlank with
        | '}' :: after => .ok (.table members, after)
        | ',' :: after =>
          let marks := if v.isContainer then marks.add key .frozen true else marks
          readMembers fuel depth members marks (after.dropWhile isLineBlank)
        | other => faultFrom depth "Unclosed inline table" other

/-- A `key = value` pair read at level `depth`. -/
def readPair : Nat → Nat → List Char → Reading (List String × TomlValue × List Char)
  | 0, _, cs => faultAt "Invalid value" cs
  | fuel + 1, depth, cs => do
    within depth .routine
    let (key, r) ← readKey (depth + 1) cs
    match r with
    | '=' :: rest => do
      let (v, after) ← readValue fuel (depth + 1) (rest.dropWhile isLineBlank)
      .ok (key, v, after)
    | [] => do
      within (depth + 1) .comparison
      faultFrom depth "Expected '=' after a key in a key/value pair" []
    | _ => faultFrom depth "Expected '=' after a key in a key/value pair" r

end

/-- The fuel for reading the values of a text. -/
def valueFuel (cs : List Char) : Nat := 2 * cs.length + 4

/-! ## Statements -/

/-- Document reading state: the table, marks, paths to declare at the next header, last header's
key. -/
structure DocumentState where
  root : TomlTable := []
  marks : Marks := []
  pending : List (List String) := []
  header : List String := []

/-- Declares the pending paths, as a header does before it is read. -/
def DocumentState.settle (st : DocumentState) : DocumentState :=
  { st with marks := st.pending.foldl (fun ms p => ms.add p .explicit false) st.marks,
            pending := [] }

/-- The paths of the tables a dotted key creates below the header: all but the full key. -/
def containerPaths (header key : List String) : List (List String) :=
  (List.range (key.length - 1)).map fun i => header ++ key.take (i + 1)

/-- A `key = value` statement of a document read at level `depth`: the pair is read two levels
down. -/
def pairStatement (depth fuel : Nat) (st : DocumentState) (cs : List Char) :
    Reading (DocumentState × List Char) := do
  let (key, v, r) ← readPair fuel (depth + 2) cs
  let pending ← (containerPaths st.header key).foldlM (fun pend p =>
    if st.marks.has p .explicit then faultAt ("Cannot redefine namespace " ++ quotedTuple p) r
    else .ok (pend ++ [p])) st.pending
  let parent := st.header ++ key.dropLast
  if st.marks.has parent .frozen then
    faultAt ("Cannot mutate immutable namespace " ++ quotedTuple parent) r
  else
    match defineAt true parent (key.getLast?.getD "") v st.root with
    | .error _ => faultAt "Cannot overwrite a value" r
    | .ok root =>
      let marks := if v.isContainer then st.marks.add (st.header ++ key) .frozen true
        else st.marks
      .ok ({ st with root := root, marks := marks, pending := pending }, r)

/-- A `[table]` header, after its bracket, in a document read at level `depth`. -/
def tableStatement (depth : Nat) (st : DocumentState) (cs : List Char) :
    Reading (DocumentState × List Char) := do
  let (key, r) ← readKey (depth + 2) (cs.dropWhile isLineBlank)
  if st.marks.has key .explicit || st.marks.has key .frozen then
    faultAt ("Cannot declare " ++ quotedTuple key ++ " twice") r
  else
    let marks := st.marks.add key .explicit false
    match openNest key st.root with
    | .error _ => faultAt "Cannot overwrite a value" r
    | .ok root =>
      match r with
      | ']' :: after => .ok ({ st with root := root, marks := marks, header := key }, after)
      | _ => faultAt "Expected ']' at the end of a table declaration" r

/-- A `[[array of tables]]` header, after its two brackets, in a document read at level
`depth`. -/
def arrayTableStatement (depth : Nat) (st : DocumentState) (cs : List Char) :
    Reading (DocumentState × List Char) := do
  let (key, r) ← readKey (depth + 2) (cs.dropWhile isLineBlank)
  if st.marks.has key .frozen then
    faultAt ("Cannot mutate immutable namespace " ++ quotedTuple key) r
  else
    let marks := (st.marks.clearBelow key).add key .explicit false
    match appendNest key st.root with
    | .error _ => faultAt "Cannot overwrite a value" r
    | .ok root =>
      match r with
      | ']' :: ']' :: after => .ok ({ st with root := root, marks := marks, header := key }, after)
      | _ => faultAt "Expected ']]' at the end of an array declaration" r

def startsKey (c : Char) : Bool := isBareKeyChar c || c == '"' || c == '\''

/-- One statement of a document read at level `depth`, up to the end of its line (not
included). -/
def statement (depth fuel : Nat) (st : DocumentState) (cs : List Char) :
    Reading (DocumentState × List Char) :=
  match cs with
  | c :: rest =>
    if startsKey c then do
      let (st, r) ← pairStatement depth fuel st cs
      .ok (st, r.dropWhile isLineBlank)
    else if c == '[' then
      let st := st.settle
      match rest with
      | '[' :: more => do
        let (st, r) ← arrayTableStatement depth st more
        .ok (st, r.dropWhile isLineBlank)
      | _ => do
        let (st, r) ← tableStatement depth st rest
        .ok (st, r.dropWhile isLineBlank)
    else if c == '#' then .ok (st, cs)
    else faultAt "Invalid statement" cs
  | [] => .ok (st, [])

/-- The statements of a document read at level `depth`, from here on. One unit of `lines` per
character is enough. -/
def statements (depth fuel : Nat) : Nat → DocumentState → List Char → Reading DocumentState
  | 0, st, _ => .ok st
  | lines + 1, st, cs =>
    match cs.dropWhile isLineBlank with
    | [] => .ok st
    | '\n' :: rest => statements depth fuel lines st rest
    | line => do
      let (st, r) ← statement depth fuel st line
      let r ← skipComment (depth + 1) r
      match r with
      | [] => .ok st
      | '\n' :: after => statements depth fuel lines st after
      | _ => faultAt "Expected newline or end of document after a statement" r

/-- Drops each carriage return that directly precedes a newline. -/
def joinLineEnds : List Char → List Char
  | '\r' :: '\n' :: rest => '\n' :: joinLineEnds rest
  | c :: rest => c :: joinLineEnds rest
  | [] => []

/-! ## Documents -/

/-- Why a document is refused. -/
inductive TomlError where
  /-- A syntax fault with its place: line and column, or none for the end of the document. -/
  | malformed (message : String) (place : Option (Nat × Nat))
  /-- A decimal integer of more digits than integer conversion reads. -/
  | integerTooLong (digits : Nat)
  /-- Values nested deeper than reading goes; the step that went past the limit. -/
  | tooDeep (step : Step)
  deriving Repr, BEq, DecidableEq

/-- The line and column of the place with `remaining` characters after it, or none at the end. -/
def placeOf (src : List Char) (remaining : Nat) : Option (Nat × Nat) :=
  if remaining = 0 then none
  else
    let before := src.take (src.length - remaining)
    some ((before.filter (· == '\n')).length + 1,
      (before.reverse.takeWhile (· != '\n')).length + 1)

/-- The text of a refusal. -/
def TomlError.message : TomlError → String
  | .malformed message none => message ++ " (at end of document)"
  | .malformed message (some (line, column)) =>
    message ++ " (at line " ++ toString line ++ ", column " ++ toString column ++ ")"
  | .integerTooLong digits => (IntegerTextError.tooManyDigits digits).message
  | .tooDeep step => step.refusal

/-- Reads a TOML document to its root table, the reader running at level `depth`. -/
def readDocument (depth : Nat) (s : String) : Except TomlError TomlTable :=
  let src := joinLineEnds s.toList
  match statements depth (valueFuel src) (src.length + 1) {} src with
  | .ok st => .ok st.root
  | .error (.at message remaining) => .error (.malformed message (placeOf src remaining))
  | .error (.integerTooLong digits) => .error (.integerTooLong digits)
  | .error (.tooDeep step) => .error (.tooDeep step)

end PackageRegistry.Toml
