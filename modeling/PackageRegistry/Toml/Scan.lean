import PackageRegistry.Toml.Value
import PackageRegistry.Text.CodeRange
import PackageRegistry.Text.Quoted
/-!
# Scanning TOML text

Blanks, comments, the four kinds of string, and keys; each scanner gives what it read with the
characters after it. Controls other than tab may not stand in comments or strings.
-/

namespace PackageRegistry.Toml

open PackageRegistry.Text

/-! ## Failures -/

/-- A level deeper: a reader routine, a built-in routine, or a comparison of different
kinds. -/
inductive Step where
  | routine
  | builtin
  | comparison
  deriving Repr, BEq, DecidableEq

/-- The text of the refusal when a step of this kind is the first to go past the limit. -/
def Step.refusal : Step → String
  | .routine => "maximum recursion depth exceeded"
  | .builtin => "maximum recursion depth exceeded while calling a Python object"
  | .comparison => "maximum recursion depth exceeded in comparison"

/-- Why a document cannot be read. -/
inductive ReadFault where
  /-- A syntax fault, with the number of characters from the place it points at to the end of
  the document. -/
  | at (message : String) (remaining : Nat)
  /-- A decimal integer of more digits than integer conversion reads. -/
  | integerTooLong (digits : Nat)
  /-- Reading went deeper than the limit; the step that went past it. -/
  | tooDeep (step : Step)
  deriving Repr, BEq, DecidableEq

/-- The result of a reading step. -/
abbrev Reading (α : Type) := Except ReadFault α

/-- A syntax fault at the place where `rest` starts. -/
def faultAt {α : Type} (message : String) (rest : List Char) : Reading α :=
  .error (.at message rest.length)

/-! ## Depth

Reading descends through routines, each a level below its caller, with built-in steps one level
below them. No step may pass level 1000; the first that does refuses the document, its kind
naming the refusal. Each routine below takes its level.
-/

/-- The deepest level a step may reach. -/
def depthLimit : Nat := 1000

/-- Refuses a step of kind `step` to level `depth`, when that is past the limit. -/
def within (depth : Nat) (step : Step) : Reading Unit :=
  if depth > depthLimit then .error (.tooDeep step) else .ok ()

/-- A syntax fault at `depth`: its message takes two levels down, counting lines before the
place unless at the end. -/
def faultFrom {α : Type} (depth : Nat) (message : String) (rest : List Char) : Reading α := do
  within (depth + 1) .routine
  within (depth + 2) .routine
  if !rest.isEmpty then within (depth + 3) .builtin
  faultAt message rest

/-! ## Character classes -/

/-- Blanks within a line: space and tab. -/
def isLineBlank (c : Char) : Bool := c == ' ' || c == '\t'

/-- Blanks and newlines. -/
def isGap (c : Char) : Bool := isLineBlank c || c == '\n'

/-- Characters of a bare key: ASCII letters and digits, `-` and `_`. -/
def isBareKeyChar (c : Char) : Bool := c.isAlphanum || c == '-' || c == '_'

/-- ASCII control characters, delete included. -/
def isControl (c : Char) : Bool := c.toNat < 32 || c.toNat == 127

/-- Characters refused in comments and one-line strings: controls other than tab. -/
def illegalInLine (c : Char) : Bool := isControl c && c != '\t'

/-- Characters refused in multi-line strings: controls other than tab and newline. -/
def illegalInBlock (c : Char) : Bool := isControl c && c != '\t' && c != '\n'

/-- ASCII hexadecimal digits. -/
def isHexDigit (c : Char) : Bool :=
  c.isDigit || ('a' ≤ c && c ≤ 'f') || ('A' ≤ c && c ≤ 'F')

/-! ## Stretches of text -/

/-- The text before the first occurrence of `pat`, and the rest from that occurrence on. -/
def breakOn (pat : List Char) : List Char → Option (List Char × List Char)
  | [] => if pat.isEmpty then some ([], []) else none
  | c :: cs =>
    if pat.isPrefixOf (c :: cs) then some ([], c :: cs)
    else (breakOn pat cs).map fun r => (c :: r.1, r.2)

/-- Refuses a stretch at its first `illegal` character, `after` following; level `depth`. -/
def checkStretch (depth : Nat) (illegal : Char → Bool) (stretch after : List Char) :
    Reading Unit :=
  match stretch.dropWhile (fun c => !illegal c) with
  | c :: tail =>
    faultFrom depth ("Found invalid character " ++ quoted c.toString) (c :: tail ++ after)
  | [] => .ok ()

/-- Text up to the first `delim` and the rest at `depth`; without one, to the end, refused if
`mustClose`. -/
def skipUntil (depth : Nat) (delim : List Char) (illegal : Char → Bool) (mustClose : Bool)
    (cs : List Char) : Reading (List Char × List Char) := do
  within depth .routine
  within (depth + 1) .builtin
  match breakOn delim cs with
  | some (stretch, after) => do
    checkStretch depth illegal stretch after
    .ok (stretch, after)
  | none =>
    if mustClose then faultFrom depth ("Expected " ++ quoted (String.ofList delim)) []
    else do
      checkStretch depth illegal cs []
      .ok (cs, [])

/-- Skips a comment to its line's end at `depth`; looking at the end is a comparison a level
down. -/
def skipComment (depth : Nat) (cs : List Char) : Reading (List Char) := do
  within depth .routine
  match cs with
  | '#' :: rest => do
    let (_, after) ← skipUntil (depth + 1) ['\n'] illegalInLine false rest
    .ok after
  | [] => do
    within (depth + 1) .comparison
    .ok []
  | _ => .ok cs

/-- Skips blanks, newlines and comments between array items at `depth`, rounds of blanks then a
comment, until none. -/
def skipGaps (depth : Nat) : Nat → List Char → Reading (List Char)
  | 0, cs => .ok cs
  | fuel + 1, cs => do
    within (depth + 1) .routine
    let after ← skipComment (depth + 1) (cs.dropWhile isGap)
    if after.length == cs.length then .ok after else skipGaps depth fuel after

/-- Skips blanks, newlines and comments at level `depth`. -/
def skipAllGaps (depth : Nat) (cs : List Char) : Reading (List Char) := do
  within depth .routine
  skipGaps depth (cs.length + 1) cs

/-! ## Strings -/

/-- A literal string after its opening apostrophe, read at level `depth`: everything up to the
next apostrophe. -/
def literalString (depth : Nat) (cs : List Char) : Reading (String × List Char) := do
  within depth .routine
  let (body, after) ← skipUntil (depth + 1) ['\''] illegalInLine true cs
  .ok (String.ofList body, after.drop 1)

/-- A hexadecimal escape of `width` digits at `depth`: digits checked a level down, code point
two. -/
def hexChar (depth : Nat) (width : Nat) (cs : List Char) : Reading (Char × List Char) := do
  within depth .routine
  let digits := cs.take width
  if digits.length != width then faultFrom depth "Invalid hex value" cs
  else do
    within (depth + 1) .builtin
    if !digits.all isHexDigit then faultFrom depth "Invalid hex value" cs
    else do
      within (depth + 2) .comparison
      let rest := cs.drop width
      let n := (readHexFrom 0 digits).getD 0
      if n ≤ 0xD7FF || (0xE000 ≤ n && n ≤ 0x10FFFF) then .ok (Char.ofNat n, rest)
      else faultFrom depth "Escaped character is not a Unicode scalar value" rest

/-- The character a one-letter escape stands for. -/
def shortEscape? : Char → Option Char
  | 'b' => some '\x08'
  | 't' => some '\t'
  | 'n' => some '\n'
  | 'f' => some '\x0c'
  | 'r' => some '\r'
  | '"' => some '"'
  | '\\' => some '\\'
  | _ => none

/-- The message of a backslash that starts no escape. -/
def strayBackslash : String := "Unescaped '\\' in a string"

/-- An escape after its backslash at `depth` and what follows; in multi-line strings a
line-end backslash eats blanks. -/
def escape (depth : Nat) (multiline : Bool) (cs : List Char) : Reading (List Char × List Char) := do
  if !multiline then within depth .comparison
  within depth .routine
  match cs with
  | 'u' :: rest => do
    let (c, r) ← hexChar (depth + 1) 4 rest
    .ok ([c], r)
  | 'U' :: rest => do
    let (c, r) ← hexChar (depth + 1) 8 rest
    .ok ([c], r)
  | '\n' :: rest =>
    if multiline then do
      within (depth + 1) .routine
      .ok ([], rest.dropWhile isGap)
    else faultFrom depth strayBackslash rest
  | c :: rest =>
    if multiline && isLineBlank c then do
      within (depth + 1) .routine
      match rest.dropWhile isLineBlank with
      | [] => .ok ([], [])
      | '\n' :: after => .ok ([], after.dropWhile isGap)
      | other => faultFrom depth strayBackslash other
    else
      match shortEscape? c with
      | some e => .ok ([e], rest)
      | none => faultFrom depth strayBackslash rest
  | [] => faultFrom depth strayBackslash []

/-- A basic string after its opening quotes at level `depth`, characters so far reversed; each
escape a level down. -/
def basicString (depth : Nat) (multiline : Bool) :
    Nat → List Char → List Char → Reading (String × List Char)
  | 0, _, cs => faultFrom depth "Unterminated string" cs
  | fuel + 1, acc, cs =>
    match cs with
    | [] => faultFrom depth "Unterminated string" []
    | '"' :: rest =>
      if !multiline then .ok (String.ofList acc.reverse, rest)
      else do
        within (depth + 1) .builtin
        match rest with
        | '"' :: '"' :: after => .ok (String.ofList acc.reverse, after)
        | _ => basicString depth multiline fuel ('"' :: acc) rest
    | '\\' :: rest => do
      let (chars, after) ← escape (depth + 1) multiline rest
      basicString depth multiline fuel (chars.reverse ++ acc) after
    | c :: rest =>
      if (if multiline then illegalInBlock c else illegalInLine c) then
        faultFrom depth ("Illegal character " ++ quoted c.toString) cs
      else basicString depth multiline fuel (c :: acc) rest

/-- Up to two more closing delimiters right after a multi-line string's closing three belong
to its text. -/
def closingExtras (delim : Char) (body : String) (cs : List Char) : String × List Char :=
  match cs with
  | c :: d :: rest =>
    if c != delim then (body, cs)
    else if d != delim then (body.push delim, d :: rest)
    else ((body.push delim).push delim, rest)
  | [c] => if c == delim then (body.push delim, []) else (body, cs)
  | [] => (body, [])

/-- The start of a multi-line string: a newline right after the opening delimiter is dropped. -/
def dropOpeningNewline : List Char → List Char
  | '\n' :: rest => rest
  | cs => cs

/-- A multi-line basic string after its three opening quotes, read at level `depth`. -/
def multilineBasicString (depth : Nat) (cs : List Char) : Reading (String × List Char) := do
  within depth .routine
  within (depth + 1) .builtin
  let body := dropOpeningNewline cs
  let (text, after) ← basicString (depth + 1) true (body.length + 1) [] body
  .ok (closingExtras '"' text after)

/-- A multi-line literal string after its three opening apostrophes, read at level `depth`. -/
def multilineLiteralString (depth : Nat) (cs : List Char) : Reading (String × List Char) := do
  within depth .routine
  within (depth + 1) .builtin
  let body := dropOpeningNewline cs
  let (text, after) ← skipUntil (depth + 1) ['\'', '\'', '\''] illegalInBlock true body
  .ok (closingExtras '\'' (String.ofList text) (after.drop 3))

/-- A one-line basic string after its opening quote, read at level `depth`; its characters are
read a level down. -/
def lineBasicString (depth : Nat) (cs : List Char) : Reading (String × List Char) := do
  within depth .routine
  within (depth + 1) .routine
  basicString (depth + 1) false (cs.length + 1) [] cs

/-! ## Keys -/

/-- A key part at `depth`: bare, literal or basic; looking at the end is a comparison a level
down. -/
def keyPart (depth : Nat) (cs : List Char) : Reading (String × List Char) := do
  within depth .routine
  match cs with
  | c :: rest =>
    if isBareKeyChar c then do
      within (depth + 1) .routine
      let (k, r) := cs.span isBareKeyChar
      .ok (String.ofList k, r)
    else if c == '\'' then literalString (depth + 1) rest
    else if c == '"' then lineBasicString (depth + 1) rest
    else faultFrom depth "Invalid initial character for a key part" cs
  | [] => do
    within (depth + 1) .comparison
    faultFrom depth "Invalid initial character for a key part" []

/-- The further parts of a dotted key read at level `depth`, each after a dot with blanks around
it. -/
def keyTail (depth : Nat) : Nat → List String → List Char → Reading (List String × List Char)
  | 0, parts, cs => .ok (parts, cs)
  | fuel + 1, parts, cs =>
    match cs with
    | '.' :: rest => do
      let (p, r) ← keyPart (depth + 1) (rest.dropWhile isLineBlank)
      keyTail depth fuel (parts ++ [p]) (r.dropWhile isLineBlank)
    | [] => do
      within (depth + 1) .comparison
      .ok (parts, [])
    | _ => .ok (parts, cs)

/-- A key read at level `depth`, its parts a level down: its parts, and what follows it and the
blanks after it. -/
def readKey (depth : Nat) (cs : List Char) : Reading (List String × List Char) := do
  within depth .routine
  let (p, r) ← keyPart (depth + 1) cs
  keyTail depth (cs.length + 1) [p] (r.dropWhile isLineBlank)

end PackageRegistry.Toml
