import PackageRegistry.Markdown.Char
import PackageRegistry.Text.Blank
import PackageRegistry.Text.CaseMap
/-!
# Parts of Markdown links

Labels (matched trimmed, whitespace collapsed, case folded), destinations, titles, and reference
definitions, the first of a label winning.
-/

namespace PackageRegistry.Markdown

open PackageRegistry.Text

/-! ## Labels -/

/-- The text of a label after its `[`, up to its `]`, in reverse, with what follows the `]`. -/
def labelFrom (acc : List Char) : List Char → Option (List Char × List Char)
  | [] => none
  | c :: rest =>
    if c == ']' then some (acc, rest)
    else if c == '[' then none
    else if c == '\\' then
      match rest with
      | d :: more => labelFrom (d :: c :: acc) more
      | [] => labelFrom (c :: acc) []
    else labelFrom (c :: acc) rest

/-- A link label after its `[`: its text and what follows its `]`. -/
def linkLabel? (cs : List Char) : Option (List Char × List Char) :=
  match labelFrom [] cs with
  | some (acc, rest) =>
    if acc.all isBlank then none else some (acc.reverse, rest)
  | none => none

/-- A label's matching form: whitespace trimmed and runs made one space, lowered and raised. -/
def normalizeLabel (label : List Char) : String :=
  let words := ((label.splitOnP isBlank).filter (!·.isEmpty)).map String.ofList
  toUpper (toLower (" ".intercalate words))

/-! ## Destinations and titles -/

/-- An angle-bracket destination's rest, reversed, up to `>`; a backslash keeps the next
character. -/
def angleDestinationFrom (acc : List Char) : List Char → Option (List Char × List Char)
  | [] => none
  | '>' :: rest => some (acc, rest)
  | '<' :: _ => none
  | '\n' :: _ => none
  | '\\' :: c :: rest => angleDestinationFrom (c :: '\\' :: acc) rest
  | c :: rest => angleDestinationFrom (c :: acc) rest

/-- A bare destination's rest, reversed, at parenthesis depth `depth`; a backslash keeps the
next character unless a space. -/
def bareDestinationFrom (depth : Nat) (acc : List Char) :
    List Char → Option (List Char × List Char)
  | [] => if depth = 0 then some (acc, []) else none
  | c :: rest =>
    let stop := fun (_ : Unit) => if depth = 0 then some (acc, c :: rest) else none
    if c == ' ' || c.toNat < 32 || c.toNat == 127 then stop ()
    else if c == '\\' then
      match rest with
      | ' ' :: _ => stop ()
      | d :: more => bareDestinationFrom depth (d :: c :: acc) more
      | [] => bareDestinationFrom depth (c :: acc) []
    else if c == '(' then
      if depth ≥ 32 then none else bareDestinationFrom (depth + 1) (c :: acc) rest
    else if c == ')' then
      if depth = 0 then some (acc, c :: rest) else bareDestinationFrom (depth - 1) (c :: acc) rest
    else bareDestinationFrom depth (c :: acc) rest

/-- Whether a destination may be linked: `javascript:`, `vbscript:`, `file:`, `data:` refused,
but image data. -/
def isSafeDestination (dest : String) : Bool :=
  let d := toLower (String.ofList (dropEnds dest.toList))
  let bad := ["vbscript:", "javascript:", "file:", "data:"].any (d.startsWith ·)
  !bad || ["data:image/gif;", "data:image/png;", "data:image/jpeg;", "data:image/webp;"].any
    (d.startsWith ·)
where
  /-- The text without whitespace at either end. -/
  dropEnds (cs : List Char) : List Char := trimBlanks cs

/-- A link destination, escapes and references resolved, and what follows; a bare one is never
empty. -/
def linkDestination? (cs : List Char) : Option (String × List Char) :=
  match cs with
  | '<' :: rest =>
    (angleDestinationFrom [] rest).map fun (acc, after) => (unescape (String.ofList acc.reverse), after)
  | _ =>
    match bareDestinationFrom 0 [] cs with
    | some (acc, after) =>
      if acc.isEmpty then none else some (unescape (String.ofList acc.reverse), after)
    | none => none

/-- The rest of a title up to its closing character, in reverse. -/
def titleFrom (opening closing : Char) (acc : List Char) : List Char → Option (List Char × List Char)
  | [] => none
  | c :: rest =>
    if c == closing then some (acc, rest)
    else if opening == '(' && c == '(' then none
    else if c == '\\' then
      match rest with
      | d :: more => titleFrom opening closing (d :: c :: acc) more
      | [] => titleFrom opening closing (c :: acc) []
    else titleFrom opening closing (c :: acc) rest

/-- A link title: its text, escapes and references resolved, and what follows it. -/
def linkTitle? (cs : List Char) : Option (String × List Char) :=
  let close := fun (opening closing : Char) (rest : List Char) =>
    (titleFrom opening closing [] rest).map fun (acc, after) =>
      (unescape (String.ofList acc.reverse), after)
  match cs with
  | '"' :: rest => close '"' '"' rest
  | '\'' :: rest => close '\'' '\'' rest
  | '(' :: rest => close '(' ')' rest
  | _ => none

/-! ## Reference definitions -/

/-- Skips blanks and at most one line end among them. -/
def skipSpacesOneLine (cs : List Char) : List Char :=
  match cs.dropWhile isLineBlank with
  | '\n' :: rest => rest.dropWhile isLineBlank
  | rest => rest

/-- What follows a line end preceded only by blanks (or the end of the text). -/
def afterLineEnd? (cs : List Char) : Option (List Char) :=
  match cs.dropWhile isLineBlank with
  | [] => some []
  | '\n' :: rest => some rest
  | _ => none

/-- A reference definition opening a paragraph: label's matching form, destination, text after
its last line. -/
def referenceDefinition? (cs : List Char) : Option ((String × String) × List Char) := do
  let rest ← match cs with
    | '[' :: rest => some rest
    | _ => none
  let (label, afterLabel) ← linkLabel? rest
  let afterColon ← match afterLabel with
    | ':' :: more => some more
    | _ => none
  let (dest, afterDest) ← linkDestination? (skipSpacesOneLine afterColon)
  let key := normalizeLabel label
  if key.isEmpty || !isSafeDestination dest then none
  else
    let beforeTitle := skipSpacesOneLine afterDest
    let separated := match afterDest with
      | c :: _ => isLineBlank c || c == '\n'
      | [] => false
    let withTitle : Option (List Char) :=
      if !separated then none
      else match linkTitle? beforeTitle with
        | some (_, afterTitle) => afterLineEnd? afterTitle
        | none => none
    match withTitle with
    | some after => some ((key, dest), after)
    | none => (afterLineEnd? afterDest).map fun after => ((key, dest), after)

/-- The reference definitions opening a paragraph, in order, and the text after; fuel of one per
character. -/
def referenceDefinitions : Nat → List Char → List (String × String) × List Char
  | 0, cs => ([], cs)
  | fuel + 1, cs =>
    match referenceDefinition? cs with
    | some (d, rest) =>
      if rest.length < cs.length then
        let (more, after) := referenceDefinitions fuel rest
        (d :: more, after)
      else ([], cs)
    | none => ([], cs)

end PackageRegistry.Markdown
