import PackageRegistry.Markdown.Link
import PackageRegistry.Markdown.Html
import PackageRegistry.Text.Blank
/-!
# Markdown blocks

A document is read line by line into blocks by the CommonMark grammar with tables: containers
(quotes, lists, items) hold blocks, leaves hold text. Tabs count to the next multiple of four.
-/

namespace PackageRegistry.Markdown

open PackageRegistry.Text

/-! ## Blocks -/

/-- How the items of a list are marked: a bullet character, or a first number and the character
after the numbers. -/
inductive ListMarker where
  | bullet (c : Char)
  | ordered (start : Nat) (delimiter : Char)
  deriving Repr, BEq

/-- Whether an item with the second marker goes on the list of the first. -/
def ListMarker.continues : ListMarker → ListMarker → Bool
  | .bullet a, .bullet b => a == b
  | .ordered _ a, .ordered _ b => a == b
  | _, _ => false

/-- How a table column's cells are aligned. -/
inductive ColumnAlign where
  | none
  | left
  | center
  | right
  deriving Repr, BEq

/-- A block of a Markdown document. Text is kept raw, to be read as running text later. -/
inductive Block where
  | paragraph (text : String)
  | heading (level : Nat) (text : String)
  /-- A code block with the information after its opening fence. -/
  | code (info : String) (text : String)
  | rule
  | html (text : String)
  | quote (blocks : List Block)
  | list (marker : ListMarker) (items : List (List Block))
  | table (aligns : List ColumnAlign) (header : List String) (rows : List (List String))
  deriving Repr

/-- A document: its blocks, and the destinations its reference definitions name. -/
structure Document where
  blocks : List Block
  references : List (String × String)
  deriving Repr

/-! ## Columns -/

/-- The columns of leading blanks of a line that starts at column `col`. -/
def indentFrom (col : Nat) : List Char → Nat
  | ' ' :: rest => 1 + indentFrom (col + 1) rest
  | '\t' :: rest => (4 - col % 4) + indentFrom (col + (4 - col % 4)) rest
  | _ => 0

/-- A line after `n` columns of leading blanks from column `col`, with its starting column; a tab
past them leaves its other columns as spaces. -/
def dropColumns (n col : Nat) (cs : List Char) : Nat × List Char :=
  match n, cs with
  | 0, _ => (col, cs)
  | n + 1, ' ' :: rest => dropColumns n (col + 1) rest
  | n + 1, '\t' :: rest =>
    let width := 4 - col % 4
    if width ≤ n + 1 then dropColumns (n + 1 - width) (col + width) rest
    else (col + n + 1, List.replicate (width - (n + 1)) ' ' ++ rest)
  | _, _ => (col, cs)
termination_by n
decreasing_by all_goals omega

/-- A line being read: the column its rest starts at, and the rest. -/
structure LinePos where
  col : Nat
  rest : List Char

/-- The columns of blanks at the reading position. -/
def LinePos.indent (p : LinePos) : Nat := indentFrom p.col p.rest

/-- The reading position moved past the blanks. -/
def LinePos.toNonspace (p : LinePos) : LinePos :=
  { col := p.col + p.indent, rest := p.rest.dropWhile isLineBlank }

/-- The reading position moved past `n` columns of blanks. -/
def LinePos.dropIndent (p : LinePos) (n : Nat) : LinePos :=
  let (col, rest) := dropColumns n p.col p.rest
  { col := col, rest := rest }

/-- The reading position moved past `n` characters that are not tabs. -/
def LinePos.skip (p : LinePos) (n : Nat) : LinePos :=
  { col := p.col + n, rest := p.rest.drop n }

def LinePos.isBlank (p : LinePos) : Bool := isBlankLine p.rest

/-! ## Line shapes -/

/-- Whether a line is a thematic break: three or more of one of `*`, `-`, `_`, blanks between. -/
def isThematicBreak (cs : List Char) : Bool :=
  match cs with
  | c :: _ =>
    (c == '*' || c == '-' || c == '_') && cs.all (fun d => d == c || isLineBlank d) &&
      (cs.filter (· == c)).length ≥ 3
  | [] => false

/-- The level of a setext underline: `=` for one, `-` for two, trailing blanks allowed. -/
def setextLevel? (cs : List Char) : Option Nat :=
  match cs with
  | c :: _ =>
    let run := cs.takeWhile (· == c)
    if (c == '=' || c == '-') && isBlankLine (cs.drop run.length) then
      some (if c == '=' then 1 else 2)
    else none
  | [] => none

/-- An ATX heading line from its first non-blank: its level and text, closing marks dropped. -/
def atxHeading? (cs : List Char) : Option (Nat × String) :=
  let marks := cs.takeWhile (· == '#')
  let rest := cs.drop marks.length
  if marks.length = 0 || marks.length > 6 then none
  else
    match rest with
    | c :: _ =>
      if isLineBlank c then some (marks.length, headingText rest) else none
    | [] => some (marks.length, "")
where
  /-- A heading line's text after its marks: a closing run of `#` dropped, then blanks. -/
  headingText (rest : List Char) : String :=
    let body := (rest.reverse.dropWhile isLineBlank).reverse
    let hashes := body.reverse.takeWhile (· == '#')
    let before := body.take (body.length - hashes.length)
    let kept :=
      if hashes.isEmpty then body
      else if before.isEmpty then []
      else match before.getLast? with
        | some c => if isLineBlank c then before else body
        | none => body
    String.ofList (trimLine kept)
  /-- A line without blanks at either end. -/
  trimLine (cs : List Char) : List Char :=
    ((cs.dropWhile isLineBlank).reverse.dropWhile isLineBlank).reverse

/-- An opening fence: character, length, information text (resolved, trimmed; no backtick in
a backtick fence's). -/
def openingFence? (cs : List Char) : Option (Char × Nat × String) :=
  match cs with
  | c :: _ =>
    if c != '`' && c != '~' then none
    else
      let run := cs.takeWhile (· == c)
      let info := cs.drop run.length
      if run.length < 3 || (c == '`' && info.contains '`') then none
      else some (c, run.length, unescape (String.ofList (trimBlanks info)))
  | [] => none

/-- Whether a line from its first non-blank closes a fence of `c` at least `length` long. -/
def closesFence (c : Char) (length : Nat) (cs : List Char) : Bool :=
  let run := cs.takeWhile (· == c)
  run.length ≥ length && isBlankLine (cs.drop run.length)

/-- A list marker `indent` columns in, with the item's text columns and position. Interrupting a
paragraph, a number must be 1 and the item not blank. -/
def listMarker? (p : LinePos) (indent : Nat) (inParagraph : Bool) :
    Option (ListMarker × Nat × LinePos) :=
  let cs := p.rest
  let found : Option (ListMarker × Nat) :=
    match cs with
    | c :: _ =>
      if c == '-' || c == '+' || c == '*' then some (.bullet c, 1)
      else
        let digits := cs.takeWhile Char.isDigit
        match cs.drop digits.length with
        | d :: _ =>
          if 1 ≤ digits.length && digits.length ≤ 9 && (d == '.' || d == ')') then
            let n := digitsValue 10 digits
            if inParagraph && n != 1 then none else some (.ordered n d, digits.length + 1)
          else none
        | [] => none
    | [] => none
  match found with
  | none => none
  | some (marker, width) =>
    let afterMarker := cs.drop width
    let spaced := match afterMarker with
      | [] => true
      | c :: _ => isLineBlank c
    if !spaced || (inParagraph && isBlankLine afterMarker) then none
    else
      let atMarkerEnd := p.skip width
      let spaces := indentFrom atMarkerEnd.col afterMarker
      if spaces ≥ 5 || isBlankLine afterMarker then
        let textPos := atMarkerEnd.dropIndent 1
        some (marker, indent + width + 1, textPos)
      else
        some (marker, indent + width + spaces, atMarkerEnd.toNonspace)

/-! ## Tables -/

/-- A table row split at its pipes: a pipe after a backslash is kept as a pipe, the backslash
dropped. -/
def splitRow (cs : List Char) : List (List Char) :=
  let step := fun (acc : List (List Char) × List Char × Bool) (c : Char) =>
    let (done, current, escaped) := acc
    if c == '|' then
      if escaped then (done, '|' :: current.drop 1, false)
      else (current.reverse :: done, [], false)
    else (done, c :: current, c == '\\')
  let (done, current, _) := cs.foldl step ([], [], false)
  (current.reverse :: done).reverse

/-- A table row's cells: the line trimmed, split at pipes, empty ends dropped, cells
trimmed. -/
def rowCells (cs : List Char) : List String :=
  let cells := splitRow (trimBlanks cs)
  let cells := match cells with
    | [] :: rest => rest
    | _ => cells
  let cells := match cells.getLast? with
    | some [] => cells.dropLast
    | _ => cells
  cells.map fun cell => String.ofList (trimBlanks cell)

/-- A table delimiter row's alignments: cells of dashes with optional end colons, between
pipes. -/
def delimiterRow? (cs : List Char) : Option (List ColumnAlign) :=
  let isRowChar := fun (c : Char) => c == '|' || c == '-' || c == ':'
  match cs with
  | a :: b :: _ =>
    if !isRowChar a || !(isRowChar b || isLineBlank b) || (a == '-' && isLineBlank b) ||
        !cs.all (fun c => isRowChar c || isLineBlank c) then none
    else
      let parts := (cs.splitOn '|').map trimBlanks
      let count := parts.length
      let aligned := (parts.zipIdx).filterMap fun (t, i) =>
        if t.isEmpty then (if i = 0 || i + 1 = count then none else some none)
        else
          let left := t.head? == some ':'
          let right := t.getLast? == some ':'
          let body := if left then t.drop 1 else t
          let body := if right then body.dropLast else body
          if body.isEmpty || !body.all (· == '-') then some none
          else some (some (if right then (if left then ColumnAlign.center else .right)
            else if left then .left else .none))
      aligned.mapM id
  | _ => none

end PackageRegistry.Markdown
