import PackageRegistry.Console.Styled
/-!
# Laying text out in lines

Styled text is laid out in a width line by line: tabs expanded, broken between words (a word
too wide chopped when folding), each piece aligned and cut to the width. Code blocks end with a
line feed, expand tabs to four, and are folded and padded line by line.
-/

namespace PackageRegistry.Console

open PackageRegistry.Text

/-- How lines are aligned in their width. -/
inductive Justify where
  | left
  | center
  | right
  /-- No padding at all. -/
  | asIs
  deriving Repr, BEq, DecidableEq

/-- The words of a line with their starts, from `pos`, the current word kept reversed:
`seenBody` once it has non-blanks, `trailing` once blanks follow. -/
def wordsFrom (pos start : Nat) (word : List Char) (seenBody trailing : Bool) :
    List Char → List (Nat × List Char)
  | [] => if seenBody then [(start, word.reverse)] else []
  | c :: rest =>
    if isBlank c then wordsFrom (pos + 1) start (c :: word) seenBody seenBody rest
    else if trailing then (start, word.reverse) :: wordsFrom (pos + 1) pos [c] true false rest
    else wordsFrom (pos + 1) start (c :: word) true false rest

def lineWords (cs : List Char) : List (Nat × List Char) := wordsFrom 0 0 [] false false cs

/-- Line breaks of a chopped word: each piece's start but offset zero; and the column after. -/
def foldBreaks (start : Nat) : List (List Char) → List Nat × Nat
  | [] => ([], 0)
  | [last] => ((if start = 0 then [] else [start]), cellLength last)
  | piece :: rest =>
    let (later, column) := foldBreaks (start + piece.length) rest
    ((if start = 0 then [] else [start]) ++ later, column)

/-- The offsets where a line breaks to fit `width` cells, from the words left and the column. -/
def breaksFrom (width : Nat) (fold : Bool) (column : Nat) : List (Nat × List Char) → List Nat
  | [] => []
  | (start, word) :: rest =>
    let body := cellLength (dropTrailingBlanks word)
    if column + body ≤ width then breaksFrom width fold (column + cellLength word) rest
    else if body > width then
      if fold then
        let (breaks, after) := foldBreaks start (chopCells width word)
        breaks ++ breaksFrom width fold after rest
      else (if start = 0 then [] else [start]) ++ breaksFrom width fold (cellLength word) rest
    else if column ≠ 0 ∧ start ≠ 0 then start :: breaksFrom width fold (cellLength word) rest
    else breaksFrom width fold column rest

/-- The offsets at which a line breaks to fit `width` cells. -/
def lineBreaks (width : Nat) (fold : Bool) (cs : List Char) : List Nat :=
  breaksFrom width fold 0 (lineWords cs)

/-- A line aligned in `width` cells. -/
def Styled.justify (width : Nat) (overflow : Overflow) (how : Justify) (l : Styled) : Styled :=
  match how with
  | .left => l.truncate width overflow true
  | .center =>
    let cut := l.rstrip.truncate width overflow false
    let moved := cut.padLeft ((width - cut.cells) / 2)
    moved.padRight (width - moved.cells)
  | .right =>
    let cut := l.rstrip.truncate width overflow false
    cut.padLeft (width - cut.cells)
  | .asIs => l

/-- The lines of one line of text laid out in `width` cells. -/
def Styled.wrapLine (width : Nat) (how : Justify) (overflow : Overflow) (noWrap : Bool)
    (line : Styled) : List Styled :=
  let line := line.expandLineTabs
  let pieces :=
    if noWrap || overflow = .ignore then [line]
    else line.divide (lineBreaks width (overflow = .fold) line.chars)
  pieces.map fun p =>
    let placed := (p.rstripEnd width).justify width overflow how
    if how == .asIs then placed.truncate width overflow false else placed

/-- Text laid out in `width` cells, line by line. -/
def Styled.wrap (t : Styled) (width : Nat) (how : Justify) (overflow : Overflow)
    (noWrap : Bool := false) : List Styled :=
  t.lines.flatMap (Styled.wrapLine width how overflow noWrap)

/-! ## Code blocks -/

/-- Text with tabs expanded to the next multiple of four columns, counted from each line start. -/
def expandCodeTabs (column : Nat) : List Char → List Char
  | [] => []
  | '\t' :: rest =>
    let pad := 4 - column % 4
    List.replicate pad ' ' ++ expandCodeTabs (column + pad) rest
  | '\n' :: rest => '\n' :: expandCodeTabs 0 rest
  | '\r' :: rest => '\r' :: expandCodeTabs 0 rest
  | c :: rest => c :: expandCodeTabs (column + 1) rest

/-- Text with every carriage return and line feed pair, and every other carriage return, made a
line feed. -/
def unifyLineEnds : List Char → List Char
  | [] => []
  | '\r' :: '\n' :: rest => '\n' :: unifyLineEnds rest
  | '\r' :: rest => '\n' :: unifyLineEnds rest
  | c :: rest => c :: unifyLineEnds rest

/-- The lines of source text shown as a code block `width` cells wide, each folded to the width
and padded to it. -/
def codeLines (width : Nat) (code : String) : List String :=
  let cs := code.toList
  let endsWithFeed := cs.getLast? == some '\n'
  let cs := unifyLineEnds (expandCodeTabs 0 (if endsWithFeed then cs else cs ++ ['\n']))
  let cs := match cs with
    | '\ufeff' :: rest => rest
    | _ => cs
  let pieces := ({ chars := cs } : Styled).lines
  let pieces := if endsWithFeed then pieces else pieces.dropLast
  (pieces.flatMap (Styled.wrapLine width .left .fold false)).map Styled.plain

end PackageRegistry.Console
