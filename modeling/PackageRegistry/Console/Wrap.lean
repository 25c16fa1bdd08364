import PackageRegistry.Text.Blank
/-!
# Wrapping text

Help text is filled greedily, whitespace at breaks dropped, an overlong chunk cut. Paragraphs
keep their first line's indentation; one starting with `\b` is kept as written.
-/

namespace PackageRegistry.Console

open PackageRegistry.Text

/-! ## Chunks -/

/-- The whitespace the filler splits on: tab, line feed, vertical tab, form feed, carriage
return and space. -/
def isWrapSpace (c : Char) : Bool :=
  c = ' ' || c = '\t' || c = '\n' || c = '\x0b' || c = '\x0c' || c = '\r'

/-- A word character: a letter, a digit or `_`. -/
def isBreakWordChar (c : Char) : Bool := c.isAlphanum || c = '_'

/-- A letter as hyphenation sees it: a word character that is not a digit. -/
def isHyphenLetter (c : Char) : Bool := c.isAlpha || c = '_'

/-- A word character or one of the punctuation marks `! " ' & . , ?`. -/
def isWordPunct (c : Char) : Bool :=
  isBreakWordChar c || c = '!' || c = '"' || c = '\'' || c = '&' || c = '.' || c = ',' || c = '?'

/-- Whether the characters start with a dash of two or more hyphens followed by a word
character. -/
def startsDash (cs : List Char) : Bool :=
  match cs with
  | '-' :: '-' :: rest =>
    match rest.dropWhile (· = '-') with
    | c :: _ => isBreakWordChar c
    | [] => false
  | _ => false

/-- Whether the characters before a hyphen (nearest first) allow a break after it: two letters,
or letter, hyphen, letter. -/
def hyphenBehind (back : List Char) : Bool :=
  match back with
  | a :: b :: rest =>
    (isHyphenLetter a && isHyphenLetter b) ||
      (isHyphenLetter a && b = '-' && match rest with
        | c :: _ => isHyphenLetter c
        | [] => false)
  | _ => false

/-- Whether the characters after a hyphen allow a break: a letter, then a letter or hyphen and
letter. -/
def hyphenAhead (after : List Char) : Bool :=
  match after with
  | a :: '-' :: b :: _ => isHyphenLetter a && isHyphenLetter b
  | a :: b :: _ => isHyphenLetter a && isHyphenLetter b
  | _ => false

/-- The length of the word chunk at `cs`, `back` what precedes it and `taken` its word
characters so far. -/
def wordLength (back taken : List Char) (cs : List Char) : Nat :=
  match cs with
  | [] => taken.length
  | c :: rest =>
    if taken.isEmpty then wordLength back [c] rest
    else
      let behind := taken ++ back
      if isWrapSpace c then taken.length
      else if c = '-' && hyphenBehind behind && hyphenAhead rest then taken.length + 1
      else if (match behind with
          | b :: _ => isWordPunct b
          | [] => false) && startsDash cs then taken.length
      else wordLength back (c :: taken) rest

/-- The chunks of text, `back` holding what precedes it (nearest first). -/
def chunksFrom (back : List Char) (cs : List Char) : List (List Char) :=
  match cs with
  | [] => []
  | c :: rest =>
    let n :=
      if isWrapSpace c then ((c :: rest).takeWhile isWrapSpace).length
      else if (match back with
          | b :: _ => isWordPunct b
          | [] => false) && startsDash (c :: rest) then
        ((c :: rest).takeWhile (· = '-')).length
      else wordLength back [] (c :: rest)
    let chunk := (c :: rest).take (max n 1)
    if (c :: rest).length - max n 1 < rest.length + 1 then
      chunk :: chunksFrom (chunk.reverse ++ back) ((c :: rest).drop (max n 1))
    else [c :: rest]
termination_by cs.length
decreasing_by
  simp only [List.length_drop, List.length_cons] at *
  omega

def chunks (text : List Char) : List (List Char) := chunksFrom [] text

/-! ## Lines -/

/-- Whether a chunk is whitespace only. -/
def isBlankChunk (chunk : List Char) : Bool := chunk.all isWrapSpace

/-- Moves chunks onto a line while they fit `width`, `used` characters being on it. -/
def takeFitting (width used : Nat) (line : List (List Char)) :
    List (List Char) → List (List Char) × Nat × List (List Char)
  | [] => (line, used, [])
  | chunk :: rest =>
    if used + chunk.length ≤ width then takeFitting width (used + chunk.length) (line ++ [chunk]) rest
    else (line, used, chunk :: rest)

/-- A filler: the width and the indents of the first and later lines. -/
structure Filler where
  width : Nat
  initialIndent : String := ""
  subsequentIndent : String := ""
  deriving Repr

/-- Fills lines from chunks; `started` says whether a line has been written. The fuel bounds
the number of lines. -/
def Filler.fillFrom (f : Filler) (started : Bool) : Nat → List (List Char) → List String
  | 0, _ => []
  | _, [] => []
  | fuel + 1, first :: more =>
    let indent := if started then f.subsequentIndent else f.initialIndent
    let width := f.width - indent.length
    let pending := if started && isBlankChunk first then more else first :: more
    let (line, used, rest) := takeFitting width 0 [] pending
    let (line, rest) :=
      match rest with
      | next :: after =>
        if next.length > width then
          let room := max (width - used) 1
          (line ++ [next.take room], next.drop room :: after)
        else (line, rest)
      | [] => (line, rest)
    let line := match line.getLast? with
      | some last => if isBlankChunk last then line.dropLast else line
      | none => line
    if line.isEmpty then f.fillFrom started fuel rest
    else (indent ++ String.ofList line.flatten) :: f.fillFrom true fuel rest

/-- The lines of text filled. -/
def Filler.wrap (f : Filler) (text : List Char) : List String :=
  let cs := chunks text
  f.fillFrom false (text.length + cs.length + 1) cs

/-- Text filled into lines joined by line feeds. -/
def Filler.fill (f : Filler) (text : List Char) : String :=
  "\n".intercalate (f.wrap text)

/-! ## Paragraphs -/

/-- Text with tabs expanded to the next multiple of eight columns on each line. -/
def expandTabs (column : Nat) : List Char → List Char
  | [] => []
  | '\t' :: rest =>
    let pad := 8 - column % 8
    List.replicate pad ' ' ++ expandTabs (column + pad) rest
  | '\n' :: rest => '\n' :: expandTabs 0 rest
  | c :: rest => c :: expandTabs (column + 1) rest

/-- The paragraph marker that keeps a paragraph's lines as they are. -/
def keepMarker : String := "\x08"

/-- A paragraph: its indentation, whether it is kept as written, and its text. -/
structure Paragraph where
  indent : Nat
  kept : Bool
  text : List Char
  deriving Repr

/-- The paragraph of gathered lines (the first already stripped of its indentation). -/
def paragraphOf (indent : Nat) (lines : List (List Char)) : List Paragraph :=
  match lines with
  | [] => []
  | first :: rest =>
    if trim (String.ofList first) == keepMarker then
      [⟨indent, true, (rest.intersperse ['\n']).flatten⟩]
    else [⟨indent, false, (lines.intersperse [' ']).flatten⟩]

/-- Splits lines into paragraphs at empty lines, `current` the one being gathered. -/
def paragraphsFrom (indent : Nat) (current : List (List Char)) :
    List (List Char) → List Paragraph
  | [] => paragraphOf indent current
  | line :: rest =>
    if line.isEmpty then paragraphOf indent current ++ paragraphsFrom 0 [] rest
    else if current.isEmpty then
      let stripped := dropBlanks line
      paragraphsFrom (line.length - stripped.length) [stripped] rest
    else paragraphsFrom indent (current ++ [line]) rest

/-- Wraps text to a width with indents; kept paragraphs filled apart, an empty line between. -/
def wrapText (width : Nat) (initialIndent subsequentIndent : String) (keepParagraphs : Bool)
    (text : String) : String :=
  let cs := expandTabs 0 text.toList
  let filler : Filler := { width, initialIndent, subsequentIndent }
  if !keepParagraphs then filler.fill cs
  else
    let paragraphs := paragraphsFrom 0 [] (cs.splitOn '\n')
    "\n\n".intercalate (paragraphs.map fun p =>
      let extra := String.ofList (List.replicate p.indent ' ')
      let f : Filler :=
        { width, initialIndent := initialIndent ++ extra, subsequentIndent := subsequentIndent ++ extra }
      if p.kept then
        let lines := if p.text.isEmpty then [] else p.text.splitOn '\n'
        "\n".intercalate (lines.zipIdx.map fun (line, i) =>
          (if i = 0 then f.initialIndent else f.subsequentIndent) ++ String.ofList line)
      else f.fill p.text)

end PackageRegistry.Console
