import PackageRegistry.Markdown.Block
/-!
# Reading a Markdown document into blocks

Lines are read one at a time against the blocks left open: a line continues the open containers
it can, starts new blocks at the rest, continues a paragraph lazily or closes what did not go
on. Blocks nest at most `maxNesting` deep.
-/

namespace PackageRegistry.Markdown

open PackageRegistry.Text

/-! ## Open blocks -/

/-- An open container. -/
inductive Container where
  | quote
  | list (marker : ListMarker)
  /-- A list item, with the columns its text is indented by. -/
  | item (marker : ListMarker) (textIndent : Nat)

/-- An open container and what is closed in it, most recent first: its blocks, or for a list
its items. -/
structure OpenContainer where
  container : Container
  blocks : List Block := []
  items : List (List Block) := []

/-- An open leaf block, its lines most recent first. -/
inductive OpenLeaf where
  | paragraph (lines : List (List Char))
  /-- A fenced code block: its fence character and length, the indentation of the opening fence
  and the information after it. -/
  | fenced (fence : Char) (length indent : Nat) (info : String) (lines : List (List Char))
  | indented (lines : List (List Char))
  | html (kind : Nat) (lines : List (List Char))
  | table (aligns : List ColumnAlign) (header : List String) (rows : List (List String))

/-- Reading state: closed top-level blocks (latest first), open containers (outermost first),
open leaf, references. -/
structure Reader where
  top : List Block := []
  containers : List OpenContainer := []
  leaf : Option OpenLeaf := none
  references : List (String × String) := []

/-- Whether the open leaf is a paragraph. -/
def Reader.inParagraph (r : Reader) : Bool :=
  match r.leaf with
  | some (.paragraph _) => true
  | _ => false

/-- Adds a closed block to the innermost open container. -/
def Reader.addBlock (r : Reader) (b : Block) : Reader :=
  match r.containers.reverse with
  | [] => { r with top := b :: r.top }
  | c :: outer => { r with containers := ({ c with blocks := b :: c.blocks } :: outer).reverse }

/-- Records reference definitions; the first definition of a label wins. -/
def Reader.define (r : Reader) (defs : List (String × String)) : Reader :=
  { r with references := defs.foldl (fun refs (k, d) =>
      if (refs.lookup k).isSome then refs else refs ++ [(k, d)]) r.references }

/-- The text of lines kept most recent first. -/
def linesText (lines : List (List Char)) : List Char :=
  "\n".toList.intercalate lines.reverse

/-- The text of lines kept most recent first, each ended by a line feed. -/
def blockText (lines : List (List Char)) : String :=
  String.ofList (lines.reverse.flatMap (· ++ ['\n']))

/-- Closes the open leaf: its block goes into the innermost container. -/
def Reader.closeLeaf (r : Reader) : Reader :=
  match r.leaf with
  | none => r
  | some leaf =>
    let r := { r with leaf := none }
    match leaf with
    | .paragraph lines =>
      let text := linesText lines
      let (defs, rest) := referenceDefinitions (text.length + 1) text
      let r := r.define defs
      if rest.all isBlank then r else r.addBlock (.paragraph (String.ofList (trimBlanks rest)))
    | .fenced _ _ _ info lines => r.addBlock (.code info (blockText lines))
    | .indented lines =>
      r.addBlock (.code "" (blockText (lines.dropWhile isBlankLine)))
    | .html _ lines => r.addBlock (.html (blockText lines))
    | .table aligns header rows => r.addBlock (.table aligns header rows.reverse)

/-- Closes the innermost container (leaf first) into the one around it, an item onto its
list. -/
def Reader.closeInnermost (r : Reader) : Reader :=
  let r := r.closeLeaf
  match r.containers.reverse with
  | [] => r
  | c :: outer =>
    let r := { r with containers := outer.reverse }
    match c.container with
    | .quote => r.addBlock (.quote c.blocks.reverse)
    | .list marker => r.addBlock (.list marker c.items.reverse)
    | .item _ _ =>
      match outer with
      | p :: rest =>
        { r with containers := ({ p with items := c.blocks.reverse :: p.items } :: rest).reverse }
      | [] => r

/-- Closes the open containers beyond the first `keep`, and the leaf. -/
def Reader.closeBeyond (keep : Nat) (r : Reader) : Reader :=
  (List.range (r.containers.length - keep)).foldl (fun r _ => r.closeInnermost) r.closeLeaf

/-- Makes room for a block that is no list item: closes the leaf, and an innermost list. -/
def Reader.makeRoom (r : Reader) : Reader :=
  let r := r.closeLeaf
  match r.containers.getLast? with
  | some { container := .list _, .. } => r.closeInnermost
  | _ => r

def Reader.openContainer (r : Reader) (c : Container) : Reader :=
  { r with containers := r.containers ++ [{ container := c }] }

/-! ## Continuing open blocks -/

/-- Whether the open container at index `i` is an item that holds nothing yet. -/
def Reader.emptyItemAt (r : Reader) (i : Nat) : Bool :=
  match r.containers[i]? with
  | some { container := .item _ _, blocks := [], .. } =>
    i + 1 = r.containers.length && r.leaf.isNone
  | _ => false

/-- Continues open containers from index `i` at the position: how many went on, and the position
after their marks. -/
def Reader.continueFrom (r : Reader) (i : Nat) (p : LinePos) : List OpenContainer → Nat × LinePos
  | [] => (i, p)
  | c :: rest =>
    match c.container with
    | .quote =>
      let q := p.toNonspace
      match q.rest with
      | '>' :: after =>
        if p.indent ≤ 3 then
          let q := q.skip 1
          let q := match after with
            | d :: _ => if isLineBlank d then q.dropIndent 1 else q
            | [] => q
          r.continueFrom (i + 1) q rest
        else (i, p)
      | _ => (i, p)
    | .list _ => r.continueFrom (i + 1) p rest
    | .item _ textIndent =>
      if p.isBlank then
        if r.emptyItemAt i then (i, p) else r.continueFrom (i + 1) p.toNonspace rest
      else if p.indent ≥ textIndent then r.continueFrom (i + 1) (p.dropIndent textIndent) rest
      else (i, p)

/-- Whether a line, from its first non-blank, starts a block that ends a table. -/
def startsBlockAfterTable (q : LinePos) (indent : Nat) : Bool :=
  match q.rest with
  | '>' :: _ => true
  | cs =>
    (atxHeading? cs).isSome || (openingFence? cs).isSome || isThematicBreak cs ||
      (listMarker? q indent false).isSome ||
      ((htmlBlockKind? cs true).any (· ≤ 6))

/-- How the open leaf takes a line whose containers all went on. -/
inductive LeafStep where
  /-- The leaf goes on, the line read from this position. -/
  | goesOn (p : LinePos)
  /-- The leaf does not go on. -/
  | stops
  /-- The line closes the leaf and is used up. -/
  | closes

/-- Continues the open leaf at the reading position. -/
def continueLeaf (leaf : OpenLeaf) (p : LinePos) : LeafStep :=
  match leaf with
  | .paragraph _ => if p.isBlank then .stops else .goesOn p
  | .fenced c length indent _ _ =>
    if p.indent ≤ 3 && closesFence c length p.toNonspace.rest then .closes
    else .goesOn (p.dropIndent (min indent p.indent))
  | .indented _ =>
    if p.indent ≥ 4 then .goesOn (p.dropIndent 4)
    else if p.isBlank then .goesOn p.toNonspace
    else .stops
  | .html kind _ => if p.isBlank && (kind == 6 || kind == 7) then .stops else .goesOn p
  | .table .. =>
    if p.rest.all isBlank || p.indent ≥ 4 || startsBlockAfterTable p.toNonspace p.indent then .stops
    else .goesOn p

/-! ## Starting new blocks -/

/-- Adds a line to the open leaf, which takes lines; a line ending an HTML block of the first
five kinds closes it. -/
def Reader.addToLeaf (r : Reader) (p : LinePos) : Reader :=
  match r.leaf with
  | some (.paragraph lines) => { r with leaf := some (.paragraph (p.toNonspace.rest :: lines)) }
  | some (.fenced c n i info lines) => { r with leaf := some (.fenced c n i info (p.rest :: lines)) }
  | some (.indented lines) => { r with leaf := some (.indented (p.rest :: lines)) }
  | some (.html kind lines) =>
    let r := { r with leaf := some (.html kind (p.rest :: lines)) }
    if kind ≤ 5 && endsHtmlBlock kind p.rest then r.closeLeaf else r
  | some (.table aligns header rows) =>
    let cells := rowCells p.rest
    let row := (List.range header.length).map fun i => cells.getD i ""
    { r with leaf := some (.table aligns header (row :: rows)) }
  | none => r

/-- The table a paragraph's last line and a delimiter row make: the other lines and the
table. -/
def tableStart? (lines : List (List Char)) (delimiter : List Char) :
    Option (List (List Char) × OpenLeaf) :=
  match lines with
  | header :: before => do
    let aligns ← delimiterRow? delimiter
    if !header.contains '|' then none
    else
      let cells := rowCells header
      if cells.isEmpty || cells.length != aligns.length then none
      else some (before, .table aligns cells [])
  | [] => none

/-- What trying a block start came to: the line used up, or not (the reader maybe changed). -/
inductive Attempt where
  | usedUp (r : Reader)
  | passed (r : Reader)

/-- Tries leaf starts at the first non-blank `q` of `p`: ATX heading, fenced code, HTML block,
table, setext heading, thematic break. `closeFirst` closes blocks not going on; an underline
under only reference definitions is no heading. -/
def Reader.tryLeafStarts (r : Reader) (closeFirst : Reader → Reader) (inParagraph : Bool)
    (p q : LinePos) (indent : Nat) : Attempt :=
  let cs := q.rest
  match atxHeading? cs with
  | some (level, text) => .usedUp ((closeFirst r).makeRoom.addBlock (.heading level text))
  | none =>
  match openingFence? cs with
  | some (c, length, info) =>
    .usedUp { (closeFirst r).makeRoom with leaf := some (.fenced c length indent info []) }
  | none =>
  match htmlBlockKind? cs inParagraph with
  | some kind => .usedUp ({ (closeFirst r).makeRoom with leaf := some (.html kind []) }.addToLeaf p)
  | none =>
  let paragraphLines : Option (List (List Char)) :=
    if inParagraph then
      match r.leaf with
      | some (.paragraph lines) => some lines
      | _ => none
    else none
  match paragraphLines.bind (tableStart? · cs) with
  | some (before, table) =>
    .usedUp { { r with leaf := some (.paragraph before) }.closeLeaf with leaf := some table }
  | none =>
  let underlined : Option (Nat × List Char) :=
    match setextLevel? cs, paragraphLines with
    | some level, some lines => some (level, linesText lines)
    | _, _ => none
  let (r, heading) : Reader × Option Attempt :=
    match underlined with
    | some (level, text) =>
      let (defs, rest) := referenceDefinitions (text.length + 1) text
      let r := r.define defs
      if rest.all isBlank then ({ r with leaf := some (.paragraph []) }, none)
      else (r, some (.usedUp ({ r with leaf := none }.addBlock
        (.heading level (String.ofList (trimBlanks rest))))))
    | none => (r, none)
  match heading with
  | some done => done
  | none =>
    if isThematicBreak cs then .usedUp ((closeFirst r).makeRoom.addBlock .rule) else .passed r

/-- What starting blocks came to: the line used up, or its rest from the position is text;
`opened` if a block started. -/
inductive StartResult where
  | usedUp (r : Reader)
  | text (r : Reader) (p : LinePos) (opened : Bool)

/-- Starts blocks at the position: containers, then at most one leaf; `keep` containers went on;
`opened` if one started. -/
def Reader.startBlocks (keep : Nat) (paragraphGoesOn : Bool) :
    Nat → Reader → LinePos → Bool → StartResult
  | 0, r, p, opened => .text r p opened
  | fuel + 1, r, p, opened =>
    let indent := p.indent
    let q := p.toNonspace
    let closeFirst := fun (r : Reader) => if opened then r else r.closeBeyond keep
    if indent ≥ 4 then
      if !r.inParagraph && !p.isBlank then
        .usedUp { (closeFirst r).makeRoom with leaf := some (.indented [(p.dropIndent 4).rest]) }
      else .text r p opened
    else
      match q.rest with
      | '>' :: after =>
        let r := (closeFirst r).makeRoom.openContainer .quote
        let q := q.skip 1
        let q := match after with
          | d :: _ => if isLineBlank d then q.dropIndent 1 else q
          | [] => q
        Reader.startBlocks keep paragraphGoesOn fuel r q true
      | _ =>
        let inParagraph := paragraphGoesOn && !opened
        match r.tryLeafStarts closeFirst inParagraph p q indent with
        | .usedUp r => .usedUp r
        | .passed r =>
          match listMarker? q indent inParagraph with
          | some (marker, textIndent, textPos) =>
            let r := (closeFirst r).closeLeaf
            let r := match r.containers.getLast? with
              | some { container := .list m, .. } =>
                if m.continues marker then r else r.closeInnermost.openContainer (.list marker)
              | _ => r.openContainer (.list marker)
            let r := r.openContainer (.item marker textIndent)
            Reader.startBlocks keep paragraphGoesOn fuel r textPos true
          | none => .text r p opened

/-! ## Lines and documents -/

def Reader.line (r : Reader) (line : List Char) : Reader :=
  let p : LinePos := { col := 0, rest := line }
  let (keep, p) := r.continueFrom 0 p r.containers
  let allContainers := keep = r.containers.length
  let leafStep := if allContainers then r.leaf.map (continueLeaf · p) else none
  match leafStep with
  | some .closes => r.closeLeaf
  | _ =>
    let leafGoesOn := match leafStep with
      | some (.goesOn _) => true
      | _ => false
    let p := match leafStep with
      | some (.goesOn q) => q
      | _ => p
    let allMatched := allContainers && (r.leaf.isNone || leafGoesOn)
    let takesRawLines := leafGoesOn && match r.leaf with
      | some (.fenced ..) | some (.indented _) | some (.html ..) | some (.table ..) => true
      | _ => false
    if takesRawLines then r.addToLeaf p
    else
      match Reader.startBlocks keep (leafGoesOn && r.inParagraph) (line.length + 1) r p false with
      | .usedUp r => r
      | .text r p opened =>
        if !opened && !allMatched && !p.isBlank && r.inParagraph then r.addToLeaf p
        else
          let r := if opened || allMatched then r else r.closeBeyond keep
          if r.leaf.isSome then r.addToLeaf p
          else if p.isBlank then r
          else { r.makeRoom with leaf := some (.paragraph [p.toNonspace.rest]) }

/-! ## Nesting -/

mutual

/-- Blocks whose content lies at nesting `level`, cut to the deepest nesting; whether an item
took the rest of them. -/
def pruneBlocks (level : Nat) : List Block → List Block × Bool
  | [] => ([], false)
  | b :: rest =>
    let (b, took) := pruneBlock level b
    if took then ([b], true)
    else
      let (rest, more) := pruneBlocks level rest
      (b :: rest, more)

/-- A block at nesting `level` cut to the deepest; whether an item in it took the rest. -/
def pruneBlock (level : Nat) : Block → Block × Bool
  | .quote blocks =>
    if level + 1 ≥ maxNesting then (.quote [], false)
    else (.quote (pruneBlocks (level + 1) blocks).1, false)
  | .list marker items =>
    let (items, took) := pruneItems (level + 2) items
    (.list marker items, took)
  | b => (b, false)

/-- A list's items at nesting `level` cut to the deepest; whether an item took the rest. -/
def pruneItems (level : Nat) : List (List Block) → List (List Block) × Bool
  | [] => ([], false)
  | item :: rest =>
    if level ≥ maxNesting then
      if item.isEmpty then
        let (rest, took) := pruneItems level rest
        ([] :: rest, took)
      else ([[]], true)
    else
      let (item, took) := pruneBlocks level item
      if took then ([item], true)
      else
        let (rest, more) := pruneItems level rest
        (item :: rest, more)

end

/-- The characters of a document with its line ends made line feeds and NUL replaced by
U+FFFD. -/
def normalizeLineEnds : List Char → List Char
  | '\r' :: '\n' :: rest => '\n' :: normalizeLineEnds rest
  | '\r' :: rest => '\n' :: normalizeLineEnds rest
  | c :: rest => (if c.toNat = 0 then '\uFFFD' else c) :: normalizeLineEnds rest
  | [] => []

/-- Reads a Markdown document into its blocks and reference definitions. -/
def readMarkdown (text : String) : Document :=
  let cs := normalizeLineEnds text.toList
  let lines := cs.splitOn '\n'
  let lines := if cs.getLast? == some '\n' then lines.dropLast else lines
  let r := (lines.foldl Reader.line {}).closeBeyond 0
  { blocks := (pruneBlocks 0 r.top.reverse).1, references := r.references }

end PackageRegistry.Markdown
