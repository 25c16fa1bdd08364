import PackageRegistry.Markdown.Read
import PackageRegistry.Markdown.Inline
import PackageRegistry.Console.Table
/-!
# Showing a Markdown document

A document shown block after block at a console width: paragraphs and headings laid out, code
between blank lines, quotes after `▌ ` and items after ` • ` or a number, tables unframed. Lines
are cut to the width.
-/

namespace PackageRegistry.Markdown

open PackageRegistry.Console PackageRegistry.Text

/-! ## Laying out text -/

/-- The text running text shows, control characters dropped. -/
def shownText (refs : List (String × String)) (text : String) : String :=
  let pieces := (readInline refs text).filterMap fun
    | .text s => some s
    | _ => none
  String.ofList ((String.join pieces).toList.filter (!isStrippedControl ·))

/-- Text laid out in `width` cells, long words folded. -/
def layOut (text : String) (width : Nat) (how : Justify) : List String :=
  ((Styled.ofString text).wrap width how .fold).map Styled.plain

/-- A line fitted to `width` cells, cut or space-padded; one that fits is padded whole. -/
def fitLine (width : Nat) (line : String) : String :=
  let cells := cellsOf line
  if cells ≤ width then line.pushn ' ' (width - cells)
  else ((Styled.ofString line).truncate width .crop true).plain

/-- A line cut to at most `width` cells; a line that fits is kept as it is. -/
def cropLine (width : Nat) (line : String) : String :=
  if cellsOf line ≤ width then line
  else ((Styled.ofString line).truncate width .crop false).plain

/-- Text with tabs expanded to the next multiple of `size` columns, counted from each line's
start. -/
def expandTabsFrom (size column : Nat) : List Char → List Char
  | [] => []
  | '\t' :: rest =>
    let pad := size - column % size
    List.replicate pad ' ' ++ expandTabsFrom size (column + pad) rest
  | c :: rest =>
    if c == '\n' || c == '\r' then c :: expandTabsFrom size 0 rest
    else c :: expandTabsFrom size (column + 1) rest

/-- The lines of a code block in `width` cells. -/
def codeLines (code : String) (width : Nat) : List String :=
  let kept := dropTrailingBlanks (code.toList.filter (!isStrippedControl ·))
  let text := String.ofList (expandTabsFrom 4 0 kept)
  let inner := width - 2
  let blank := String.ofList (List.replicate width ' ')
  [blank] ++ (text.splitOn "\n").flatMap (fun l => (layOut l inner .left).map (" " ++ · ++ " ")) ++
    [blank]

/-- The lines of a thematic break: a line of `-` across the width and a blank line. -/
def ruleLines (width : Nat) : List String :=
  [String.ofList (List.replicate width '-'), String.ofList (List.replicate width ' ')]

/-- How a table column's cells are aligned. -/
def ColumnAlign.justify : ColumnAlign → Justify
  | .center => .center
  | .right => .right
  | _ => .left

/-- The lines of a table cell laid out in `width` cells with its alignment, each followed by
`pad` blank cells. -/
def tableCellLines (align : ColumnAlign) (width pad : Nat) (cell : Styled) : List String :=
  (cell.wrap width align.justify .ellipsis).map fun l =>
    String.ofList l.chars ++ String.ofList (List.replicate pad ' ')

/-- A table row's lines: each cell in its column, a space apart; short cells filled below (above
when `fromBottom`). -/
def tableRowLines (fromBottom : Bool) (layout : List (ColumnAlign × Nat × Nat))
    (cells : List Styled) : List String :=
  let lines := layout.zipIdx.map fun ((align, width, pad), i) =>
    tableCellLines align width pad (cells.getD i {})
  let height := lines.foldl (fun m ls => max m ls.length) 1
  let filled := (layout.zip lines).map fun ((_, width, pad), ls) =>
    let blank := List.replicate (height - ls.length) (String.ofList (List.replicate (width + pad) ' '))
    if fromBottom then blank ++ ls else ls ++ blank
  (List.range height).map fun i => " " ++ " ".intercalate (filled.map (·.getD i "")) ++ " "

/-- A table's lines: blank, header, `─` rule, rows, blank; a column its widest cell plus a space
(but the last), between spaces. -/
def tableLines (refs : List (String × String)) (aligns : List ColumnAlign) (header : List String)
    (rows : List (List String)) : List String :=
  let cell := fun (t : String) => Styled.ofString (shownText refs t)
  let headerCells := header.map cell
  let bodyCells := rows.map (·.map cell)
  let count := header.length
  let layout := aligns.zipIdx.map fun (align, i) =>
    let width := (headerCells :: bodyCells).foldl (fun m r => max m (r.getD i {}).measure) 0
    (align, width, if i + 1 = count then 0 else 1)
  let inner := layout.foldl (fun s (_, width, pad) => s + width + pad) 0 + (count - 1)
  let blank := String.ofList (List.replicate (inner + 2) ' ')
  [blank] ++ tableRowLines true layout headerCells ++
    [" " ++ String.ofList (List.replicate inner '─') ++ " "] ++
    bodyCells.flatMap (tableRowLines false layout) ++ [blank]

/-- The number of an ordered list item in a column `width` cells wide. -/
def numeral (width n : Nat) : String :=
  let digits := toString n
  String.ofList (List.replicate (width - 1 - digits.length) ' ') ++ digits ++ " "

/-- The lines of an item after its marker, later lines indented as far as the marker is wide. -/
def markedLines (marker : String) (lines : List String) : List String :=
  match lines with
  | [] => []
  | first :: rest =>
    (marker ++ first) :: rest.map (String.ofList (List.replicate marker.length ' ') ++ ·)

/-! ## Blocks in a width -/

mutual

def blockLines (refs : List (String × String)) (width : Nat) : Block → List String
  | .paragraph text => layOut (shownText refs text) width .left
  | .heading level text => layOut (shownText refs text) width (if level = 1 then .center else .left)
  | .code _ text => codeLines text width
  | .rule => ruleLines width
  | .html _ => []
  | .quote blocks => (blocksLines refs (width - 4) blocks).map fun l => "▌ " ++ fitLine (width - 4) l
  | .list (.bullet _) items => bulletLines refs width items
  | .list (.ordered start _) items =>
    let last := start + items.length
    orderedLines refs width ((toString last).length + 2) start items
  | .table aligns header rows => tableLines refs aligns header rows

/-- The lines of blocks one after another in `width` cells. -/
def blocksLines (refs : List (String × String)) (width : Nat) : List Block → List String
  | [] => []
  | b :: rest => blockLines refs width b ++ blocksLines refs width rest

/-- The lines of bullet items in `width` cells. -/
def bulletLines (refs : List (String × String)) (width : Nat) : List (List Block) → List String
  | [] => []
  | item :: rest =>
    markedLines " • " ((blocksLines refs (width - 3) item).map (fitLine (width - 3))) ++
      bulletLines refs width rest

/-- The lines of numbered items in `width` cells, numbers in a column `column` cells wide. -/
def orderedLines (refs : List (String × String)) (width column n : Nat) :
    List (List Block) → List String
  | [] => []
  | item :: rest =>
    markedLines (numeral column n)
        ((blocksLines refs (width - column) item).map (fitLine (width - column))) ++
      orderedLines refs width column (n + 1) rest

end

/-! ## The page -/

/-- A page being written: what is written so far, and whether the next thing shown is set apart
by an empty line. -/
structure Page where
  out : String := ""
  apart : Bool := false

/-- Writes text on the page, after an empty line when one is asked for. -/
def Page.write (pg : Page) (text : String) : Page :=
  { pg with out := pg.out ++ (if pg.apart then "\n" else "") ++ text }

/-- An image's text: `🌆 `, its description (or the destination's last part) and a space, in
`width` cells unpadded. -/
def imageText (width : Nat) (description destination : String) : String :=
  let description := String.ofList (description.toList.filter (!isStrippedControl ·))
  let title :=
    if description.isEmpty then
      let trimmed := (destination.toList.dropWhile (· == '/')).reverse.dropWhile (· == '/')
      String.ofList (trimmed.takeWhile (· != '/')).reverse
    else description
  "\n".intercalate (layOut ("🌆 " ++ title ++ " ") width .asIs)

/-- Writes what running text shows at once: its images, and the spacing raw HTML asks for. -/
def Page.inlines (width : Nat) (pg : Page) : List Inline → Page
  | [] => pg
  | .image d dest :: rest =>
    Page.inlines width { pg.write (imageText width d dest) with apart := false } rest
  | .html :: rest => Page.inlines width { pg.write "" with apart := true } rest
  | .text _ :: rest => Page.inlines width pg rest

/-- Reads running text for what it shows at once; empty text asks for an empty line. -/
def Page.running (refs : List (String × String)) (width : Nat) (pg : Page) (text : String) : Page :=
  let pg := pg.inlines width (readInline refs text)
  if text.isEmpty then { pg with apart := true } else pg

/-- Closes a block, writing a top-level one with its lines laid out then; an empty line follows
unless a thematic break. -/
def Page.close (pg : Page) (top : Bool) (lines : Unit → List String) (apart : Bool) : Page :=
  let pg := if top then pg.write (String.join ((lines ()).map (· ++ "\n"))) else pg
  { pg with apart := apart }

mutual

/-- Shows a block, `top` when it is not inside another. -/
def Page.block (refs : List (String × String)) (width : Nat) (top : Bool) (pg : Page) :
    Block → Page
  | .paragraph text =>
    (pg.running refs width text).close top (fun _ => blockLines refs width (.paragraph text)) true
  | .heading level text =>
    (pg.running refs width text).close top (fun _ => blockLines refs width (.heading level text)) true
  | .code info text => pg.close top (fun _ => blockLines refs width (.code info text)) true
  | .rule => pg.close top (fun _ => ruleLines width) false
  | .html _ => pg.close top (fun _ => []) true
  | .quote blocks =>
    (Page.blocks refs width pg blocks).close top (fun _ => blockLines refs width (.quote blocks)) true
  | .list marker items =>
    (Page.items refs width pg items).close top (fun _ => blockLines refs width (.list marker items)) true
  | .table aligns header rows =>
    let pg := (header ++ rows.flatten).foldl (fun pg t =>
      { pg.running refs width t with apart := true }) pg
    pg.close top (fun _ => tableLines refs aligns header rows) true

/-- Shows blocks inside another, one after another. -/
def Page.blocks (refs : List (String × String)) (width : Nat) (pg : Page) : List Block → Page
  | [] => pg
  | b :: rest => Page.blocks refs width (Page.block refs width false pg b) rest

/-- Shows the items of a list; each closed item asks for an empty line. -/
def Page.items (refs : List (String × String)) (width : Nat) (pg : Page) :
    List (List Block) → Page
  | [] => pg
  | item :: rest => Page.items refs width { Page.blocks refs width pg item with apart := true } rest

end

/-- The text a Markdown document shows in a console `width` cells wide. -/
def showMarkdown (width : Nat) (text : String) : String :=
  let doc := readMarkdown text
  let pg := doc.blocks.foldl (Page.block doc.references width true) {}
  "\n".intercalate ((pg.out.splitOn "\n").map (cropLine width))

end PackageRegistry.Markdown
