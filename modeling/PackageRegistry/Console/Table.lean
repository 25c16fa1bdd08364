import PackageRegistry.Console.Markup
import PackageRegistry.Console.Layout
/-!
# Boxed tables

Tables drawn with box-drawing characters, each column its widest cell plus a space either side.
Cells are markup laid out in their width, a row as tall as its tallest cell.
-/

namespace PackageRegistry.Console

open PackageRegistry.Text

/-! ## Tables -/

/-- A column: header, alignment, its cells' style name, and whether cells stay on one line. -/
structure TableColumn where
  header : String
  justify : Justify := .left
  style : String := ""
  noWrap : Bool := false
  deriving Repr, BEq

/-- A row: one markup cell per column, whether a rule follows it, and the name of its style. -/
structure TableRow where
  cells : List String
  endsSection : Bool := false
  style : String := ""
  deriving Repr, BEq

/-- A table: an optional title, whether the headers are shown and the name of their style, the
columns and the rows. -/
structure Table where
  title : Option String := none
  showHeader : Bool := true
  headerStyle : String := ""
  columns : List TableColumn
  rows : List TableRow
  deriving Repr, BEq

/-! ## Measuring -/

/-- Whether a character ends a line when a cell is measured. -/
def isLineSeparator (c : Char) : Bool :=
  c = '\n' || c = '\r' || c = '\x0b' || c = '\x0c' || c = '\x1c' || c = '\x1d' || c = '\x1e' ||
    c = '\x85' || c = '\u2028' || c = '\u2029'

/-- The lines of a cell's text for measuring, the character after the last separator
included. -/
def measuredLines (cs : List Char) : List (List Char) :=
  let step := fun (acc : List (List Char) × List Char) (c : Char) =>
    if isLineSeparator c then (acc.2.reverse :: acc.1, []) else (acc.1, c :: acc.2)
  let (done, current) := cs.foldl step ([], [])
  (current.reverse :: done).reverse

/-- The cells a rendered cell needs: its widest line. -/
def Styled.measure (t : Styled) : Nat :=
  (measuredLines t.chars).foldl (fun m l => max m (cellLength l)) 0

/-! ## Drawing -/

/-- A piece of text in a style, painted when colors are on. -/
def paintIf (colored : Bool) (style : StyleSpec) (text : String) : String :=
  if colored then style.paint text else text

/-- The lines of a cell laid out in a column of `width` (spaces included), each as its text in
styles. -/
def cellLines (column : TableColumn) (width : Nat) (cell : Styled) :
    List (List (String × StyleSpec)) :=
  (cell.wrap (width - 2) column.justify .ellipsis column.noWrap).map fun l =>
    (" ", ({} : StyleSpec)) :: l.segments ++ [(" ", ({} : StyleSpec))]

/-- A line of a cell drawn in the cell's style; a blank filler line for none. -/
def drawCellLine (colored : Bool) (style : StyleSpec) (width : Nat) :
    Option (List (String × StyleSpec)) → String
  | some pieces => String.join (pieces.map fun (text, s) => paintIf colored (style.over s) text)
  | none => paintIf colored style (String.ofList (List.replicate width ' '))

/-- A rule across columns: left end, a piece over each column, joints between, right end. -/
def ruleLine (left piece joint right : String) (widths : List Nat) : String :=
  left ++ joint.intercalate (widths.map fun w => String.join (List.replicate w piece)) ++ right

/-- A row's lines between bars, cells laid out in their columns; `fromBottom` puts filler
lines above. -/
def rowLines (colored : Bool) (bar : String) (fromBottom : Bool)
    (layout : List (TableColumn × Nat × StyleSpec)) (cells : List Styled) : List String :=
  let lines := (layout.zip cells).map fun ((c, w, _), cell) => (cellLines c w cell).map some
  let height := lines.foldl (fun m ls => max m ls.length) 1
  let filled := lines.map fun ls =>
    let blank := List.replicate (height - ls.length) none
    if fromBottom then blank ++ ls else ls ++ blank
  (List.range height).map fun i =>
    let pieces := (layout.zip filled).map fun ((_, w, style), ls) =>
      drawCellLine colored style w (ls.getD i none)
    bar ++ bar.intercalate pieces ++ bar

/-- Renders every cell of each column, the header first when shown, stopping at the first
markup error. -/
def renderColumns (showHeader : Bool) (columns : List TableColumn) (rows : List TableRow) :
    Except MarkupError (List (List Styled)) :=
  (columns.zipIdx).mapM fun (c, i) =>
    let cells := rows.map fun r => r.cells.getD i ""
    (if showHeader then c.header :: cells else cells).mapM (markupText ·)

/-- Turns columns of cells into rows of cells. -/
def transpose (count : Nat) (columns : List (List Styled)) : List (List Styled) :=
  (List.range count).map fun i => columns.map fun col => col.getD i {}

/-- The lines of a title laid out centered over `width` cells, each in the title style. -/
def titleLines (colored : Bool) (width : Nat) (title : Styled) : List String :=
  let style := styleNamed "table.title"
  (title.wrap width .center .fold).map fun l =>
    let whole : Styled := { l with spans := ⟨0, l.length, style⟩ :: l.spans }
    String.join (whole.segments.map fun (text, s) => paintIf colored s text)

/-- The text of a table, each line ending with a line feed; `colored` for a color terminal. -/
def Table.render (t : Table) (colored : Bool := false) : Except MarkupError String := do
  let rendered ← renderColumns t.showHeader t.columns t.rows
  let widths := rendered.map fun cells => cells.foldl (fun m c => max m (c.measure + 2)) 2
  let headerStyle := styleNamed t.headerStyle
  let headerLayout := (t.columns.zip widths).map fun (c, w) => (c, w, headerStyle)
  let total := widths.foldl (· + ·) 0 + widths.length + 1
  let title ← match t.title with
    | some title =>
      if title.isEmpty then pure []
      else do
        let text ← markupText title
        pure (titleLines colored total text)
    | none => pure []
  let bodyCount := t.rows.length
  let allRows := transpose (bodyCount + (if t.showHeader then 1 else 0)) rendered
  let (headerLines, bodyRows) :=
    if t.showHeader then
      match allRows with
      | header :: rest =>
        (ruleLine "┏" "━" "┳" "┓" widths :: rowLines colored "┃" true headerLayout header ++
          [ruleLine "┡" "━" "╇" "┩" widths], rest)
      | [] => ([ruleLine "┏" "━" "┳" "┓" widths], [])
    else ([ruleLine "┌" "─" "┬" "┐" widths], allRows)
  let body := ((bodyRows.zip t.rows).zipIdx).flatMap fun ((cells, r), i) =>
    let rowStyle := styleNamed r.style
    let layout := (t.columns.zip widths).map fun (c, w) => (c, w, (styleNamed c.style).over rowStyle)
    rowLines colored "│" false layout cells ++
      (if r.endsSection && i + 1 < bodyCount then [ruleLine "├" "─" "┼" "┤" widths] else [])
  let lines := title ++ headerLines ++ body ++ [ruleLine "└" "─" "┴" "┘" widths]
  pure (String.join (lines.map (· ++ "\n")))

end PackageRegistry.Console
