import PackageRegistry.Text.CodeRange
import PackageRegistry.Text.PropertyTables
/-!
# Terminal cells

How many terminal columns text takes (Unicode 17): zero-width code points none, East Asian wide
and fullwidth characters two, others one. Text is cut only between clusters.
-/

namespace PackageRegistry.Text

def zeroWidthJoiner : Char := '\u200D'

/-- The variation selector that asks for an emoji presentation. -/
def emojiSelector : Char := '\uFE0F'

/-- The code points that take no cell: the controls, the marks, the format characters and the
skin tone modifiers. -/
def zeroCellTable : Array CodeRun :=
  CodeRun.tableOfText PropertyTable.zeroCell.text

/-- The code points that take two cells: the East Asian wide and fullwidth characters. -/
def wideCellTable : Array CodeRun :=
  CodeRun.tableOfText PropertyTable.wideCell.text

/-- The narrow characters that an emoji variation selector widens to two cells. -/
def selectorWidenedTable : Array CodeRun :=
  CodeRun.tableOfText PropertyTable.selectorWidened.text

/-- The cells one character takes on its own: zero, one or two. -/
def charCells (c : Char) : Nat :=
  let n := c.toNat
  if 0x20 ≤ n && n < 0x7F then 1
  else if CodeRun.tableContains zeroCellTable n then 0
  else if CodeRun.tableContains wideCellTable n then 2
  else 1

/-- Whether an emoji variation selector after the character widens it. -/
def widenedBySelector (c : Char) : Bool :=
  CodeRun.tableContains selectorWidenedTable c.toNat

/-- Cells of the characters left added to `acc`, `last` the cell-taking character awaiting a
variation selector. -/
def cellsFrom (acc : Nat) (last : Option Char) : List Char → Nat
  | [] => acc
  | c :: rest =>
    if c = zeroWidthJoiner then
      cellsFrom acc last rest.tail
    else if c = emojiSelector then
      let widened := match last with
        | some l => if widenedBySelector l then 1 else 0
        | none => 0
      cellsFrom (acc + widened) none rest
    else
      let w := charCells c
      if w = 0 then cellsFrom acc last rest else cellsFrom (acc + w) (some c) rest
termination_by cs => cs.length
decreasing_by
  all_goals simp only [List.length_cons, List.length_tail]
  all_goals omega

/-- The cells a piece of text takes. -/
def cellLength (cs : List Char) : Nat := cellsFrom 0 none cs

/-- One step of `cellsFrom`: cells so far, last cell-taking character, whether after a joiner
(then skipped). -/
def cellStep (state : Nat × Option Char × Bool) (c : Char) : Nat × Option Char × Bool :=
  let (acc, last, afterJoiner) := state
  if afterJoiner then (acc, last, false)
  else if c = zeroWidthJoiner then (acc, last, true)
  else if c = emojiSelector then
    let widened := match last with
      | some l => if widenedBySelector l then 1 else 0
      | none => 0
    (acc + widened, none, false)
  else
    let w := charCells c
    if w = 0 then (acc, last, false) else (acc + w, some c, false)

/-- The cells a string takes, measured in one pass over it. -/
def cellsOf (s : String) : Nat := (s.foldl cellStep (0, none, false)).1

/-! ## Clusters -/

/-- A cluster of characters that is never cut in two, with the cells it takes. -/
structure Cluster where
  chars : List Char
  cells : Nat
  deriving Repr, BEq, Inhabited

/-- Clusters of the characters left, those so far nearest first, `last` awaiting a variation
selector. -/
def clustersFrom (done : List Cluster) (last : Option Char) : List Char → List Cluster
  | [] => done.reverse
  | c :: rest =>
    if c = zeroWidthJoiner || c = emojiSelector then
      match done with
      | [] => clustersFrom [⟨[c], 0⟩] last rest
      | k :: older =>
        if c = zeroWidthJoiner then
          clustersFrom (⟨k.chars ++ c :: rest.take 1, k.cells⟩ :: older) last rest.tail
        else
          match last with
          | some l =>
            if widenedBySelector l then clustersFrom (⟨k.chars ++ [c], k.cells + 1⟩ :: older) none rest
            else clustersFrom (⟨k.chars ++ [c], k.cells⟩ :: older) last rest
          | none => clustersFrom (⟨k.chars ++ [c], k.cells⟩ :: older) last rest
    else
      let w := charCells c
      if w = 0 then
        match done with
        | [] => clustersFrom [⟨[c], 0⟩] last rest
        | k :: older => clustersFrom (⟨k.chars ++ [c], k.cells⟩ :: older) last rest
      else clustersFrom (⟨[c], w⟩ :: done) (some c) rest
termination_by cs => cs.length
decreasing_by
  all_goals simp only [List.length_cons, List.length_tail]
  all_goals omega

/-- The clusters of a piece of text, in order. -/
def clusters (cs : List Char) : List Cluster := clustersFrom [] none cs

/-- Clusters fitting in `room` cells from the front, nearest first onto `kept`, with their
cells. -/
def fittingClusters (room : Nat) (kept : List Char) (used : Nat) : List Cluster → List Char × Nat
  | [] => (kept, used)
  | k :: rest =>
    if used + k.cells ≤ room then fittingClusters room (k.chars.reverse ++ kept) (used + k.cells) rest
    else (kept, used)

/-- Text fitted to `total` cells: space-padded when short; when long cut before the first
cluster not fitting, spaces filling. -/
def fitCells (total : Nat) (cs : List Char) : List Char :=
  let size := cellLength cs
  if size = total then cs
  else if size < total then cs ++ List.replicate (total - size) ' '
  else
    let (kept, used) := fittingClusters total [] 0 (clusters cs)
    kept.reverse ++ List.replicate (total - used) ' '

/-- Clusters chopped into pieces of at most `width` cells, the current piece reversed; an empty
last piece dropped. -/
def chopFrom (width : Nat) (line : List Char) (used : Nat) : List Cluster → List (List Char)
  | [] => if used = 0 then [] else [line.reverse]
  | k :: rest =>
    if used + k.cells > width then line.reverse :: chopFrom width k.chars.reverse k.cells rest
    else chopFrom width (k.chars.reverse ++ line) (used + k.cells) rest

/-- Text chopped into pieces of at most `width` cells each, cluster by cluster. -/
def chopCells (width : Nat) (cs : List Char) : List (List Char) :=
  chopFrom width [] 0 (clusters cs)

end PackageRegistry.Text
