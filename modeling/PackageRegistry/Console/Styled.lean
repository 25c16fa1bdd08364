import PackageRegistry.Console.Style
import PackageRegistry.Text.CellWidth
import PackageRegistry.Text.Blank
/-!
# Styled text

Text whose stretches carry styles, and the edits terminal layout makes to it: division at
offsets, control characters dropped, tabs expanded, truncation to a width, and painting, later
stretches over earlier ones.
-/

namespace PackageRegistry.Console

open PackageRegistry.Text

/-- Whether a character is dropped from text: BEL, BS, VT, FF or CR. -/
def isStrippedControl (c : Char) : Bool :=
  c = '\x07' || c = '\x08' || c = '\x0b' || c = '\x0c' || c = '\r'

def dropTrailingBlanks (cs : List Char) : List Char := (dropBlanks cs.reverse).reverse

/-- A stretch of text in a style, from `start` up to but not including `stop`. -/
structure Span where
  start : Nat
  stop : Nat
  style : StyleSpec
  deriving Repr, BEq, Inhabited

/-- The stretch moved `n` characters on. -/
def Span.shift (n : Nat) (s : Span) : Span := { s with start := s.start + n, stop := s.stop + n }

/-- What to do with text wider than its room. -/
inductive Overflow where
  /-- Break long words across lines. -/
  | fold
  /-- Cut the text at the edge. -/
  | crop
  /-- Cut the text and end it with `…`. -/
  | ellipsis
  /-- Leave the text as wide as it is. -/
  | ignore
  deriving Repr, BEq, DecidableEq

/-- Text with styled stretches. -/
structure Styled where
  chars : List Char := []
  spans : List Span := []
  deriving Repr, BEq, Inhabited

namespace Styled

/-- Unstyled text. -/
def ofString (s : String) : Styled := { chars := s.toList }

/-- The number of characters. -/
def length (t : Styled) : Nat := t.chars.length

/-- The cells the text takes. -/
def cells (t : Styled) : Nat := cellLength t.chars

/-- The characters as a string. -/
def plain (t : Styled) : String := String.ofList t.chars

/-- Stretches cut to `a`..`b` and counted from `a`; empty ones dropped. -/
def spansWithin (spans : List Span) (a b : Nat) : List Span :=
  spans.filterMap fun s =>
    let lo := s.start - a
    let hi := min (s.stop - a) (b - a)
    if lo < hi then some { s with start := lo, stop := hi } else none

/-- The stretches cut to the first `n` characters. -/
def spansBefore (spans : List Span) (n : Nat) : List Span :=
  spans.filterMap fun s => if s.start < n then some { s with stop := min s.stop n } else none

/-- The pieces of the characters from position `pos` on, between the given offsets. -/
def piecesFrom (spans : List Span) (pos : Nat) (rest : List Char) : List Nat → List Styled
  | [] => [{ chars := rest, spans := spansWithin spans pos (pos + rest.length) }]
  | o :: os =>
    { chars := rest.take (o - pos), spans := spansWithin spans pos o } ::
      piecesFrom spans o (rest.drop (o - pos)) os

/-- The text divided at the given increasing offsets. -/
def divide (t : Styled) (offsets : List Nat) : List Styled :=
  if offsets.isEmpty then [t] else piecesFrom t.spans 0 t.chars offsets

/-- The offsets just after each occurrence of a character. -/
def offsetsAfter (c : Char) (cs : List Char) : List Nat :=
  (cs.zipIdx).filterMap fun (d, i) => if d = c then some (i + 1) else none

/-- The lines of the text, split at line feeds; text ending in a line feed ends with an empty
line. -/
def lines (t : Styled) : List Styled :=
  let feeds := offsetsAfter '\n' t.chars
  if feeds.isEmpty then [t]
  else (t.divide (feeds.flatMap fun i => [i - 1, i])).filter fun l => l.chars != ['\n']

/-- Pieces of text one after another, the stretches of each moved past the ones before. -/
def joinAll (ts : List Styled) : Styled :=
  let step := fun (acc : List Char × List Span × Nat) (t : Styled) =>
    let (reversed, spans, offset) := acc
    (t.chars.reverse ++ reversed, spans ++ t.spans.map (Span.shift offset), offset + t.length)
  let (reversed, spans, _) := ts.foldl step ([], [], 0)
  { chars := reversed.reverse, spans := spans }

def joinLines (ts : List Styled) : Styled :=
  joinAll (ts.intersperse (ofString "\n"))

/-- The text with new characters, controls dropped; stretches cut to a shorter length. -/
def withChars (t : Styled) (cs : List Char) : Styled :=
  let kept := cs.filter (!isStrippedControl ·)
  if kept.length < t.length then { chars := kept, spans := spansBefore t.spans kept.length }
  else { t with chars := kept }

/-- The text without its last `n` characters. -/
def rightCrop (t : Styled) (n : Nat) : Styled :=
  let keep := t.length - n
  { chars := t.chars.take keep, spans := spansBefore t.spans keep }

/-- The text with trailing blanks dropped beyond `size` characters. -/
def rstripEnd (t : Styled) (size : Nat) : Styled :=
  let len := t.length
  if len > size then
    let blanks := (t.chars.reverse.takeWhile isBlank).length
    if blanks > 0 then t.rightCrop (min blanks (len - size)) else t
  else t

/-- The text without trailing blanks. -/
def rstrip (t : Styled) : Styled := t.withChars (dropTrailingBlanks t.chars)

/-- The text with `n` spaces before it. -/
def padLeft (t : Styled) (n : Nat) : Styled :=
  if n = 0 then t
  else
    let moved := t.withChars (List.replicate n ' ' ++ t.chars)
    { moved with spans := moved.spans.map (Span.shift n) }

/-- The text with `n` spaces after it. -/
def padRight (t : Styled) (n : Nat) : Styled :=
  if n = 0 then t else t.withChars (t.chars ++ List.replicate n ' ')

/-- Text fitted to `width` cells: cut (ending in `…` for an ellipsis), or padded when `pad`. -/
def truncate (t : Styled) (width : Nat) (overflow : Overflow) (pad : Bool) : Styled :=
  if overflow = .ignore then t
  else
    let size := t.cells
    let cut :=
      if size > width then
        if overflow = .ellipsis then t.withChars (fitCells (width - 1) t.chars ++ ['…'])
        else t.withChars (fitCells width t.chars)
      else t
    if pad && size < width then { cut with chars := cut.chars ++ List.replicate (width - size) ' ' }
    else cut

/-! ## Tabs -/

/-- A line piece cut after its tabs, from cell `column`: a final tab becomes spaces to the next
multiple of eight, end stretches growing; with the next column. -/
def expandPiece (column : Nat) (p : Styled) : Styled × Nat :=
  match p.chars.getLast? with
  | some '\t' =>
    let cs := p.chars.dropLast ++ [' ']
    let here := column + cellLength cs
    let rem := here % 8
    if rem = 0 then ({ p with chars := cs }, here)
    else
      let extra := 8 - rem
      let len := cs.length
      ({ chars := cs ++ List.replicate extra ' ',
         spans := p.spans.map fun s => if s.stop ≥ len then { s with stop := s.stop + extra } else s },
       here + extra)
  | _ => (p, column + cellLength p.chars)

def expandLineTabs (line : Styled) : Styled :=
  if !line.chars.contains '\t' then line
  else
    let step := fun (acc : List Styled × Nat) (p : Styled) =>
      let (q, column) := expandPiece acc.2 p
      (q :: acc.1, column)
    joinAll ((line.divide (offsetsAfter '\t' line.chars)).foldl step ([], 0)).1.reverse

def expandTabs (t : Styled) : Styled :=
  if !t.chars.contains '\t' then t
  else
    let feeds := offsetsAfter '\n' t.chars
    if feeds.isEmpty then expandLineTabs t
    else joinAll ((t.divide feeds).map expandLineTabs)

/-! ## Painting -/

/-- The style of characters `a`..`b`: the covering stretches' styles laid over in order. -/
def styleBetween (spans : List Span) (a b : Nat) : StyleSpec :=
  spans.foldl (fun acc s => if s.start ≤ a && b ≤ s.stop then acc.over s.style else acc) {}

/-- The pieces of the characters from one cut to the next, each with its style. -/
def piecesBetween (spans : List Span) (rest : List Char) : List Nat → List (String × StyleSpec)
  | a :: b :: more =>
    (String.ofList (rest.take (b - a)), styleBetween spans a b) ::
      piecesBetween spans (rest.drop (b - a)) (b :: more)
  | _ => []

/-- The text as pieces each in one style, cut at every start and end of a stretch. -/
def segments (t : Styled) : List (String × StyleSpec) :=
  if t.spans.isEmpty then [(t.plain, {})]
  else
    let len := t.length
    let cuts := ((0 :: len :: t.spans.flatMap fun s => [s.start, s.stop]).filter (· ≤ len))
    piecesBetween t.spans t.chars (cuts.mergeSort (· ≤ ·)).eraseDups

end Styled

end PackageRegistry.Console
