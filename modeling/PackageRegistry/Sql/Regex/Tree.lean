import PackageRegistry.Text.Word
import PackageRegistry.Text.Digit
import PackageRegistry.Text.Blank
import PackageRegistry.Text.SimpleCase
/-!
# Regular expression trees

A pattern is read into a tree before matching. Text patterns read code points, blob patterns
bytes; classes are Unicode in text, ASCII under `a` or over bytes. A part's width is the fewest
and most characters it matches.
-/

namespace PackageRegistry.Sql

open PackageRegistry.Text

/-- A pattern's options, for the whole (`(?im)`) or a group (`(?i:…)`, `(?-i:…)`). -/
structure RegexFlags where
  ignoreCase : Bool := false
  locale : Bool := false
  multiline : Bool := false
  dotAll : Bool := false
  verbose : Bool := false
  ascii : Bool := false
  template : Bool := false
  unicode : Bool := false
  deriving BEq, DecidableEq, Repr

/-- The options of one letter: `i L m s x a t u`. -/
def RegexFlags.ofLetter? (c : Nat) : Option RegexFlags :=
  match c with
  | 105 => some { ignoreCase := true }
  | 76 => some { locale := true }
  | 109 => some { multiline := true }
  | 115 => some { dotAll := true }
  | 120 => some { verbose := true }
  | 97 => some { ascii := true }
  | 116 => some { template := true }
  | 117 => some { unicode := true }
  | _ => none

/-- Options that are on in either. -/
def RegexFlags.union (a b : RegexFlags) : RegexFlags :=
  { ignoreCase := a.ignoreCase || b.ignoreCase, locale := a.locale || b.locale,
    multiline := a.multiline || b.multiline, dotAll := a.dotAll || b.dotAll,
    verbose := a.verbose || b.verbose, ascii := a.ascii || b.ascii,
    template := a.template || b.template, unicode := a.unicode || b.unicode }

/-- Options of `a` that are not on in `b`. -/
def RegexFlags.minus (a b : RegexFlags) : RegexFlags :=
  { ignoreCase := a.ignoreCase && !b.ignoreCase, locale := a.locale && !b.locale,
    multiline := a.multiline && !b.multiline, dotAll := a.dotAll && !b.dotAll,
    verbose := a.verbose && !b.verbose, ascii := a.ascii && !b.ascii,
    template := a.template && !b.template, unicode := a.unicode && !b.unicode }

/-- Whether any option is on in both. -/
def RegexFlags.meets (a b : RegexFlags) : Bool :=
  (a.ignoreCase && b.ignoreCase) || (a.locale && b.locale) || (a.multiline && b.multiline) ||
    (a.dotAll && b.dotAll) || (a.verbose && b.verbose) || (a.ascii && b.ascii) ||
    (a.template && b.template) || (a.unicode && b.unicode)

/-- How many of the options that choose the classes (`a`, `L`, `u`) are on. -/
def RegexFlags.typeCount (f : RegexFlags) : Nat :=
  (if f.ascii then 1 else 0) + (if f.locale then 1 else 0) + (if f.unicode then 1 else 0)

/-- Whether no option is on. -/
def RegexFlags.isEmpty (f : RegexFlags) : Bool := f == {}

/-- Options in a group turning `add` on and `del` off; a class option there replaces the
current. -/
def RegexFlags.within (f add del : RegexFlags) : RegexFlags :=
  let f := if add.typeCount > 0 then { f with ascii := false, locale := false, unicode := false } else f
  (f.union add).minus del

/-- A class of characters named by an escape. -/
inductive CharCategory where
  | digit
  | space
  | word
  deriving BEq, DecidableEq, Repr

/-- One member of a bracketed set. -/
inductive SetItem where
  | single (c : Nat)
  | range (lo hi : Nat)
  | category (k : CharCategory) (negated : Bool)
  deriving BEq, DecidableEq, Repr

/-- A test at a position that reads no character: `^ $ \A \Z \b \B`. -/
inductive Anchor where
  | lineStart
  | lineEnd
  | textStart
  | textEnd
  | boundary (negated : Bool)
  deriving BEq, DecidableEq, Repr

/-- How a quantifier chooses how often to repeat. -/
inductive RepeatMode where
  | greedy
  | lazy
  | possessive
  deriving BEq, DecidableEq, Repr

/-- A read pattern; repeats, groups and assertions hold the sequence they apply to. -/
inductive RegexNode where
  | literal (c : Nat)
  | notLiteral (c : Nat)
  | any
  /-- A set of characters: the members (or the characters outside them, when negated). The
  class escapes `\d \s \w` and their complements are sets of one class. -/
  | set (negated : Bool) (items : List SetItem)
  | anchor (a : Anchor)
  | branch (alternatives : List (List RegexNode))
  | rep (min : Nat) (max : Option Nat) (mode : RepeatMode) (body : List RegexNode)
  /-- A group: capturing when it has an index, with the options turned on and off inside. -/
  | group (index : Option Nat) (add del : RegexFlags) (body : List RegexNode)
  | atomic (body : List RegexNode)
  | look (behind negated : Bool) (body : List RegexNode)
  | groupRef (index : Nat)
  | groupExists (index : Nat) (yes : List RegexNode) (no : Option (List RegexNode))

/-- Whether two nodes are the same simple node (character, set, anchor, group reference);
compound nodes never are. -/
def RegexNode.sameSimple : RegexNode → RegexNode → Bool
  | .literal a, .literal b => a == b
  | .notLiteral a, .notLiteral b => a == b
  | .any, .any => true
  | .set n a, .set m b => n == m && a == b
  | .anchor a, .anchor b => a == b
  | .groupRef a, .groupRef b => a == b
  | _, _ => false

/-! ## Characters -/

def isAsciiLetter (c : Nat) : Bool := (65 ≤ c && c ≤ 90) || (97 ≤ c && c ≤ 122)

def isAsciiDigit (c : Nat) : Bool := 48 ≤ c && c ≤ 57

def isOctalDigit (c : Nat) : Bool := 48 ≤ c && c ≤ 55

/-- Whether a code point is a hexadecimal digit. -/
def isHexCode (c : Nat) : Bool := isAsciiDigit c || (97 ≤ c && c ≤ 102) || (65 ≤ c && c ≤ 70)

/-- The value of a hexadecimal digit. -/
def hexCodeValue (c : Nat) : Nat := if isAsciiDigit c then c - 48 else (c ||| 32) - 87

/-- Whether a character belongs to a class, by the Unicode classes or by ASCII alone. -/
def CharCategory.test (k : CharCategory) (unicode : Bool) (c : Nat) : Bool :=
  match k with
  | .digit => if unicode then isDecimalDigit (Char.ofNat c) else isAsciiDigit c
  | .space =>
    if unicode then isBlank (Char.ofNat c) else (9 ≤ c && c ≤ 13) || c == 32
  | .word =>
    if unicode then isWordChar (Char.ofNat c)
    else isAsciiLetter c || isAsciiDigit c || c == 95

/-- How characters compare. -/
inductive CaseRule where
  | exact
  /-- ASCII letters are lowered. -/
  | ascii
  /-- Characters are lowered to the first code point of their lowercase. -/
  | unicode
  deriving BEq, DecidableEq, Repr

/-- A character lowered by a rule. -/
def CaseRule.lower : CaseRule → Nat → Nat
  | .exact, c => c
  | .ascii, c => if 65 ≤ c && c ≤ 90 then c + 32 else c
  | .unicode, c => lowerFirst c

/-- Whether a character has another case under a rule. -/
def CaseRule.cased : CaseRule → Nat → Bool
  | .exact, _ => false
  | .ascii, c => isAsciiLetter c
  | .unicode, c => isCasedCode c

/-- Whether some character between two bounds has another case under a rule. -/
def CaseRule.casedBetween : CaseRule → Nat → Nat → Bool
  | .exact, _, _ => false
  | .ascii, lo, hi => (lo ≤ 90 && 65 ≤ hi) || (lo ≤ 122 && 97 ≤ hi)
  | .unicode, lo, hi => anyCasedBetween lo hi

/-- The other lowered characters that count as the lowered character `l`. -/
def CaseRule.others : CaseRule → Nat → List Nat
  | .unicode, l => sharedUpper l
  | _, _ => []

/-- The characters that a rule lowers to `l`. -/
def CaseRule.sources : CaseRule → Nat → List Nat
  | .exact, l => [l]
  | .ascii, l =>
    if 97 ≤ l && l ≤ 122 then [l, l - 32] else if 65 ≤ l && l ≤ 90 then [] else [l]
  | .unicode, l => lowerSources l

/-- The first code point past the basic plane; members past it are kept as written, not
lowered. -/
def planeLimit : Nat := 0x10000

/-- Whether a set member holds `x`, lowered by the rule: caseless, a single member holds its
lowered forms, a range those and characters whose uppercase it holds. -/
def SetItem.test (rule : CaseRule) (unicode : Bool) (x : Nat) : SetItem → Bool
  | .single c =>
    if rule == .exact || c ≥ planeLimit then x == c
    else
      let l := rule.lower c
      x == l || (rule.others l).contains x
  | .range lo hi =>
    if rule == .exact then lo ≤ x && x ≤ hi
    else
      let top := min hi (planeLimit - 1)
      let inPlane := lo < planeLimit &&
        (x :: rule.others x).any fun l => (rule.sources l).any fun c => lo ≤ c && c ≤ top
      let beyond := hi ≥ planeLimit &&
        ((lo ≤ x && x ≤ hi) || (let u := upperFirst x; lo ≤ u && u ≤ hi))
      inPlane || beyond
  | .category k negated => k.test unicode x != negated

/-- Whether a member makes a caseless set compare lowered: cased, or past the basic plane. -/
def SetItem.cased (rule : CaseRule) : SetItem → Bool
  | .single c => c ≥ planeLimit || rule.cased c
  | .range lo hi => hi ≥ planeLimit || rule.casedBetween lo hi
  | .category .. => false

/-! ## Widths -/

/-- The width standing for "no bound". -/
def unboundedWidth : Nat := Nat.pow 2 64

/-- The width of a group by its index, when it is closed. -/
abbrev GroupWidths := List (Nat × (Nat × Nat))

mutual

/-- The fewest and the most characters a sequence matches. -/
def widthOfSeq (groups : GroupWidths) : List RegexNode → Nat × Nat
  | [] => (0, 0)
  | n :: rest =>
    let (a, b) := widthOfNode groups n
    let (c, d) := widthOfSeq groups rest
    (min (a + c) unboundedWidth, min (b + d) unboundedWidth)

/-- The fewest and the most characters a node matches. -/
def widthOfNode (groups : GroupWidths) : RegexNode → Nat × Nat
  | .literal _ | .notLiteral _ | .any | .set .. => (1, 1)
  | .anchor _ | .look .. => (0, 0)
  | .branch alts => widthOfAlternatives groups alts
  | .rep lo hi _ body =>
    let (i, j) := widthOfSeq groups body
    (min (i * lo) unboundedWidth, match hi with
      | none => if j == 0 then 0 else unboundedWidth
      | some h => min (j * h) unboundedWidth)
  | .group _ _ _ body | .atomic body => widthOfSeq groups body
  | .groupRef i => ((groups.find? (·.1 == i)).map (·.2)).getD (0, 0)
  | .groupExists _ yes no =>
    let (i, j) := widthOfSeq groups yes
    match no with
    | some n =>
      let (l, h) := widthOfSeq groups n
      (min i l, max j h)
    | none => (0, j)

/-- The width of alternatives: the fewest of their fewest and the most of their most. -/
def widthOfAlternatives (groups : GroupWidths) : List (List RegexNode) → Nat × Nat
  | [] => (unboundedWidth, 0)
  | a :: rest =>
    let (i, j) := widthOfSeq groups a
    let (l, h) := widthOfAlternatives groups rest
    (min i l, max j h)

end

end PackageRegistry.Sql
