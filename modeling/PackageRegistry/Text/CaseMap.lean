import PackageRegistry.Text.CaseTable
/-!
# Case mapping

Full Unicode lowercasing, uppercasing and folding. Each code point maps to one or more (`ß` to
`SS`), with one contextual rule: a capital sigma lowercases to `ς` when a cased letter stands
before it and none after, case-ignorable characters skipped.
-/

namespace PackageRegistry.Text

/-- One entry of a case table: a code point and its image. -/
abbrev CaseEntry := Nat × List Char

/-- Reads a signed hexadecimal offset, `+d` or `-d`. -/
def readSignedHex? (s : String) : Option Int :=
  match s.toList with
  | '+' :: ds => (readHex? (String.ofList ds)).map Int.ofNat
  | '-' :: ds => (readHex? (String.ofList ds)).map fun n => -Int.ofNat n
  | _ => none

/-- The entries of one run `lo:count:step:delta`. -/
def caseRunEntries (s : String) : List CaseEntry :=
  match s.splitOn ":" with
  | [a, b, c, d] =>
    match readHex? a, readHex? b, readHex? c, readSignedHex? d with
    | some lo, some count, some step, some delta =>
      (List.range count).map fun i =>
        let n := lo + i * step
        (n, [Char.ofNat (Int.toNat (Int.ofNat n + delta))])
    | _, _, _, _ => []
  | _ => []

/-- The entry `cp=a b …` of a code point with a longer image. -/
def caseLongEntry? (s : String) : Option CaseEntry :=
  match s.splitOn "=" with
  | [a, b] => do
    let n ← readHex? a
    let image ← (b.splitOn " ").mapM readHex?
    pure (n, image.map Char.ofNat)
  | _ => none

/-- A case table sorted by code point, from its runs and its longer images. -/
def caseTableOf (runs long : String) : Array CaseEntry :=
  let entries := (runs.splitOn ",").flatMap caseRunEntries ++
    (long.splitOn ",").filterMap caseLongEntry?
  (entries.mergeSort fun a b => a.1 ≤ b.1).toArray

/-- The image of a code point in a case table sorted by code point, searched between the
indices `lo` and `hi`. -/
def caseSearch (table : Array CaseEntry) (n : Nat) (lo hi : Nat) : Option (List Char) :=
  if lo < hi then
    let mid := (lo + hi) / 2
    if hm : mid < table.size then
      let e := table[mid]
      if n < e.1 then caseSearch table n lo mid
      else if e.1 < n then caseSearch table n (mid + 1) hi
      else some e.2
    else none
  else none
termination_by hi - lo

/-- The image of a character in a case table; a character the table does not name is its own
image. -/
def caseImage (table : Array CaseEntry) (c : Char) : List Char :=
  (caseSearch table c.toNat 0 table.size).getD [c]

/-- The full lowercase mapping of single code points. -/
def lowerTable : Array CaseEntry := caseTableOf lowerRunsText lowerLongText

/-- The full uppercase mapping of single code points. -/
def upperTable : Array CaseEntry := caseTableOf upperRunsText upperLongText

/-- The full case folding of single code points. -/
def foldTable : Array CaseEntry := caseTableOf foldRunsText foldLongText

/-- Whether a character is case-ignorable (combining marks, apostrophes, modifier letters …). -/
def isCaseIgnorable (c : Char) : Bool :=
  CodeRun.tableContains caseIgnorableTable c.toNat

/-- Whether a character that is not case-ignorable is cased. -/
def isCasedLetter (c : Char) : Bool :=
  CodeRun.tableContains casedTable c.toNat

/-- Whether the nearest non-case-ignorable character (nearest first) is cased. -/
def casedBeyond (cs : List Char) : Bool :=
  match cs.dropWhile isCaseIgnorable with
  | [] => false
  | c :: _ => isCasedLetter c

/-- The lowercase of a capital sigma between its neighbours: final when a cased letter precedes
and none follows. -/
def sigmaLower (before after : List Char) : Char :=
  if casedBeyond before && !casedBeyond after then 'ς' else 'σ'

/-- Lowercases characters, `before` holding the characters already passed, nearest first. -/
def lowerFrom (before : List Char) : List Char → List Char
  | [] => []
  | c :: rest =>
    -- below `0x80` only the letters `A`–`Z` change, so the table is not searched there
    let image := if c = 'Σ' then [sigmaLower before rest]
      else if c.toNat < 0x80 then [c.toLower] else caseImage lowerTable c
    image ++ lowerFrom (c :: before) rest

/-- The full lowercase of text. -/
def toLower (s : String) : String :=
  String.ofList (lowerFrom [] s.toList)

/-- The full uppercase of text. -/
def toUpper (s : String) : String :=
  -- below `0x80` only the letters `a`–`z` change, so the table is not searched there
  String.ofList (s.toList.flatMap fun c =>
    if c.toNat < 0x80 then [c.toUpper] else caseImage upperTable c)

/-- The case folding of text, for caseless comparison. -/
def caseFold (s : String) : String :=
  String.ofList (s.toList.flatMap (caseImage foldTable))

end PackageRegistry.Text
