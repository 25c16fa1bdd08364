import PackageRegistry.Markdown.Link
import PackageRegistry.Markdown.Address
import PackageRegistry.Markdown.Html
import PackageRegistry.Text.Percent
/-!
# Running text

The text of a paragraph, heading or table cell read into the pieces it shows: emphasis,
strike-through and links keep their text and drop their marks; code spans, escapes and
references give their text. Delimiters are paired under the rule of three; unpaired ones stay.
-/

namespace PackageRegistry.Markdown

open PackageRegistry.Text

/-! ## Pieces of running text -/

/-- A piece of shown text: text, an image (description and destination), or raw HTML. -/
inductive Inline where
  | text (s : String)
  | image (description : String) (destination : String)
  | html
  deriving Repr, BEq

/-- An emphasis or strike-through mark: character, run length (zero for strike-through), token,
whether it may open and close, and its closer. -/
structure Delimiter where
  marker : Char
  length : Nat
  token : Nat
  canOpen : Bool
  canClose : Bool
  closer : Option Nat := none
  deriving Repr

/-- Running text being read: its characters and the reference definitions of its document. -/
structure Source where
  chars : Array Char
  refs : List (String × String)

namespace Source

/-- The character at a position, if any. -/
def at? (s : Source) (i : Nat) : Option Char := s.chars[i]?

/-- Whether the character at a position is `c`. -/
def isAt (s : Source) (i : Nat) (c : Char) : Bool := s.chars[i]? == some c

/-- The characters from `a` up to `b`. -/
def slice (s : Source) (a b : Nat) : List Char := (s.chars.extract a b).toList

/-- The position after the run of `c` starting at `p`, below `stop`. -/
def runEnd (s : Source) (stop : Nat) (c : Char) (p : Nat) : Nat :=
  if _h : p < stop then
    if s.isAt p c then s.runEnd stop c (p + 1) else p
  else p
termination_by stop - p
decreasing_by omega

/-- The position after the spaces and tabs starting at `p`, below `stop`. -/
def skipLineBlanks (s : Source) (stop : Nat) (p : Nat) : Nat :=
  if _h : p < stop then
    if s.isAt p ' ' || s.isAt p '\t' then s.skipLineBlanks stop (p + 1) else p
  else p
termination_by stop - p
decreasing_by omega

/-- The position after the spaces, tabs and line ends starting at `p`, below `stop`. -/
def skipGaps (s : Source) (stop : Nat) (p : Nat) : Nat :=
  if _h : p < stop then
    if s.isAt p ' ' || s.isAt p '\t' || s.isAt p '\n' then s.skipGaps stop (p + 1) else p
  else p
termination_by stop - p
decreasing_by omega

/-- The first position from `p` below `stop` holding `c`. -/
def find? (s : Source) (stop : Nat) (c : Char) (p : Nat) : Option Nat :=
  if _h : p < stop then
    if s.isAt p c then some p else s.find? stop c (p + 1)
  else none
termination_by stop - p
decreasing_by omega

end Source

/-! ## Delimiter runs -/

/-- Whether the marks from `start` may open and close, and their run's length; `_` may not open
or close inside a word. -/
def scanDelims (s : Source) (stop start : Nat) (splitsWords : Bool) : Bool × Bool × Nat :=
  let marker := (s.at? start).getD ' '
  let last := if start > 0 then (s.at? (start - 1)).getD ' ' else ' '
  let stopAt := s.runEnd stop marker start
  let next := if stopAt < stop then (s.at? stopAt).getD ' ' else ' '
  let lastPunct := isPunctuation last
  let nextPunct := isPunctuation next
  let lastSpace := isWhitespace last
  let nextSpace := isWhitespace next
  let leftFlanking := !(nextSpace || (nextPunct && !(lastSpace || lastPunct)))
  let rightFlanking := !(lastSpace || (lastPunct && !(nextSpace || nextPunct)))
  if splitsWords then (leftFlanking, rightFlanking, stopAt - start)
  else
    (leftFlanking && (!rightFlanking || lastPunct), rightFlanking && (!leftFlanking || nextPunct),
      stopAt - start)

/-- The position of the next run of exactly `length` backticks from `p` below `stop`, with the
position after it. -/
def closingTicks? (s : Source) (stop length : Nat) (p : Nat) : Option (Nat × Nat) :=
  if _h : p < stop then
    match s.find? stop '`' p with
    | some q =>
      let after := s.runEnd stop '`' q
      if after - q = length then some (q, after)
      else if _h2 : p < after then closingTicks? s stop length after else none
    | none => none
  else none
termination_by stop - p
decreasing_by omega

/-- A code span at the backticks at `p` (none when unclosed) and the position after it. -/
def codeSpanAt (s : Source) (stop p : Nat) : Option String × Nat :=
  let openEnd := s.runEnd stop '`' p
  match closingTicks? s stop (openEnd - p) openEnd with
  | some (q, after) =>
    let body := (s.slice openEnd q).map fun c => if c == '\n' then ' ' else c
    let trimmed :=
      if body.head? == some ' ' && body.getLast? == some ' ' && !(trimBlanks body).isEmpty then
        (body.drop 1).dropLast
      else body
    (some (String.ofList trimmed), after)
  | none => (none, openEnd)

/-! ## Links and images -/

/-- A destination made safe to link to: trimmed, and percent-encoded in UTF-8 but for URL
characters and a `%` starting an escape. -/
def encodeDestinationFrom : List Char → List Char
  | '%' :: a :: b :: rest =>
    if isHexDigit a && isHexDigit b then '%' :: a :: b :: encodeDestinationFrom rest
    else "%25".toList ++ encodeDestinationFrom (a :: b :: rest)
  | c :: rest =>
    (if c == '%' then "%25".toList else (percentEncode ";/?:@&=+$,!*'()#" c.toString).toList) ++
      encodeDestinationFrom rest
  | [] => []
termination_by cs => cs.length
decreasing_by all_goals simp only [List.length_cons]; all_goals omega

/-- A destination as it is linked to (see `encodeDestinationFrom`). -/
def encodeDestination (d : String) : String :=
  String.ofList (encodeDestinationFrom (trimBlanks d.toList))

/-- A link's destination in parentheses after its label: whether they close, and the position
after them (after `(` when a part is missing). -/
def inlineTarget (s : Source) (stop afterParen : Nat) : Option (Bool × Nat × String) :=
  let p := s.skipGaps stop afterParen
  if p ≥ stop then none
  else
    let (p, href) :=
      match linkDestination? (s.slice p stop) with
      | some (dest, rest) =>
        if isSafeDestination dest then (stop - rest.length, encodeDestination dest) else (p, "")
      | none => (p, "")
    let start := p
    let p := s.skipGaps stop p
    let p :=
      match linkTitle? (s.slice p stop) with
      | some (_, rest) => if p < stop && start != p then s.skipGaps stop (stop - rest.length) else p
      | none => p
    if p ≥ stop || !s.isAt p ')' then some (false, p + 1, href) else some (true, p + 1, href)

/-! ## Autolinks -/

/-- Whether text between angle brackets is a URI: a scheme, a colon, and no blanks, controls or
angle brackets. -/
def isUriAutolink (url : List Char) : Bool :=
  let scheme := url.takeWhile fun c => isAsciiAlnum c || c == '+' || c == '.' || c == '-'
  match url.drop scheme.length with
  | ':' :: rest =>
    2 ≤ scheme.length && scheme.length ≤ 32 && scheme.head?.any isAsciiLetter &&
      rest.all fun c => c.toNat > 0x20 && c != '<' && c != '>'
  | _ => false

/-- Whether a domain part is 1 to 63 ASCII letters, digits and `-`, alphanumeric at both ends. -/
def isDomainLabel (l : List Char) : Bool :=
  1 ≤ l.length && l.length ≤ 63 && l.all (fun c => isAsciiAlnum c || c == '-') &&
    l.head?.any isAsciiAlnum && l.getLast?.any isAsciiAlnum

/-- Whether the text between angle brackets is an e-mail address. -/
def isEmailAutolink (url : List Char) : Bool :=
  let user := url.takeWhile fun c => isAsciiAlnum c || ".!#$%&'*+/=?^_`\x7b|\x7d~-".toList.contains c
  match url.drop user.length with
  | '@' :: domain => !user.isEmpty && (domain.splitOn '.').all isDomainLabel
  | _ => false

/-- The octets of a run of `%XX` escapes at the start of the text, and what follows them. -/
def escapedOctets : List Char → List Nat × List Char
  | '%' :: a :: b :: rest =>
    if isHexDigit a && isHexDigit b then
      let (more, after) := escapedOctets rest
      (digitsValue 16 [a, b] :: more, after)
    else ([], '%' :: a :: b :: rest)
  | cs => ([], cs)

/-- Whether an octet continues a UTF-8 sequence. -/
def isTrailOctet (b : Nat) : Bool := 0x80 ≤ b && b ≤ 0xBF

/-- Two hexadecimal digits, uppercase, for an octet. -/
def octetHex (b : Nat) : List Char :=
  let digit := fun (d : Nat) => if d < 10 then Char.ofNat (48 + d) else Char.ofNat (55 + d)
  [digit (b / 16), digit (b % 16)]

/-- Escaped octets decoded for a link: ASCII its character unless reserved; a lead octet with
continuations one character, else a replacement each. -/
def decodeOctets : Nat → List Nat → List Char
  | 0, _ => []
  | _, [] => []
  | fuel + 1, b1 :: rest =>
    if b1 < 0x80 then
      let c := Char.ofNat b1
      (if ";/?:@&=+$,#%".toList.contains c then '%' :: octetHex b1 else [c]) ++
        decodeOctets fuel rest
    else
      match rest with
      | b2 :: more2 =>
        if 0xC0 ≤ b1 && b1 ≤ 0xDF && isTrailOctet b2 then
          let cp := (b1 - 0xC0) * 64 + (b2 - 0x80)
          (if cp ≥ 0x80 then [Char.ofNat cp] else ['\uFFFD', '\uFFFD']) ++ decodeOctets fuel more2
        else
          match more2 with
          | b3 :: more3 =>
            if 0xE0 ≤ b1 && b1 ≤ 0xEF && isTrailOctet b2 && isTrailOctet b3 then
              let cp := (b1 - 0xE0) * 4096 + (b2 - 0x80) * 64 + (b3 - 0x80)
              (if cp ≥ 0x800 && !(0xD800 ≤ cp && cp ≤ 0xDFFF) then [Char.ofNat cp]
                else ['\uFFFD', '\uFFFD', '\uFFFD']) ++ decodeOctets fuel more3
            else
              match more3 with
              | b4 :: more4 =>
                if 0xF0 ≤ b1 && b1 ≤ 0xF7 && isTrailOctet b2 && isTrailOctet b3 &&
                    isTrailOctet b4 then
                  let cp := (b1 - 0xF0) * 262144 + (b2 - 0x80) * 4096 + (b3 - 0x80) * 64 +
                    (b4 - 0x80)
                  (if 0x10000 ≤ cp && cp ≤ 0x10FFFF then [Char.ofNat cp]
                    else ['\uFFFD', '\uFFFD', '\uFFFD', '\uFFFD']) ++ decodeOctets fuel more4
                else '\uFFFD' :: decodeOctets fuel rest
              | [] => '\uFFFD' :: decodeOctets fuel rest
          | [] => '\uFFFD' :: decodeOctets fuel rest
      | [] => ['\uFFFD']

/-- Link text with its runs of escapes decoded (see `decodeOctets`). -/
def decodeLinkFrom : Nat → List Char → List Char
  | 0, cs => cs
  | _, [] => []
  | fuel + 1, c :: rest =>
    if c == '%' then
      match escapedOctets (c :: rest) with
      | ([], _) => '%' :: decodeLinkFrom fuel rest
      | (octets, after) => decodeOctets (octets.length + 1) octets ++ decodeLinkFrom fuel after
    else c :: decodeLinkFrom fuel rest

/-- The text an autolink shows: its address as `shownAddress` writes it, with escapes decoded. -/
def decodeLinkText (url : List Char) : String :=
  let cs := shownAddress url
  String.ofList (decodeLinkFrom (cs.length + 1) cs)

/-- An autolink at `p`: the text it shows and the position after it. -/
def autolinkAt? (s : Source) (stop p : Nat) : Option (String × Nat) :=
  match s.find? stop '>' (p + 1) with
  | none => none
  | some close =>
    let url := s.slice (p + 1) close
    if url.contains '<' then none
    else if isUriAutolink url then
      if isSafeDestination (String.ofList url) then some (decodeLinkText url, close + 1) else none
    else if isEmailAutolink url then some (decodeLinkText url, close + 1)
    else none

/-- Raw HTML at `p`: the position after it. -/
def htmlAt? (s : Source) (stop p : Nat) : Option Nat :=
  if p + 2 ≥ stop then none
  else
    match s.at? (p + 1) with
    | some c =>
      if c == '!' || c == '?' || c == '/' || isAsciiLetter c then
        let rest := s.slice (p + 1) s.chars.size
        (inlineHtml? rest).map fun after => p + 1 + (rest.length - after.length)
      else none
    | none => none

/-- A character reference at `p`: its text and the position after it. -/
def entityAt? (s : Source) (stop p : Nat) : Option (String × Nat) :=
  if p + 1 ≥ stop then none
  else
    let rest := s.slice (p + 1) s.chars.size
    (characterReference? rest).map fun (t, after) => (t, p + 1 + (rest.length - after.length))

/-- Where each skipped position's token ends; a later skip ends where the first did. -/
abbrev Skips := Array (Option Nat)

mutual

/-- The position after the token at `p` at nesting `level`, keeping nothing; past the deepest,
one past the end. -/
def skipToken (s : Source) (stop : Nat) : Nat → Nat → Skips → Nat → Nat × Skips
  | 0, _, skips, p => (p + 1, skips)
  | fuel + 1, level, skips, p =>
    match skips.getD p none with
    | some q => (q, skips)
    | none =>
      let (next, skips) : Nat × Skips :=
        if level ≥ maxNesting then (stop + 1, skips)
        else
          match s.at? p with
          | some '\n' => (s.skipLineBlanks stop (p + 1), skips)
          | some '\\' =>
            if p + 1 < stop then
              (if s.isAt (p + 1) '\n' then s.skipLineBlanks stop (p + 2) else p + 2, skips)
            else (p + 1, skips)
          | some '`' => ((codeSpanAt s stop p).2, skips)
          | some '[' =>
            match linkAt? s stop fuel (level + 1) skips p with
            | (some (_, _, next), skips) => (next, skips)
            | (none, skips) => (p + 1, skips)
          | some '!' =>
            match imageAt? s stop fuel (level + 1) skips p with
            | (some (_, _, _, next), skips) => (next, skips)
            | (none, skips) => (p + 1, skips)
          | some '<' =>
            match autolinkAt? s stop p with
            | some (_, next) => (next, skips)
            | none =>
              match htmlAt? s stop p with
              | some next => (next, skips)
              | none => (p + 1, skips)
          | some '&' =>
            match entityAt? s stop p with
            | some (_, next) => (next, skips)
            | none => (p + 1, skips)
          | _ => (p + 1, skips)
      (next, skips.setIfInBounds p (some next))

/-- The `]` closing the label whose `[` is at `start`, brackets balanced; with `noLinks`, none if
it holds a link. -/
def labelEnd? (s : Source) (stop : Nat) : Nat → Nat → Skips → Nat → Bool → Option Nat × Skips
  | 0, _, skips, _, _ => (none, skips)
  | fuel + 1, level, skips, start, noLinks => labelScan s stop fuel level skips (start + 1) 1 noLinks

/-- Scans a label from `p` with `depth` brackets open, skipping tokens at nesting `level`. -/
def labelScan (s : Source) (stop : Nat) :
    Nat → Nat → Skips → Nat → Nat → Bool → Option Nat × Skips
  | 0, _, skips, _, _, _ => (none, skips)
  | fuel + 1, level, skips, p, depth, noLinks =>
    if p ≥ stop then (none, skips)
    else
      let marker := s.at? p
      if marker == some ']' && depth == 1 then (some p, skips)
      else
        let depth := if marker == some ']' then depth - 1 else depth
        let (next, skips) := skipToken s stop fuel level skips p
        if marker == some '[' then
          if next == p + 1 then labelScan s stop fuel level skips next (depth + 1) noLinks
          else if noLinks then (none, skips)
          else labelScan s stop fuel level skips next depth noLinks
        else labelScan s stop fuel level skips next depth noLinks

/-- The reference after a link's label: a bracketed label or its own text; the position after
and the destination. -/
def referenceAfter? (s : Source) (stop : Nat) :
    Nat → Nat → Skips → Nat → Nat → Nat → Option (Nat × String) × Skips
  | 0, _, skips, _, _, _ => (none, skips)
  | fuel + 1, level, skips, labelStart, labelEnd, p =>
    if s.refs.isEmpty then (none, skips)
    else
      let (label, p, skips) : List Char × Nat × Skips :=
        if p < stop && s.isAt p '[' then
          match labelEnd? s stop fuel level skips p false with
          | (some e, skips) => (s.slice (p + 1) e, e + 1, skips)
          | (none, skips) => ([], labelEnd + 1, skips)
        else ([], labelEnd + 1, skips)
      let label := if label.isEmpty then s.slice labelStart labelEnd else label
      ((s.refs.lookup (normalizeLabel label)).map fun dest => (p, encodeDestination dest), skips)

/-- A link at `p`, looked for at nesting `level`: the start and end of its label and the
position after it. -/
def linkAt? (s : Source) (stop : Nat) :
    Nat → Nat → Skips → Nat → Option (Nat × Nat × Nat) × Skips
  | 0, _, skips, _ => (none, skips)
  | fuel + 1, level, skips, p =>
    if !s.isAt p '[' then (none, skips)
    else
      match labelEnd? s stop fuel level skips p true with
      | (none, skips) => (none, skips)
      | (some labelEnd, skips) =>
        let after := labelEnd + 1
        let target : Option (Option Nat × Nat) :=
          if after < stop && s.isAt after '(' then
            match inlineTarget s stop (after + 1) with
            | none => none
            | some (true, next, _) => some (some next, next)
            | some (false, next, _) => some (none, next)
          else some (none, after)
        match target with
        | none => (none, skips)
        | some (some next, _) => (some (p + 1, labelEnd, next), skips)
        | some (none, q) =>
          match referenceAfter? s stop fuel level skips (p + 1) labelEnd q with
          | (found, skips) => (found.map fun (next, _) => (p + 1, labelEnd, next), skips)

/-- An image at `p` at nesting `level`: its description's start and end, destination, position
after. -/
def imageAt? (s : Source) (stop : Nat) :
    Nat → Nat → Skips → Nat → Option (Nat × Nat × String × Nat) × Skips
  | 0, _, skips, _ => (none, skips)
  | fuel + 1, level, skips, p =>
    if !s.isAt p '!' || !(p + 1 < stop && s.isAt (p + 1) '[') then (none, skips)
    else
      match labelEnd? s stop fuel level skips (p + 1) false with
      | (none, skips) => (none, skips)
      | (some labelEnd, skips) =>
        let after := labelEnd + 1
        if after < stop && s.isAt after '(' then
          match inlineTarget s stop (after + 1) with
          | some (true, next, href) => (some (p + 2, labelEnd, href, next), skips)
          | _ => (none, skips)
        else
          match referenceAfter? s stop fuel level skips (p + 2) labelEnd after with
          | (found, skips) =>
            (found.map fun (next, href) => (p + 2, labelEnd, href, next), skips)

end

/-! ## Pairing delimiters -/

/-- The place of a mark's character among the three kinds, for the table of lower bounds. -/
def markerSlot (c : Char) : Nat := if c == '*' then 0 else if c == '_' then 1 else 2

/-- The nearest mark from `openerIdx` down, above `bottom`, opening for `closer`, skipping pairs
by the jumps. -/
def findOpener (ds : Array Delimiter) (jumps : Array Nat) (closer : Delimiter) (bottom : Int) :
    Nat → Int → Option Nat
  | 0, _ => none
  | fuel + 1, openerIdx =>
    if openerIdx ≤ bottom then none
    else
      let i := openerIdx.toNat
      let skip := openerIdx - ((jumps.getD i 0 : Nat) : Int) - 1
      match ds[i]? with
      | none => none
      | some opener =>
        if opener.marker != closer.marker then findOpener ds jumps closer bottom fuel skip
        else if opener.canOpen && opener.closer.isNone &&
            !((opener.canClose || closer.canOpen) && (opener.length + closer.length) % 3 == 0 &&
              (opener.length % 3 != 0 || closer.length % 3 != 0)) then some i
        else findOpener ds jumps closer bottom fuel skip

/-- Pairing marks left to right: marks, closers' jumps back, opener bound per closer kind, the
run's first mark. -/
structure Pairing where
  ds : Array Delimiter
  jumps : Array Nat := #[]
  bottoms : Array Int := Array.replicate 18 (-1)
  header : Nat := 0
  lastToken : Int := -2

/-- Pairs the mark at `closerIdx` with the nearest opener if it closes; a failed search raises
the bound for its kind. -/
def Pairing.step (st : Pairing) (closerIdx : Nat) : Pairing :=
  match st.ds[closerIdx]? with
  | none => st
  | some closer =>
    let jumps := st.jumps.push 0
    let sameRun :=
      match st.ds[st.header]? with
      | some h => h.marker == closer.marker && st.lastToken == (closer.token : Int) - 1
      | none => false
    let header := if sameRun then st.header else closerIdx
    let st := { st with jumps := jumps, header := header, lastToken := (closer.token : Int) }
    if !closer.canClose then st
    else
      let slot := markerSlot closer.marker * 6 + (if closer.canOpen then 3 else 0) +
        closer.length % 3
      let bottom := st.bottoms.getD slot (-1)
      let start : Int := (header : Int) - ((jumps.getD header 0 : Nat) : Int) - 1
      match findOpener st.ds jumps closer bottom (closerIdx + 2) start with
      | some o =>
        let before := st.ds[o - 1]?.map (·.canOpen)
        let lastJump := if o > 0 && before == some false then jumps.getD (o - 1) 0 + 1 else 0
        let jumps := (jumps.modify closerIdx fun _ => closerIdx - o + lastJump).modify o
          fun _ => lastJump
        let ds := (st.ds.modify closerIdx fun d => { d with canOpen := false }).modify o
          fun d => { d with closer := some closerIdx, canClose := false }
        { st with ds := ds, jumps := jumps, lastToken := -2 }
      | none => { st with bottoms := st.bottoms.modify slot fun _ => start }

/-- The marks with each opener paired to its closer. -/
def pairDelimiters (ds : Array Delimiter) : Array Delimiter :=
  ((List.range ds.size).foldl Pairing.step { ds := ds }).ds

/-! ## Reading tokens -/

/-- Text being tokenized: position, pending text (reversed), tokens, marks, skipped tokens'
ends. -/
structure Reading where
  pos : Nat
  pending : List Char := []
  tokens : Array Inline := #[]
  delimiters : Array Delimiter := #[]
  skips : Skips := #[]

/-- The pending text made a token. -/
def Reading.flush (r : Reading) : Reading :=
  if r.pending.isEmpty then r
  else { r with tokens := r.tokens.push (.text (String.ofList r.pending.reverse)), pending := [] }

/-- A token added after the pending text. -/
def Reading.push (r : Reading) (t : Inline) : Reading :=
  let r := r.flush
  { r with tokens := r.tokens.push t }

/-- A mark added as a token of its own and as a delimiter. -/
def Reading.pushMark (r : Reading) (text : String) (marker : Char) (length : Nat)
    (canOpen canClose : Bool) : Reading :=
  let r := r.push (.text text)
  let d : Delimiter :=
    { marker := marker, length := length, token := r.tokens.size - 1, canOpen := canOpen,
      canClose := canClose }
  { r with delimiters := r.delimiters.push d }

/-- A line end: a break after two spaces (spaces dropped), else a space (one space before
dropped). -/
def Reading.lineEnd (r : Reading) : Reading :=
  match r.pending with
  | ' ' :: ' ' :: _ => { r with pending := r.pending.dropWhile (· == ' ') }.push (.text "\n")
  | ' ' :: rest => { r with pending := rest }.push (.text " ")
  | _ => r.push (.text " ")

/-- The tokens with the paired marks made empty. -/
def Reading.resolve (r : Reading) : Array Inline :=
  let ds := pairDelimiters r.delimiters
  ds.foldl (fun toks d =>
    match d.closer.bind (ds[·]?) with
    | some c => (toks.modify d.token fun _ => .text "").modify c.token fun _ => .text ""
    | none => toks) r.tokens

/-- Reads a run of `count` marks as delimiters. -/
def Reading.marks (r : Reading) (text : String) (marker : Char) (length : Nat)
    (canOpen canClose : Bool) : Nat → Reading
  | 0 => r
  | count + 1 => (r.pushMark text marker length canOpen canClose).marks text marker length
      canOpen canClose count

/-- Tokenizes running text up to `stop` at nesting `level`; past the deepest, every character is
text. -/
def tokenize (s : Source) (stop : Nat) : Nat → Nat → Reading → Reading
  | 0, _, r => r.flush
  | fuel + 1, level, r =>
    let p := r.pos
    if p ≥ stop then r.flush
    else
      let literal := fun (c : Char) => { r with pending := c :: r.pending, pos := p + 1 }
      let linkFuel := 4 * s.chars.size + 8 * maxNesting + 10
      match s.at? p with
      | none => r.flush
      | some c =>
        let next : Reading :=
          if level ≥ maxNesting then literal c
          else
          match c with
          | '\n' => { r.lineEnd with pos := s.skipLineBlanks stop (p + 1) }
          | '\\' =>
            if p + 1 < stop then
              match s.at? (p + 1) with
              | some '\n' => { r.push (.text "\n") with pos := s.skipLineBlanks stop (p + 2) }
              | some d =>
                { r.push (.text (if isAsciiPunct d then d.toString else String.ofList ['\\', d]))
                  with pos := p + 2 }
              | none => literal c
            else literal c
          | '`' =>
            match codeSpanAt s stop p with
            | (some code, after) => { r.push (.text code) with pos := after }
            | (none, after) =>
              { r with pending := List.replicate (after - p) '`' ++ r.pending, pos := after }
          | '~' =>
            let (canOpen, canClose, length) := scanDelims s stop p true
            if length < 2 then literal c
            else
              let r := if length % 2 == 1 then r.push (.text "~") else r
              { r.marks "~~" '~' 0 canOpen canClose (length / 2) with pos := p + length }
          | '*' | '_' =>
            let (canOpen, canClose, length) := scanDelims s stop p (c == '*')
            { r.marks c.toString c length canOpen canClose length with pos := p + length }
          | '[' =>
            match linkAt? s stop linkFuel level r.skips p with
            | (some (labelStart, labelEnd, after), skips) =>
              let r := { r with skips := skips }.push (.text "")
              let inner := tokenize s labelEnd fuel (level + 1) { pos := labelStart, skips := skips }
              let r := { r with tokens := r.tokens ++ inner.resolve, skips := inner.skips }
              { r.push (.text "") with pos := after }
            | (none, skips) => { literal c with skips := skips }
          | '!' =>
            match imageAt? s stop linkFuel level r.skips p with
            | (some (labelStart, labelEnd, href, after), skips) =>
              { { r with skips := skips }.push (.image (String.ofList (s.slice labelStart labelEnd)) href)
                with pos := after }
            | (none, skips) => { literal c with skips := skips }
          | '<' =>
            match autolinkAt? s stop p with
            | some (text, after) =>
              { ((r.push (.text "")).push (.text text)).push (.text "") with pos := after }
            | none =>
              match htmlAt? s stop p with
              | some after => { r.push .html with pos := after }
              | none => literal c
          | '&' =>
            match entityAt? s stop p with
            | some (text, after) => { r.push (.text text) with pos := after }
            | none => literal c
          | _ => literal c
        tokenize s stop fuel level next

/-- Neighbouring pieces of text joined, empty ones dropped. -/
def joinTexts : List Inline → List Inline
  | .text a :: rest =>
    match joinTexts rest with
    | .text b :: more => .text (a ++ b) :: more
    | more => if a.isEmpty then more else .text a :: more
  | piece :: rest => piece :: joinTexts rest
  | [] => []

/-- Reads running text into the pieces it shows, given the reference definitions of its
document. -/
def readInline (refs : List (String × String)) (text : String) : List Inline :=
  let s : Source := { chars := text.toList.toArray, refs := refs }
  let r := tokenize s s.chars.size (2 * s.chars.size + 2) 0
    { pos := 0, skips := Array.replicate s.chars.size none }
  joinTexts r.resolve.toList

end PackageRegistry.Markdown
