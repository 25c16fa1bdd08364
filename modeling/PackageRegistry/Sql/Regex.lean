import PackageRegistry.Sql.Syntax
import PackageRegistry.Sql.Regex.Read
/-!
# Regular expressions

`X REGEXP P` asks whether `P` matches somewhere in `X`, by the host's pattern language, in a
backtracking search. A `NULL` subject gives `NULL`; a malformed pattern fails.
-/

namespace PackageRegistry.Sql

open PackageRegistry.Text

/-! ## Compiled patterns -/

/-- How a set compares a character with its members. -/
inductive SetCase where
  /-- The character as it is. -/
  | exact
  /-- The character lowered by a rule, against the members lowered by the same rule. -/
  | lowered (rule : CaseRule)
  /-- The ASCII lowercase of the character, or its ASCII uppercase when that differs. -/
  | either
  deriving BEq, Repr

/-- The test of a node that reads one character. -/
inductive CharTest where
  /-- The character `c` (any other, when negated). -/
  | literal (c : Nat) (negated : Bool)
  /-- A character whose lowered form is one of the targets. -/
  | lowered (rule : CaseRule) (targets : List Nat) (negated : Bool)
  /-- The character `c`, or one whose ASCII lowercase or uppercase is `c`. -/
  | eitherCase (c : Nat) (negated : Bool)
  /-- Any character, a line feed only under `s`. -/
  | any (dotAll : Bool)
  /-- A set of characters, with its classes Unicode or ASCII. -/
  | set (negated : Bool) (items : List SetItem) (case : SetCase) (unicode : Bool)
  deriving Repr

/-- A pattern ready to match: each node carries the options it was read under. -/
inductive Regex where
  | char (test : CharTest)
  | anchor (a : Anchor) (multiline unicode : Bool)
  | seq (items : List Regex)
  | alt (branches : List Regex)
  | rep (lo : Nat) (hi : Option Nat) (mode : RepeatMode) (body : Regex)
  | group (index : Nat) (body : Regex)
  | atomic (body : Regex)
  /-- A lookaround; a look-behind reads `width` characters back. -/
  | look (behind negated : Bool) (width : Nat) (body : Regex)
  | backref (index : Nat) (rule : CaseRule)
  | cond (index : Nat) (yes no : Regex)
  deriving Repr

/-- The ASCII uppercase of a character. -/
def asciiUpper (c : Nat) : Nat := if 97 ≤ c && c ≤ 122 then c - 32 else c

/-- Whether a character passes a test. -/
def CharTest.accepts : CharTest → Nat → Bool
  | .literal c negated, x => (x == c) != negated
  | .lowered rule targets negated, x => targets.contains (rule.lower x) != negated
  | .eitherCase c negated, x =>
    (x == c || CaseRule.ascii.lower x == c || asciiUpper x == c) != negated
  | .any dotAll, x => dotAll || x != 10
  | .set negated items case unicode, x =>
    let member := fun (rule : CaseRule) (y : Nat) => items.any (·.test rule unicode y) != negated
    match case with
    | .exact => member .exact x
    | .lowered rule => member rule (rule.lower x)
    | .either =>
      let lo := CaseRule.ascii.lower x
      let up := asciiUpper x
      member .exact lo || (up != lo && member .exact up)

/-- The rule by which caseless options lower characters: Unicode under `u`, else ASCII. -/
def RegexFlags.lowering (f : RegexFlags) : CaseRule :=
  if f.unicode then .unicode else .ascii

/-- Whether the classes follow Unicode under some options. -/
def RegexFlags.unicodeClasses (f : RegexFlags) : Bool := f.unicode && !f.locale

/-- The test of `c` (or any other); caseless, cased characters compare lowered, with case
siblings. -/
def literalTest (f : RegexFlags) (c : Nat) (negated : Bool) : CharTest :=
  if !f.ignoreCase then .literal c negated
  else if f.locale then .eitherCase c negated
  else
    let rule := f.lowering
    if !rule.cased c then .literal c negated
    else
      let l := rule.lower c
      .lowered rule (l :: rule.others l) negated

/-- The test of a set under some options. -/
def setTest (f : RegexFlags) (negated : Bool) (items : List SetItem) : CharTest :=
  let unicode := f.unicodeClasses
  if !f.ignoreCase then .set negated items .exact unicode
  else if f.locale then .set negated items .either unicode
  else
    let rule := f.lowering
    if items.any (·.cased rule) then .set negated items (.lowered rule) unicode
    else .set negated items .exact unicode

/-- How a reference compares the text of its group under some options. -/
def backrefRule (f : RegexFlags) : CaseRule :=
  if !f.ignoreCase then .exact else if f.locale then .ascii else f.lowering

mutual

/-- A node compiled under the options in force. -/
def compileNode (widths : GroupWidths) (f : RegexFlags) : RegexNode → Except RegexError Regex
  | .literal c => .ok (.char (literalTest f c false))
  | .notLiteral c => .ok (.char (literalTest f c true))
  | .any => .ok (.char (.any f.dotAll))
  | .set negated items => .ok (.char (setTest f negated items))
  | .anchor a => .ok (.anchor a f.multiline f.unicodeClasses)
  | .branch alts => do
    let branches ← compileAlternatives widths f alts
    return .alt branches
  | .rep lo hi mode body => do
    if f.template then throw .malformed
    let inner ← compileSeq widths f body
    return .rep lo hi mode inner
  | .group index add del body => do
    let inner ← compileSeq widths (f.within add del) body
    match index with
    | some i => return .group i inner
    | none => return inner
  | .atomic body => do
    let inner ← compileSeq widths f body
    return .atomic inner
  | .look behind negated body => do
    let inner ← compileSeq widths f body
    if behind then
      let (lo, hi) := widthOfSeq widths body
      if lo != hi then throw .malformed
      return .look true negated lo inner
    else return .look false negated 0 inner
  | .groupRef i => .ok (.backref i (backrefRule f))
  | .groupExists i yes no => do
    let y ← compileSeq widths f yes
    let n ← match no with
      | some n => compileSeq widths f n
      | none => pure (.seq [])
    return .cond i y n

/-- A sequence compiled under the options in force. -/
def compileSeq (widths : GroupWidths) (f : RegexFlags) : List RegexNode → Except RegexError Regex
  | [] => .ok (.seq [])
  | n :: rest => do
    let r ← compileNode widths f n
    let more ← compileSeq widths f rest
    match more with
    | .seq items => return .seq (r :: items)
    | other => return .seq [r, other]

/-- Alternatives compiled under the options in force. -/
def compileAlternatives (widths : GroupWidths) (f : RegexFlags) :
    List (List RegexNode) → Except RegexError (List Regex)
  | [] => .ok []
  | a :: rest => do
    let r ← compileSeq widths f a
    let more ← compileAlternatives widths f rest
    return r :: more

end

/-- A pattern read and compiled: the compiled pattern and its number of groups. -/
def compileRegex (text : Bool) (cs : List Nat) : Except RegexError (Regex × Nat) := do
  let (items, st) ← readRegex text cs
  let r ← compileSeq st.groupWidths st.flags items
  return (r, st.groups - 1)

/-! ## Matching -/

/-- A point of a match: the position reached and the span of each group (by number from one)
captured so far. -/
structure MatchState where
  pos : Nat
  spans : List (Option (Nat × Nat))
  deriving BEq

/-- The span a group captured. -/
def MatchState.span (s : MatchState) (i : Nat) : Option (Nat × Nat) := (s.spans[i - 1]?).join

/-- The state with a group's span set. -/
def MatchState.capture (s : MatchState) (i : Nat) (span : Nat × Nat) : MatchState :=
  { s with spans := s.spans.set (i - 1) (some span) }

/-- Whether an anchor holds at a position: a boundary needs a word character on exactly one
side; no boundary holds in an empty subject. -/
def Anchor.test (a : Anchor) (multiline unicode : Bool) (subject : Array Nat) (pos : Nat) : Bool :=
  let n := subject.size
  let at? := fun (i : Nat) => subject[i]?
  match a with
  | .textStart => pos == 0
  | .textEnd => pos == n
  | .lineStart => pos == 0 || (multiline && pos > 0 && at? (pos - 1) == some 10)
  | .lineEnd =>
    pos == n || (multiline && at? pos == some 10) || (!multiline && pos + 1 == n && at? pos == some 10)
  | .boundary negated =>
    if n == 0 then false
    else
      let word := fun (i : Nat) => (at? i).any (CharCategory.word.test unicode)
      let before := pos > 0 && word (pos - 1)
      let after := word pos
      (before != after) != negated

/-- Whether the text of a span occurs again at a position, compared by a case rule. -/
def spanRepeats (subject : Array Nat) (rule : CaseRule) (span : Nat × Nat) (pos : Nat) : Bool :=
  let len := span.2 - span.1
  pos + len ≤ subject.size &&
    (List.range len).all fun k =>
      rule.lower (subject.getD (span.1 + k) 0) == rule.lower (subject.getD (pos + k) 0)

/-- What the rest of a match does with the state a node ends in: the state the whole match ends
in, or none when it cannot go on from there. -/
abbrev MatchRest := MatchState → Option MatchState

mutual

/-- The first way through a node the rest accepts, in backtracking order; `fuel` bounds
steps. -/
def Regex.first (subject : Array Nat) : Nat → Regex → MatchState → MatchRest → Option MatchState
  | 0, _, _, _ => none
  | fuel + 1, r, s, k =>
    match r with
    | .char t =>
      match subject[s.pos]? with
      | some c => if t.accepts c then k { s with pos := s.pos + 1 } else none
      | none => none
    | .anchor a multiline unicode => if a.test multiline unicode subject s.pos then k s else none
    | .seq items => seqFirst subject fuel items s k
    | .alt branches => altFirst subject fuel branches s k
    | .rep lo hi mode body =>
      if mode == .possessive then
        match repeatFirst subject fuel body lo hi mode 0 s some with
        | some t => k t
        | none => none
      else repeatFirst subject fuel body lo hi mode 0 s k
    | .group i body => body.first subject fuel s fun t => k (t.capture i (s.pos, t.pos))
    | .atomic body =>
      match body.first subject fuel s some with
      | some t => k t
      | none => none
    | .look behind negated width body =>
      let found :=
        if behind then
          if width > s.pos then none
          else body.first subject fuel { s with pos := s.pos - width } fun t =>
            if t.pos == s.pos then some t else none
        else body.first subject fuel s some
      match found, negated with
      | some t, false => k { s with spans := t.spans }
      | none, true => k s
      | _, _ => none
    | .backref i rule =>
      match s.span i with
      | some span =>
        if spanRepeats subject rule span s.pos then k { s with pos := s.pos + (span.2 - span.1) }
        else none
      | none => none
    | .cond i yes no => if (s.span i).isSome then yes.first subject fuel s k else no.first subject fuel s k

/-- The first way through a sequence from a state that the rest of the match accepts. -/
def seqFirst (subject : Array Nat) : Nat → List Regex → MatchState → MatchRest → Option MatchState
  | 0, _, _, _ => none
  | fuel + 1, items, s, k =>
    match items with
    | [] => k s
    | r :: rest => r.first subject fuel s fun t => seqFirst subject fuel rest t k

/-- The first way through one of some branches, tried in order. -/
def altFirst (subject : Array Nat) : Nat → List Regex → MatchState → MatchRest → Option MatchState
  | 0, _, _, _ => none
  | fuel + 1, branches, s, k =>
    match branches with
    | [] => none
    | b :: rest =>
      match b.first subject fuel s k with
      | some t => some t
      | none => altFirst subject fuel rest s k

/-- The first way through a repetition after `count` rounds: below the least count a round is
required; above it greedy tries another round first, lazy stops first; an empty round ends it. -/
def repeatFirst (subject : Array Nat) : Nat → Regex → Nat → Option Nat → RepeatMode → Nat →
    MatchState → MatchRest → Option MatchState
  | 0, _, _, _, _, _, _, _ => none
  | fuel + 1, body, lo, hi, mode, count, s, k =>
    if count < lo then
      body.first subject fuel s fun t => repeatFirst subject fuel body lo hi mode (count + 1) t k
    else
      let more := fun (_ : Unit) =>
        if hi.all (count < ·) then
          body.first subject fuel s fun t =>
            if t.pos == s.pos then k t else repeatFirst subject fuel body lo hi mode (count + 1) t k
        else none
      if mode == .lazy then
        match k s with
        | some t => some t
        | none => more ()
      else
        match more () with
        | some t => some t
        | none => k s

end

/-- The least counts of the quantifiers of a pattern, added up. -/
def Regex.leastCounts : Regex → Nat
  | .rep lo _ _ body => lo + body.leastCounts
  | .seq items => countsOf items
  | .alt branches => countsOf branches
  | .group _ body | .atomic body | .look _ _ _ body => body.leastCounts
  | .cond _ yes no => yes.leastCounts + no.leastCounts
  | _ => 0
where
  countsOf : List Regex → Nat
    | [] => 0
    | r :: rest => r.leastCounts + countsOf rest

/-- Whether a pattern matches somewhere in a subject. -/
def Regex.search (r : Regex) (groups : Nat) (patternLength : Nat) (subject : Array Nat) : Bool :=
  let fuel := (patternLength + 2) * (subject.size + 2 + r.leastCounts) + 8
  (List.range (subject.size + 1)).any fun start =>
    (r.first subject fuel ⟨start, List.replicate groups none⟩ some).isSome

/-- The code points of valid UTF-8 text. -/
def utf8CodePoints? (bs : List UInt8) : Option (List Nat) :=
  (String.fromUTF8? (ByteArray.mk bs.toArray)).map fun s => s.toList.map Char.toNat

/-- An argument of the function as the host sees it: text as code points, or the value. -/
def regexArgument : SqlValue → Except SqlError SqlValue
  | .text bs =>
    match utf8CodePoints? bs with
    | some _ => .ok (.text bs)
    | none => .error .userFunctionFailed
  | v => .ok v

/-- The fault a refused pattern is reported as. -/
def RegexError.toSql : RegexError → SqlError
  | .malformed => .userFunctionFailed
  | .tooLarge => .tooBig

/-- `regexp(pattern, subject)`: `NULL` for a `NULL` subject, else whether it matches
somewhere. -/
def regexpValue (pattern subject : SqlValue) : Except SqlError SqlValue := do
  let pattern ← regexArgument pattern
  let subject ← regexArgument subject
  if let .null := subject then return .null
  let (text, p) ← match pattern with
    | .text bs => pure (true, ((utf8CodePoints? bs).getD []))
    | .blob bs => pure (false, bs.map (·.toNat))
    | _ => throw .userFunctionFailed
  let (r, groups) ← (compileRegex text p).mapError RegexError.toSql
  let s ← match text, subject with
    | true, .text bs => pure ((utf8CodePoints? bs).getD [])
    | false, .blob bs => pure (bs.map (·.toNat))
    | _, _ => throw .userFunctionFailed
  return .integer (if r.search groups p.length s.toArray then 1 else 0)

end PackageRegistry.Sql
