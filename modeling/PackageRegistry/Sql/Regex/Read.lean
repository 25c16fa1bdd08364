import PackageRegistry.Sql.Regex.Tree
import PackageRegistry.Text.Identifier
import PackageRegistry.Text.Integer
import PackageRegistry.Text.CharName
/-!
# Reading regular expressions

A pattern is read left to right into a tree by the rules of Python's `re`: escapes, sets,
repeats (lazy or possessive), and groups of every kind. Alternatives sharing a first simple item
share it; single-character ones become one set.
-/

namespace PackageRegistry.Sql

open PackageRegistry.Text

/-- Why a pattern is refused. -/
inductive RegexError where
  /-- The pattern is malformed. -/
  | malformed
  /-- A repeat count is too large to be held. -/
  | tooLarge
  deriving BEq, DecidableEq, Repr

/-- Repeat counts stay below this. -/
def repeatLimit : Nat := 4294967295

/-- Group numbers stay below this. -/
def groupLimit : Nat := 1073741823

/-- One token of a pattern: a character, or a backslash with the character after it. -/
inductive RegexToken where
  | plain (c : Nat)
  | escaped (c : Nat)
  deriving BEq, DecidableEq, Repr

/-- The next token of a pattern and what follows it; none at the end. -/
def nextRegexToken : List Nat → Except RegexError (Option (RegexToken × List Nat))
  | [] => .ok none
  | [92] => .error .malformed
  | 92 :: c :: rest => .ok (some (.escaped c, rest))
  | c :: rest => .ok (some (.plain c, rest))

/-- Whether a pattern goes on with the plain character `c` (not a backslash). -/
def startsWithPlain (c : Nat) : List Nat → Bool
  | d :: _ => d == c && c != 92
  | [] => false

/-- Tokens up to plain character `stop` and what follows it; refused when empty or unclosed. -/
def readUntil (stop : Nat) (acc : List Nat) : List Nat → Except RegexError (List Nat × List Nat)
  | [] => .error .malformed
  | [92] => .error .malformed
  | 92 :: c :: rest => readUntil stop (acc ++ [92, c]) rest
  | c :: rest =>
    if c == stop then (if acc.isEmpty then .error .malformed else .ok (acc, rest))
    else readUntil stop (acc ++ [c]) rest

/-- Exactly `n` hexadecimal digits: their value and what follows. -/
def hexDigits : Nat → Nat → List Nat → Option (Nat × List Nat)
  | 0, acc, cs => some (acc, cs)
  | n + 1, acc, c :: cs => if isHexCode c then hexDigits n (acc * 16 + hexCodeValue c) cs else none
  | _ + 1, _, [] => none

/-- Up to `n` octal digits after a first value: the value and what follows. -/
def octalDigits : Nat → Nat → List Nat → Nat × List Nat
  | 0, acc, cs => (acc, cs)
  | n + 1, acc, c :: cs => if isOctalDigit c then octalDigits n (acc * 8 + (c - 48)) cs else (acc, c :: cs)
  | _ + 1, acc, [] => (acc, [])

def codeText (cs : List Nat) : String := String.ofList (cs.map Char.ofNat)

/-- The character escapes of one letter: `\a \f \n \r \t \v` and `\\`. -/
def letterEscape (c : Nat) : Option Nat :=
  match c with
  | 97 => some 7
  | 102 => some 12
  | 110 => some 10
  | 114 => some 13
  | 116 => some 9
  | 118 => some 11
  | 92 => some 92
  | _ => none

/-- The class an escape letter names: `\d \s \w`, and negated `\D \S \W`. -/
def classEscape (c : Nat) : Option SetItem :=
  match c with
  | 100 => some (.category .digit false)
  | 68 => some (.category .digit true)
  | 115 => some (.category .space false)
  | 83 => some (.category .space true)
  | 119 => some (.category .word false)
  | 87 => some (.category .word true)
  | _ => none

/-- A code escape after its letter: `\x`, and in text patterns `\u`, `\U`, `\N{name}`; none for
other letters. -/
def codeEscape (text : Bool) (c : Nat) (rest : List Nat) :
    Option (Except RegexError (Nat × List Nat)) :=
  let fixed := fun (n : Nat) => match hexDigits n 0 rest with
    | some r => Except.ok r
    | none => .error .malformed
  if c == 120 then some (fixed 2)
  else if c == 117 && text then some (fixed 4)
  else if c == 85 && text then
    some (do
      let (v, r) ← fixed 8
      if v > 0x10FFFF then .error .malformed else .ok (v, r))
  else if c == 78 && text then
    some (do
      if !startsWithPlain 123 rest then throw .malformed
      let (name, r) ← readUntil 125 [] (rest.drop 1)
      match codeOfName? (codeText name) with
      | some v => pure (v, r)
      | none => throw .malformed)
  else none

/-- An escape inside a set, after its backslash: a character or a class. -/
def readSetEscape (text : Bool) (c : Nat) (rest : List Nat) : Except RegexError (SetItem × List Nat) :=
  if c == 98 then .ok (.single 8, rest)
  else match letterEscape c with
  | some v => .ok (.single v, rest)
  | none =>
  match classEscape c with
  | some item => .ok (item, rest)
  | none =>
  match codeEscape text c rest with
  | some r => r.map fun (v, r) => (.single v, r)
  | none =>
    if isOctalDigit c then
      let (v, r) := octalDigits 2 (c - 48) rest
      if v > 255 then .error .malformed else .ok (.single v, r)
    else if isAsciiDigit c || isAsciiLetter c then .error .malformed
    else .ok (.single c, rest)

def readSetMember (text : Bool) : RegexToken → List Nat → Except RegexError (SetItem × List Nat)
  | .escaped c, rest => readSetEscape text c rest
  | .plain c, rest => .ok (.single c, rest)

/-- Members kept once each, in the order first met. -/
def uniqueItems {α : Type} [BEq α] (xs : List α) : List α :=
  xs.foldl (fun acc x => if acc.contains x then acc else acc ++ [x]) []

/-- A set's members after `[` (and `^`), those so far reversed, and what follows `]`. -/
def readSetItems (text : Bool) : Nat → List SetItem → List Nat →
    Except RegexError (List SetItem × List Nat)
  | 0, _, _ => .error .malformed
  | fuel + 1, acc, cs => do
    let some (tok, rest) ← nextRegexToken cs | throw .malformed
    if tok == .plain 93 && !acc.isEmpty then return (acc.reverse, rest)
    let (first, rest) ← readSetMember text tok rest
    if !startsWithPlain 45 rest then return ← readSetItems text fuel (first :: acc) rest
    let some (tok2, more) ← nextRegexToken (rest.drop 1) | throw .malformed
    if tok2 == .plain 93 then return ((SetItem.single 45 :: first :: acc).reverse, more)
    let (second, more) ← readSetMember text tok2 more
    match first, second with
    | .single lo, .single hi =>
      if hi < lo then throw .malformed else readSetItems text fuel (.range lo hi :: acc) more
    | _, _ => throw .malformed

/-- The node of a set: one character when it has a single member that is a character. -/
def setNode (negated : Bool) (items : List SetItem) : RegexNode :=
  match uniqueItems items with
  | [.single c] => if negated then .notLiteral c else .literal c
  | items => .set negated items

/-- The value of a run of ASCII digits; refused beyond 4300 digits, too large from the repeat
limit on. -/
def repeatCount (ds : List Nat) : Except RegexError Nat :=
  if ds.length > maxIntegerDigits then .error .malformed
  else
    let v := ds.foldl (fun acc d => acc * 10 + (d - 48)) 0
    if v ≥ repeatLimit then .error .tooLarge else .ok v

/-- A `{m,n}` repeat after `{`: bounds and what follows `}`; none if no repeat starts. -/
def braceRepeat (cs : List Nat) : Except RegexError (Option ((Nat × Option Nat) × List Nat)) := do
  let lo := cs.takeWhile isAsciiDigit
  let r := cs.drop lo.length
  let (hi, r) :=
    if startsWithPlain 44 r then
      let h := (r.drop 1).takeWhile isAsciiDigit
      (h, (r.drop 1).drop h.length)
    else (lo, r)
  if !startsWithPlain 125 r then return none
  let after := r.drop 1
  -- the token after the brace is read before the counts are checked
  if after == [92] then throw .malformed
  let least ← if lo.isEmpty then pure 0 else repeatCount lo
  if hi.isEmpty then return some ((least, none), after)
  let most ← repeatCount hi
  if most < least then throw .malformed
  return some ((least, some most), after)

/-- A quantifier's mode: `?` lazy, `+` possessive, otherwise greedy; and what follows. -/
def repeatMode (cs : List Nat) : RepeatMode × List Nat :=
  if startsWithPlain 63 cs then (.lazy, cs.drop 1)
  else if startsWithPlain 43 cs then (.possessive, cs.drop 1)
  else (.greedy, cs)

/-- A repeat applied to the last item read (reversed), which must exist and be no anchor or
repeat. -/
def repeatLast (lo : Nat) (hi : Option Nat) (mode : RepeatMode) :
    List RegexNode → Except RegexError (List RegexNode)
  | [] => .error .malformed
  | last :: rest =>
    match last with
    | .anchor _ | .rep .. => .error .malformed
    | .group none add del body =>
      if add.isEmpty && del.isEmpty then .ok (.rep lo hi mode body :: rest)
      else .ok (.rep lo hi mode [last] :: rest)
    | _ => .ok (.rep lo hi mode [last] :: rest)

/-- A sequence with its groups that have neither index nor options replaced by their
contents. -/
def spliceGroups (items : List RegexNode) : List RegexNode :=
  items.flatMap fun n =>
    match n with
    | .group none add del body => if add.isEmpty && del.isEmpty then body else [n]
    | _ => [n]

/-- The common leading simple items of alternatives, moved out in front; `fuel` bounds the
items. -/
def sharedPrefix : Nat → List (List RegexNode) → List RegexNode × List (List RegexNode)
  | 0, alts => ([], alts)
  | fuel + 1, alts =>
    match alts with
    | (head :: _) :: _ =>
      if alts.all fun a => match a with
        | h :: _ => h.sameSimple head
        | [] => false
      then
        let (more, alts) := sharedPrefix fuel (alts.map (·.drop 1))
        (head :: more, alts)
      else ([], alts)
    | _ => ([], alts)

/-- The members of alternatives that are all single characters or plain sets. -/
def alternativeMembers : List (List RegexNode) → Option (List SetItem)
  | [] => some []
  | [.literal c] :: rest => (alternativeMembers rest).map (.single c :: ·)
  | [.set false items] :: rest => (alternativeMembers rest).map (items ++ ·)
  | _ => none

def joinAlternatives (alts : List (List RegexNode)) : List RegexNode :=
  match alts with
  | [one] => one
  | _ =>
    let (lead, alts) := sharedPrefix (alts.foldl (· + ·.length) 0) alts
    match alternativeMembers alts with
    | some items => lead ++ [.set false (uniqueItems items)]
    | none => lead ++ [.branch alts]

/-- Skips a `#` comment of a verbose pattern, up to and past the end of its line. -/
def skipLineComment : List Nat → Except RegexError (List Nat)
  | [] => .ok []
  | [92] => .error .malformed
  | 92 :: _ :: rest => skipLineComment rest
  | c :: rest => if c == 10 then .ok rest else skipLineComment rest

/-- Skips a `(?#…)` comment, up to and past its closing parenthesis. -/
def skipGroupComment : List Nat → Except RegexError (List Nat)
  | [] => .error .malformed
  | [92] => .error .malformed
  | 92 :: _ :: rest => skipGroupComment rest
  | c :: rest => if c == 41 then .ok rest else skipGroupComment rest

/-- Whether a plain character is blank for a verbose pattern. -/
def isVerboseBlank (c : Nat) : Bool := c == 32 || (9 ≤ c && c ≤ 13)

/-- Whether a plain character has a meaning of its own: `. \ [ { ( ) * + ? ^ $ |`. -/
def isSpecialCode (c : Nat) : Bool :=
  c == 46 || c == 92 || c == 91 || c == 123 || c == 40 || c == 41 || c == 42 || c == 43 ||
    c == 63 || c == 94 || c == 36 || c == 124

/-- Whether the options that choose the classes agree within one option group. -/
def RegexFlags.sameType (a b : RegexFlags) : Bool :=
  a.ascii == b.ascii && a.locale == b.locale && a.unicode == b.unicode

/-- Adds a letter's option in an option group: `L` only for bytes, `u` only for text, at most
one of `a L u`. -/
def addOnLetter (text : Bool) (add : RegexFlags) (c : Nat) : Except RegexError RegexFlags := do
  let some flag := RegexFlags.ofLetter? c | throw .malformed
  if (text && c == 76) || (!text && c == 117) then throw .malformed
  let add := add.union flag
  if flag.typeCount > 0 && !(add.sameType flag) then throw .malformed
  return add

/-- Option letters from `c` up to `)`, `-` or `:`: the options, the ending character, the rest. -/
def readOnLetters (text : Bool) (add : RegexFlags) (c : Nat) :
    List Nat → Except RegexError (RegexFlags × Nat × List Nat)
  | [] => do
    let _ ← addOnLetter text add c
    throw .malformed
  | d :: rest => do
    let add ← addOnLetter text add c
    if d == 41 || d == 45 || d == 58 then return (add, d, rest)
    else if d != 92 && (RegexFlags.ofLetter? d).isSome then readOnLetters text add d rest
    else throw .malformed

/-- Adds the option of a letter to those turned off: never one of `a L u`. -/
def addOffLetter (del : RegexFlags) (c : Nat) : Except RegexError RegexFlags := do
  let some flag := RegexFlags.ofLetter? c | throw .malformed
  if flag.typeCount > 0 then throw .malformed
  return del.union flag

/-- Option letters turned off, from the letter `c`, up to `:`: the options and what follows. -/
def readOffLetters (del : RegexFlags) (c : Nat) : List Nat → Except RegexError (RegexFlags × List Nat)
  | [] => do
    let _ ← addOffLetter del c
    throw .malformed
  | d :: rest => do
    let del ← addOffLetter del c
    if d == 58 then return (del, rest)
    else if d != 92 && (RegexFlags.ofLetter? d).isSome then readOffLetters del d rest
    else throw .malformed

/-- Options read after `(?`: for the whole pattern, or turned on and off in a group. -/
inductive RegexOptions where
  | whole (add : RegexFlags)
  | scoped (add del : RegexFlags)

/-- Options after `(?`: the whole pattern's end with `)`, a group's with `:`; and what follows. -/
def readOptions (text : Bool) (c : Nat) (cs : List Nat) :
    Except RegexError (RegexOptions × List Nat) := do
  let (add, stop, rest) ← if c == 45 then pure ({}, 45, cs) else readOnLetters text {} c cs
  if stop == 41 then return (.whole add, rest)
  if add.template then throw .malformed
  let (del, rest) ← if stop == 45 then
      match rest with
      | d :: more =>
        if d != 92 && (RegexFlags.ofLetter? d).isSome then readOffLetters {} d more
        else throw .malformed
      | [] => throw .malformed
    else pure ({}, rest)
  if del.template || add.meets del then throw .malformed
  return (.scoped add del, rest)

/-- What is read of a pattern: global options, groups, names, first group in the outermost
look-behind, references. -/
structure ReadState where
  flags : RegexFlags := {}
  widths : List (Option (Nat × Nat)) := []
  names : List (List Nat × Nat) := []
  lookbehindFrom : Option Nat := none
  condRefs : List Nat := []

/-- One more than the groups opened so far. -/
def ReadState.groups (st : ReadState) : Nat := st.widths.length + 1

def ReadState.isClosed (st : ReadState) (g : Nat) : Bool :=
  g ≥ 1 && ((st.widths[g - 1]?).join).isSome

def ReadState.groupWidths (st : ReadState) : GroupWidths :=
  (st.widths.zipIdx 1).filterMap fun (w, i) => w.map (i, ·)

/-- Refuses a reference from inside a look-behind to a group not closed before it began. -/
def ReadState.checkLookbehind (st : ReadState) (g : Nat) : Except RegexError Unit :=
  match st.lookbehindFrom with
  | none => .ok ()
  | some first => if !st.isClosed g || g ≥ first then .error .malformed else .ok ()

/-- Opens a group, with its name if it has one: its number and the state. -/
def ReadState.openGroup (st : ReadState) (name : Option (List Nat)) :
    Except RegexError (Nat × ReadState) := do
  let gid := st.groups
  if gid + 1 > groupLimit then throw .malformed
  let st := { st with widths := st.widths ++ [none] }
  match name with
  | none => return (gid, st)
  | some n =>
    if st.names.any (·.1 == n) then throw .malformed
    return (gid, { st with names := st.names ++ [(n, gid)] })

/-- Closes a group with its contents. -/
def ReadState.closeGroup (st : ReadState) (gid : Nat) (body : List RegexNode) : ReadState :=
  { st with widths := st.widths.set (gid - 1) (some (widthOfSeq st.groupWidths body)) }

/-- A group number written as text: a non-negative decimal integer the integer reader takes. -/
def groupNumber? (name : List Nat) : Option Nat :=
  match readInteger? (codeText name) with
  | some n => if n < 0 then none else some n.toNat
  | none => none

/-- What a parenthesis adds to a sequence. -/
inductive GroupRead where
  | node (n : RegexNode)
  | comment
  /-- Options for the whole pattern. -/
  | wholeOptions

mutual

/-- Alternatives split by `|` up to `)` or the end (`top` for the whole pattern): sequence, rest,
state. -/
def readAlternatives (text : Bool) : Nat → ReadState → Bool → Bool → List (List RegexNode) →
    List Nat → Except RegexError (List RegexNode × List Nat × ReadState)
  | 0, _, _, _, _, _ => .error .malformed
  | fuel + 1, st, verbose, top, done, cs => do
    let (items, rest, st) ← readSequence text fuel st verbose (top && done.isEmpty) [] cs
    let done := items :: done
    if startsWithPlain 124 rest then
      readAlternatives text fuel st (if top then st.flags.verbose else verbose) top done (rest.drop 1)
    else return (joinAlternatives done.reverse, rest, st)

/-- The items of one alternative up to `|`, `)` or the end; `first` tells whether global
options may still come. -/
def readSequence (text : Bool) : Nat → ReadState → Bool → Bool → List RegexNode → List Nat →
    Except RegexError (List RegexNode × List Nat × ReadState)
  | 0, _, _, _, _, _ => .error .malformed
  | fuel + 1, st, verbose, first, acc, cs => do
    let finish := fun (_ : Unit) => (Except.ok (spliceGroups acc.reverse, cs, st) :
      Except RegexError (List RegexNode × List Nat × ReadState))
    let some (tok, rest) ← nextRegexToken cs | finish ()
    match tok with
    | .escaped c => do
      let (node, rest, st) ← readEscape text st c rest
      readSequence text fuel st verbose first (node :: acc) rest
    | .plain c =>
      if c == 124 || c == 41 then finish ()
      else if verbose && isVerboseBlank c then readSequence text fuel st verbose first acc rest
      else if verbose && c == 35 then do
        let rest ← skipLineComment rest
        readSequence text fuel st verbose first acc rest
      else if !isSpecialCode c then readSequence text fuel st verbose first (.literal c :: acc) rest
      else if c == 91 then do
        let (negated, rest) := if startsWithPlain 94 rest then (true, rest.drop 1) else (false, rest)
        let (items, rest) ← readSetItems text (rest.length + 1) [] rest
        readSequence text fuel st verbose first (setNode negated items :: acc) rest
      else if c == 42 || c == 43 || c == 63 || c == 123 then do
        let bounds ← if c == 42 then pure (some ((0, none), rest))
          else if c == 43 then pure (some ((1, none), rest))
          else if c == 63 then pure (some ((0, some 1), rest))
          else if startsWithPlain 125 rest then pure none
          else braceRepeat rest
        match bounds with
        | none => readSequence text fuel st verbose first (.literal 123 :: acc) rest
        | some ((lo, hi), after) =>
          let (mode, after) := repeatMode after
          let acc ← repeatLast lo hi mode acc
          readSequence text fuel st verbose first acc after
      else if c == 46 then readSequence text fuel st verbose first (.any :: acc) rest
      else if c == 94 then readSequence text fuel st verbose first (.anchor .lineStart :: acc) rest
      else if c == 36 then readSequence text fuel st verbose first (.anchor .lineEnd :: acc) rest
      else do
        let (read, rest, st) ← readGroup text fuel st verbose rest
        match read with
        | .node n => readSequence text fuel st verbose first (n :: acc) rest
        | .comment => readSequence text fuel st verbose first acc rest
        | .wholeOptions =>
          if !first || !acc.isEmpty then throw .malformed
          readSequence text fuel st st.flags.verbose first acc rest

/-- An escape outside a set, after its backslash: the node it stands for. -/
def readEscape (text : Bool) (st : ReadState) (c : Nat) (rest : List Nat) :
    Except RegexError (RegexNode × List Nat × ReadState) :=
  if c == 65 then .ok (.anchor .textStart, rest, st)
  else if c == 90 then .ok (.anchor .textEnd, rest, st)
  else if c == 98 then .ok (.anchor (.boundary false), rest, st)
  else if c == 66 then .ok (.anchor (.boundary true), rest, st)
  else match classEscape c with
  | some item => .ok (.set false [item], rest, st)
  | none =>
  match letterEscape c with
  | some v => .ok (.literal v, rest, st)
  | none =>
  match codeEscape text c rest with
  | some r => r.map fun (v, r) => (.literal v, r, st)
  | none =>
    if c == 48 then
      let (v, r) := octalDigits 2 0 rest
      .ok (.literal v, r, st)
    else if isAsciiDigit c then do
      let (digits, r) := match rest with
        | d :: more => if isAsciiDigit d then ([c, d], more) else ([c], rest)
        | [] => ([c], rest)
      match digits, r with
      | [a, b], e :: more =>
        if isOctalDigit a && isOctalDigit b && isOctalDigit e then
          let v := ((a - 48) * 8 + (b - 48)) * 8 + (e - 48)
          if v > 255 then throw .malformed else return (.literal v, more, st)
        else pure ()
      | _, _ => pure ()
      let group := digits.foldl (fun acc d => acc * 10 + (d - 48)) 0
      if group < st.groups then
        if !st.isClosed group then throw .malformed
        st.checkLookbehind group
        return (.groupRef group, r, st)
      else throw .malformed
    else if isAsciiLetter c then .error .malformed
    else .ok (.literal c, rest, st)

/-- A group after `(`: what it adds, what follows `)`, and the state. -/
def readGroup (text : Bool) : Nat → ReadState → Bool → List Nat →
    Except RegexError (GroupRead × List Nat × ReadState)
  | 0, _, _, _ => .error .malformed
  | fuel + 1, st, verbose, cs => do
    let body := fun (st : ReadState) (verbose : Bool) (rest : List Nat) => do
      let (p, rest, st) ← readAlternatives text fuel st verbose false [] rest
      if !startsWithPlain 41 rest then throw .malformed
      pure (p, rest.drop 1, st)
    let capture := fun (st : ReadState) (name : Option (List Nat)) (rest : List Nat) => do
      let (gid, st) ← st.openGroup name
      let (p, rest, st) ← body st verbose rest
      pure (GroupRead.node (.group (some gid) {} {} p), rest, st.closeGroup gid p)
    if !startsWithPlain 63 cs then return ← capture st none cs
    let some (tok, rest) ← nextRegexToken (cs.drop 1) | throw .malformed
    let .plain c := tok | throw .malformed
    if c == 80 then
      if startsWithPlain 60 rest then do
        let (name, rest) ← readUntil 62 [] (rest.drop 1)
        if !isIdentifier name then throw .malformed
        capture st (some name) rest
      else if startsWithPlain 61 rest then do
        let (name, rest) ← readUntil 41 [] (rest.drop 1)
        if !isIdentifier name then throw .malformed
        let some (_, gid) := st.names.find? (·.1 == name) | throw .malformed
        if !st.isClosed gid then throw .malformed
        st.checkLookbehind gid
        return (.node (.groupRef gid), rest, st)
      else throw .malformed
    else if c == 58 then do
      let (p, rest, st) ← body st verbose rest
      return (.node (.group none {} {} p), rest, st)
    else if c == 35 then do
      let rest ← skipGroupComment rest
      return (.comment, rest, st)
    else if c == 61 || c == 33 then do
      let (p, rest, st) ← body st verbose rest
      return (.node (.look false (c == 33) p), rest, st)
    else if c == 60 then do
      let some (.plain d, rest) ← nextRegexToken rest | throw .malformed
      if d != 61 && d != 33 then throw .malformed
      let outermost := st.lookbehindFrom.isNone
      let st := if outermost then { st with lookbehindFrom := some st.groups } else st
      let (p, rest, st) ← body st verbose rest
      let st := if outermost then { st with lookbehindFrom := none } else st
      return (.node (.look true (d == 33) p), rest, st)
    else if c == 40 then do
      let (name, rest) ← readUntil 41 [] rest
      let (gid, st) ← if isIdentifier name then
          match st.names.find? (·.1 == name) with
          | some (_, gid) => pure (gid, st)
          | none => throw .malformed
        else
          match groupNumber? name with
          | none => throw .malformed
          | some n =>
            if n == 0 || n ≥ groupLimit then throw .malformed
            else pure (n, { st with condRefs := n :: st.condRefs })
      st.checkLookbehind gid
      let (yes, rest, st) ← readSequence text fuel st verbose false [] rest
      let (no, rest, st) ← if startsWithPlain 124 rest then do
          let (no, rest, st) ← readSequence text fuel st verbose false [] (rest.drop 1)
          if startsWithPlain 124 rest then throw .malformed
          pure (some no, rest, st)
        else pure (none, rest, st)
      if !startsWithPlain 41 rest then throw .malformed
      return (.node (.groupExists gid yes no), rest.drop 1, st)
    else if c == 62 then do
      let (p, rest, st) ← body st verbose rest
      return (.node (.atomic p), rest, st)
    else if c == 45 || (RegexFlags.ofLetter? c).isSome then do
      let (options, rest) ← readOptions text c rest
      match options with
      | .whole add => return (.wholeOptions, rest, { st with flags := st.flags.union add })
      | .scoped add del =>
        let (p, rest, st) ← body st ((verbose || add.verbose) && !del.verbose) rest
        return (.node (.group none add del p), rest, st)
    else throw .malformed

end

/-- A pattern read whole: its tree and final state, the global options settled. -/
def readRegex (text : Bool) (cs : List Nat) : Except RegexError (List RegexNode × ReadState) := do
  let (items, rest, st) ← readAlternatives text (6 * cs.length + 10) {} false true [] cs
  let f := st.flags
  if text && f.ascii && f.unicode then throw .malformed
  if !text && f.ascii && f.locale then throw .malformed
  if !rest.isEmpty then throw .malformed
  if st.condRefs.any (· ≥ st.groups) then throw .malformed
  let f := if text then { f with unicode := !f.ascii } else f
  return (items, { st with flags := f })

end PackageRegistry.Sql
