import PackageRegistry.Sql.Syntax
/-!
# `LIKE` and `GLOB` patterns

Pattern and text are read up to the first zero byte. `LIKE` matches `%` to any run and `_` to one
character, ASCII letters in either case; `GLOB` matches `*`, `?` and `[…]` sets, with case.
-/

namespace PackageRegistry.Sql

/-- A match, a failure an earlier wildcard may retry, or a failure ending the search. -/
inductive PatternResult where
  | matched
  | noMatch
  | noWildcardMatch
  deriving Repr, BEq, DecidableEq

/-- The special characters of a pattern language: the wildcards (`0` when off), the escape or
set opener, and whether letters match in either case. -/
structure PatternRules where
  matchAll : Nat
  matchOne : Nat
  /-- The escape character of `LIKE`, or `[` for `GLOB`; `0` for none. -/
  matchOther : Nat
  /-- Whether `matchOther` opens a set. -/
  sets : Bool
  noCase : Bool
  deriving Repr, BEq

/-- The rules of `LIKE`. -/
def likeRules : PatternRules :=
  { matchAll := 37, matchOne := 95, matchOther := 0, sets := false, noCase := true }

def globRules : PatternRules :=
  { matchAll := 42, matchOne := 63, matchOther := 91, sets := true, noCase := false }

/-- The next character of text, `0` at its end. -/
def nextChar (bs : List UInt8) : Nat × List UInt8 :=
  (readChar bs).getD (0, [])

/-- An ASCII letter code point folded to lower case. -/
def lowerAscii (c : Nat) : Nat := if 65 ≤ c && c ≤ 90 then c + 32 else c

/-- Skips the wildcards after a `matchAll`: the next pattern character and the rests, or none
when the text ran out. -/
def skipWildcards (r : PatternRules) : Nat → List UInt8 → List UInt8 → Option (Nat × List UInt8 × List UInt8)
  | 0, pat, str => some (0, pat, str)
  | fuel + 1, pat, str =>
    let (c, pat') := nextChar pat
    if c != 0 && c == r.matchAll then skipWildcards r fuel pat' str
    else if c != 0 && r.matchOne != 0 && c == r.matchOne then
      let (c2, str') := nextChar str
      if c2 == 0 then none else skipWildcards r fuel pat' str'
    else some (c, pat', str)

/-- The suffixes of text that follow each occurrence of a character (an ASCII letter in either
case, when case is ignored). -/
def suffixesAfter (r : PatternRules) (c : Nat) : Nat → List UInt8 → List (List UInt8)
  | 0, _ => []
  | fuel + 1, str =>
    match readChar str with
    | none => []
    | some (c2, rest) =>
      let hit := c2 == c || (r.noCase && c < 0x80 && c2 < 0x80 && lowerAscii c2 == lowerAscii c)
      if hit then rest :: suffixesAfter r c fuel rest else suffixesAfter r c fuel rest

/-- The suffixes of text that start at each of its characters. -/
def charSuffixes : Nat → List UInt8 → List (List UInt8)
  | 0, _ => []
  | fuel + 1, str =>
    match readChar str with
    | none => []
    | some (_, rest) => str :: charSuffixes fuel rest

/-- Whether a character belongs to a `GLOB` set after `[`: membership and what follows `]`, or
none when unclosed. -/
def setMember (c : Nat) : Nat → Nat → Bool → List UInt8 → Option (Bool × List UInt8)
  | 0, _, _, _ => none
  | fuel + 1, prior, seen, pat =>
    let (c2, rest) := nextChar pat
    if c2 == 0 then none
    else if c2 == 93 then some (seen, rest)
    else if c2 == 45 && prior > 0 && (match rest with
        | b :: _ => b != 93
        | [] => false) then
      let (hi, rest) := nextChar rest
      setMember c fuel 0 (seen || (prior ≤ c && c ≤ hi)) rest
    else setMember c fuel c2 (seen || c == c2) rest

/-- Matches a pattern against text; `fuel` bounds the pattern characters still to be read. -/
def patternCompare (r : PatternRules) : Nat → List UInt8 → List UInt8 → PatternResult
  | 0, _, _ => .noMatch
  | fuel + 1, pat, str =>
    let (c, pat) := nextChar pat
    if c == 0 then (if str.isEmpty then .matched else .noMatch)
    else if c == r.matchAll then
      match skipWildcards r (pat.length + 1) pat str with
      | none => .noWildcardMatch
      | some (c, pat, str) =>
        if c == 0 then .matched
        else if c == r.matchOther && r.sets then
          -- a set right after the wildcard: try it at every character
          let tries := (charSuffixes (str.length + 1) str).map fun s => patternCompare r fuel (91 :: pat) s
          (tries.find? (· != .noMatch)).getD .noWildcardMatch
        else
          let (c, pat, ok) :=
            if c == r.matchOther then
              let (e, pat) := nextChar pat
              (e, pat, e != 0)
            else (c, pat, true)
          if !ok then .noWildcardMatch
          else
            let tries := (suffixesAfter r c (str.length + 1) str).map fun s => patternCompare r fuel pat s
            (tries.find? (· != .noMatch)).getD .noWildcardMatch
    else if c == r.matchOther && r.sets then
      let (sc, str) := nextChar str
      if sc == 0 then .noMatch
      else
        let (invert, body) := match nextChar pat with
          | (94, rest) => (true, rest)
          | _ => (false, pat)
        -- a `]` first belongs to the set
        let (seen, body) := match nextChar body with
          | (93, rest) => (sc == 93, rest)
          | _ => (false, body)
        match setMember sc (body.length + 1) 0 seen body with
        | none => .noMatch
        | some (member, rest) => if member != invert then patternCompare r fuel rest str else .noMatch
    else
      let (c, pat, escaped, ok) :=
        if c == r.matchOther then
          let (e, pat) := nextChar pat
          (e, pat, true, e != 0)
        else (c, pat, false, true)
      if !ok then .noMatch
      else
        let (c2, str) := nextChar str
        if c == c2 then patternCompare r fuel pat str
        else if r.noCase && c < 0x80 && c2 < 0x80 && lowerAscii c == lowerAscii c2 then
          patternCompare r fuel pat str
        else if c == r.matchOne && !escaped && c2 != 0 then patternCompare r fuel pat str
        else .noMatch

/-- The longest pattern the engine accepts, in bytes. -/
def maxPatternLength : Nat := 50000

/-- `like` or `glob`: `0` against a blob, `NULL` for a `NULL` side; refused for too long a
pattern or a bad escape. -/
def matchPattern (glob : Bool) (pattern subject : SqlValue) (escape : Option SqlValue) :
    Except SqlError SqlValue := do
  let isBlob := fun (v : SqlValue) => match v with
    | .blob _ => true
    | _ => false
  if isBlob pattern || isBlob subject then return .integer 0
  if pattern.textBytes.length > maxPatternLength then throw .patternTooComplex
  let base := if glob then globRules else likeRules
  let rules ← match escape with
    | none => .ok (some base)
    | some .null => .ok none
    | some v =>
      match codePoints (beforeNul v.textBytes) with
      | [e] =>
        .ok (some { base with
          matchOther := e,
          matchAll := if e == base.matchAll then 0 else base.matchAll,
          matchOne := if e == base.matchOne then 0 else base.matchOne })
      | _ => .error .escapeNotSingle
  match rules, pattern.textBytes?, subject.textBytes? with
  | some rules, some p, some s =>
    let p := beforeNul p
    let result := patternCompare rules (p.length + 1) p (beforeNul s)
    .ok (.integer (if result == .matched then 1 else 0))
  | _, _, _ => .ok .null

end PackageRegistry.Sql
