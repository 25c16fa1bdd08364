import PackageRegistry.Console.Literal.Token
import PackageRegistry.Console.Literal.Tree
import PackageRegistry.Text.CharName
import PackageRegistry.Text.Quoted
/-!
# String literals of literal parameters

Adjacent string tokens make one string, each read by its prefix (`b` bytes, `r` raw, `f`
formatted). Bytes hold only ASCII, escapes need their digits and a known character name, and
bytes and text do not mix.
-/

namespace PackageRegistry.Console

open PackageRegistry.Text

/-- A string token read: whether it is bytes, raw or formatted, and its body between the quotes. -/
structure StringPiece where
  bytes : Bool
  raw : Bool
  formatted : Bool
  body : List Char
  deriving Repr

/-- Reads a string token's text into its prefix flags and body. -/
def readStringPiece (text : String) : StringPiece :=
  let cs := text.toList
  let prefixLetters := cs.takeWhile fun c => c != '\'' && c != '"'
  let lower := prefixLetters.map Char.toLower
  let rest := cs.drop prefixLetters.length
  let body := match rest with
    | q :: q2 :: q3 :: more =>
      if q2 == q && q3 == q && rest.length ≥ 6 then more.take (more.length - 3)
      else (q2 :: q3 :: more).take (rest.length - 2)
    | _ :: more => more.take (more.length - 1)
    | [] => []
  { bytes := lower.contains 'b', raw := lower.contains 'r', formatted := lower.contains 'f', body }

/-! ## Escapes -/

/-- The text an escape decoder sees: non-ASCII characters as `\U` escapes, a backslash before
one as `\`. -/
def escapeBuffer : List Char → List Char
  | '\\' :: c :: rest =>
    if c.toNat ≥ 128 then ['\\', 'u', '0', '0', '5', 'c'] ++ escapeBuffer (c :: rest)
    else '\\' :: c :: escapeBuffer rest
  | ['\\'] => ['\\', 'u', '0', '0', '5', 'c']
  | c :: rest =>
    if c.toNat ≥ 128 then ['\\', 'U'] ++ hexPadded 8 c.toNat ++ escapeBuffer rest
    else c :: escapeBuffer rest
  | [] => []

/-- The value of a hexadecimal digit. -/
def hexValue (c : Char) : Nat :=
  if isDigitChar c then c.toNat - '0'.toNat
  else if 'a' ≤ c && c ≤ 'f' then c.toNat - 'a'.toNat + 10
  else c.toNat - 'A'.toNat + 10

/-- The fault of an escape starting at `start` whose decoding stopped at `stop`. -/
def escapeFault (start stop : Nat) (reason : String) : String :=
  if stop - start == 1 then
    "(unicode error) 'unicodeescape' codec can't decode byte 0x5c in position " ++ toString start ++
      ": " ++ reason
  else
    "(unicode error) 'unicodeescape' codec can't decode bytes in position " ++ toString start ++ "-" ++
      toString (stop - 1) ++ ": " ++ reason

/-- The first fault of the escapes of a decoder's text, from position `i` on. -/
def escapeFaultFrom (buf : Array Char) : Nat → Nat → Option String
  | 0, _ => none
  | fuel + 1, i =>
    if h : i < buf.size then
      if buf[i] != '\\' then escapeFaultFrom buf fuel (i + 1)
      else if h2 : i + 1 < buf.size then
        let c := buf[i + 1]
        if c == 'x' || c == 'u' || c == 'U' then
          let count := if c == 'x' then 2 else if c == 'u' then 4 else 8
          let reason := if c == 'x' then "truncated \\xXX escape"
            else if c == 'u' then "truncated \\uXXXX escape" else "truncated \\UXXXXXXXX escape"
          let digits := ((List.range count).map (i + 2 + ·)).takeWhile fun j =>
            match buf[j]? with
            | some d => isHexChar d
            | none => false
          if digits.length < count then
            some (escapeFault i (min (i + 2 + digits.length) buf.size) reason)
          else
            let value := digits.foldl (fun acc j => acc * 16 + hexValue (buf[j]?.getD '0')) 0
            if value > 0x10FFFF then some (escapeFault i (i + 2 + count) "illegal Unicode character")
            else escapeFaultFrom buf fuel (i + 2 + count)
        else if c == 'N' then
          match buf[i + 2]? with
          | some '{' =>
            let nameEnd := ((List.range (buf.size - (i + 3))).map (i + 3 + ·)).find? fun j => buf[j]? == some '}'
            match nameEnd with
            | none => some (escapeFault i buf.size "malformed \\N character escape")
            | some e =>
              if e == i + 3 then some (escapeFault i e "malformed \\N character escape")
              else
                let name := String.ofList ((List.range (e - (i + 3))).map fun k => buf[i + 3 + k]?.getD ' ')
                match codeOfName? name with
                | some _ => escapeFaultFrom buf fuel (e + 1)
                | none => some (escapeFault i (e + 1) "unknown Unicode character name")
          | some _ => some (escapeFault i (i + 2) "malformed \\N character escape")
          | none => some (escapeFault i buf.size "malformed \\N character escape")
        else if '0' ≤ c && c ≤ '7' then escapeFaultFrom buf fuel (i + 2)
        else escapeFaultFrom buf fuel (i + 2)
      else some (escapeFault i buf.size "\\ at end of string")
    else none

/-- The first fault of decoding the escapes of text. -/
def textEscapeFault (body : List Char) : Option String :=
  let buf := (escapeBuffer body).toArray
  escapeFaultFrom buf (buf.size + 1) 0

/-- The first fault of bytes' escapes: a `\x` without two hexadecimal digits, by position. -/
def bytesEscapeFault : Nat → List Char → Option String
  | _, [] => none
  | i, '\\' :: 'x' :: rest =>
    match rest with
    | a :: b :: more =>
      if isHexChar a && isHexChar b then bytesEscapeFault (i + 4) more
      else some ("(value error) invalid \\x escape at position " ++ toString i)
    | _ => some ("(value error) invalid \\x escape at position " ++ toString i)
  | i, '\\' :: _ :: rest => bytesEscapeFault (i + 2) rest
  | i, _ :: rest => bytesEscapeFault (i + 1) rest

/-! ## Formatted strings -/

/-- Whether a character is one of the blanks an empty field may hold. -/
def isFieldBlank (c : Char) : Bool := c == ' ' || c == '\t' || c == '\n' || c == '\x0c'

def isAsciiSpace (c : Char) : Bool :=
  c == ' ' || c == '\t' || c == '\n' || c == '\r' || c == '\x0b' || c == '\x0c'

/-- A formatted string's literal part up to its next field, and whether it ended at a doubled
brace; a single `}` is refused at the top level. -/
def fieldLiteral (raw : Bool) (level : Nat) : Nat → List Char → List Char →
    Except String (List Char × List Char × Bool)
  | 0, acc, cs => .ok (acc.reverse, cs, false)
  | fuel + 1, acc, cs =>
    match cs with
    | [] => .ok (acc.reverse, [], false)
    | c :: rest =>
      let (ch, consumed, rest) : Char × List Char × List Char :=
        if !raw && c == '\\' && !rest.isEmpty then
          match rest with
          | 'N' :: more =>
            match more with
            | '{' :: after =>
              let name := after.takeWhile (· != '}')
              let skipped := after.drop name.length
              ('N', ['\\', 'N', '{'] ++ name ++ skipped.take 1, skipped.drop 1)
            | x :: after => ('N', ['\\', 'N', x], after)
            | [] => ('N', ['\\', 'N'], [])
          | d :: more => (d, ['\\', d], more)
          | [] => (c, [c], [])
        else (c, [c], rest)
      let lead := (consumed.dropLast.reverse ++ acc).reverse
      if ch == '{' || ch == '}' then
        if level == 0 then
          match rest with
          | d :: after =>
            if d == ch then .ok ((consumed.reverse ++ acc).reverse, after, true)
            else if ch == '}' then .error "f-string: single '\x7d' is not allowed"
            else .ok (lead, ch :: rest, false)
          | [] =>
            if ch == '}' then .error "f-string: single '\x7d' is not allowed"
            else .ok (lead, ch :: rest, false)
        else .ok (lead, ch :: rest, false)
      else fieldLiteral raw level fuel (consumed.reverse ++ acc) rest

/-- A field's expression text after `{`, up to the `!`, `:`, `}` or `=` ending it; or a
fault. -/
def fieldExpression : Nat → Option (Char × Bool) → List Char → List Char → List Char →
    Except String (List Char × List Char)
  | 0, _, _, acc, cs => .ok (acc.reverse, cs)
  | fuel + 1, quote, stack, acc, cs =>
    match cs with
    | [] =>
      match quote, stack with
      | some _, _ => .error "f-string: unterminated string"
      | none, o :: _ => .error ("f-string: unmatched '" ++ o.toString ++ "'")
      | none, [] => .ok (acc.reverse, [])
    | c :: rest =>
      if c == '\\' then .error "f-string expression part cannot include a backslash"
      else
        match quote with
        | some (q, triple) =>
          if c == q then
            if triple then
              match rest with
              | a :: b :: more =>
                if a == q && b == q then fieldExpression fuel none stack (b :: a :: c :: acc) more
                else fieldExpression fuel quote stack (c :: acc) rest
              | _ => fieldExpression fuel quote stack (c :: acc) rest
            else fieldExpression fuel none stack (c :: acc) rest
          else fieldExpression fuel quote stack (c :: acc) rest
        | none =>
          if c == '\'' || c == '"' then
            match rest with
            | a :: b :: more =>
              if a == c && b == c then fieldExpression fuel (some (c, true)) stack (b :: a :: c :: acc) more
              else fieldExpression fuel (some (c, false)) stack (c :: acc) rest
            | _ => fieldExpression fuel (some (c, false)) stack (c :: acc) rest
          else if c == '[' || c == '{' || c == '(' then
            if stack.length ≥ 200 then .error "f-string: too many nested parenthesis"
            else fieldExpression fuel none (c :: stack) (c :: acc) rest
          else if c == '#' then .error "f-string expression part cannot include '#'"
          else if stack.isEmpty && (c == '!' || c == ':' || c == '}' || c == '=' || c == '>' || c == '<') then
            match rest with
            | '=' :: more =>
              if c == '!' || c == '=' || c == '<' || c == '>' then
                fieldExpression fuel none stack ('=' :: c :: acc) more
              else .ok (acc.reverse, cs)
            | _ =>
              if c == '>' || c == '<' then fieldExpression fuel none stack (c :: acc) rest
              else .ok (acc.reverse, cs)
          else if c == ']' || c == '}' || c == ')' then
            match stack with
            | [] => .error ("f-string: unmatched '" ++ c.toString ++ "'")
            | o :: below =>
              if o == openingOf c then fieldExpression fuel none below (c :: acc) rest
              else .error ("f-string: closing parenthesis '" ++ c.toString ++
                "' does not match opening parenthesis '" ++ o.toString ++ "'")
          else fieldExpression fuel none stack (c :: acc) rest

/-- Why string tokens are refused: their own fault, or a field expression's syntax error. -/
inductive StringFault where
  | own (message : String)
  | field (message : String)
  deriving Repr, BEq

/-- A scanning step whose faults are the strings' own. -/
def ownStep {α : Type} (r : Except String α) : Except StringFault α := r.mapError .own

mutual

/-- Scans a formatted string's fields at a nesting level, parsing each with `compile`. -/
def scanFormatted (compile : String → Option String) (raw : Bool) : Nat → Nat → List Char →
    Except StringFault (List Char)
  | 0, _, cs => .ok cs
  | fuel + 1, level, cs => do
    let (literal, rest, doubled) ← ownStep (fieldLiteral raw level (cs.length + 1) [] cs)
    if !raw then
      match textEscapeFault literal with
      | some f => throw (.own f)
      | none => pure ()
    if doubled then scanFormatted compile raw fuel level rest
    else
      match rest with
      | '{' :: _ => do
        let rest ← scanField compile raw fuel level rest
        scanFormatted compile raw fuel level rest
      | _ =>
        if level != 0 && rest.head? != some '}' then throw (.own "f-string: expecting '\x7d'")
        else pure rest

/-- Scans one field from its `{`: the rest after its `}`. -/
def scanField (compile : String → Option String) (raw : Bool) : Nat → Nat → List Char →
    Except StringFault (List Char)
  | 0, _, cs => .ok cs
  | fuel + 1, level, cs => do
    if level ≥ 2 then throw (.own "f-string: expressions nested too deeply")
    let (expr, rest) ← ownStep (fieldExpression (cs.length + 1) none [] [] (cs.drop 1))
    if rest.isEmpty then throw (.own "f-string: expecting '\x7d'")
    if expr.all isFieldBlank then
      match rest with
      | c :: _ =>
        if c == '!' || c == ':' || c == '=' then
          throw (.own ("f-string: expression required before '" ++ c.toString ++ "'"))
        else throw (.own "f-string: empty expression not allowed")
      | [] => throw (.own "f-string: empty expression not allowed")
    match compile ("(" ++ String.ofList expr ++ ")") with
    | some f => throw (.field f)
    | none => pure ()
    let rest ← match rest with
      | '=' :: more =>
        let more := more.dropWhile isAsciiSpace
        if more.isEmpty then throw (.own "f-string: expecting '\x7d'") else pure more
      | _ => pure rest
    let rest ← match rest with
      | '!' :: more =>
        match more with
        | c :: after =>
          if c == 's' || c == 'r' || c == 'a' then pure after
          else throw (.own "f-string: invalid conversion character: expected 's', 'r', or 'a'")
        | [] => throw (.own "f-string: expecting '\x7d'")
      | _ => pure rest
    let rest ← match rest with
      | ':' :: more =>
        if more.isEmpty then throw (.own "f-string: expecting '\x7d'")
        else scanFormatted compile raw fuel (level + 1) more
      | _ => pure rest
    match rest with
    | '}' :: after => pure after
    | _ => throw (.own "f-string: expecting '\x7d'")

end

/-- One string token's fault: non-ASCII bytes or an undecodable escape. -/
def pieceFault (p : StringPiece) : Option String :=
  if p.formatted then none
  else if p.bytes then
    if p.body.any (·.toNat ≥ 128) then some "bytes can only contain ASCII literal characters"
    else if p.raw then none
    else bytesEscapeFault 0 p.body
  else if p.raw then none
  else textEscapeFault p.body

/-- The first fault of adjacent string tokens: each one's, then mixed bytes and text, then
formatted fields. -/
def piecesFault (compile : String → Option String) : Option Bool → List StringPiece →
    Option StringFault
  | _, [] => none
  | first, p :: rest =>
    match pieceFault p with
    | some f => some (.own f)
    | none =>
      if first.any (· != p.bytes) then some (.own "cannot mix bytes and nonbytes literals")
      else if p.formatted then
        match scanFormatted compile p.raw (p.body.length + 2) 0 p.body with
        | .error f => some f
        | .ok _ => piecesFault compile (some p.bytes) rest
      else piecesFault compile (some p.bytes) rest

/-- The first fault of a run of adjacent string tokens. -/
def stringsFault (compile : String → Option String) (texts : List String) : Option StringFault :=
  piecesFault compile none (texts.map readStringPiece)

/-- The constant a run of adjacent string tokens makes, when they have no fault: bytes, text, or
a formatted string. -/
def stringsNode (texts : List String) : Node :=
  let pieces := texts.map readStringPiece
  if pieces.any (·.formatted) then .joinedStr
  else if pieces.any (·.bytes) then .constant .bytes
  else .constant .text

end PackageRegistry.Console
