import PackageRegistry.Text.Identifier
import PackageRegistry.Text.Printable
/-!
# Tokens of literal parameters

The parameters of a meta tag (`[@click=...]`) split into tokens as Python 3.11's tokenizer does.
Some faults are reported wherever they stand, others only when the parser asks for the token.
-/

namespace PackageRegistry.Console

open PackageRegistry.Text

/-- What a token of a literal is. A string keeps its whole text, prefix and quotes included. -/
inductive TokenKind where
  | name (text : String)
  | number (text : String)
  | string (text : String)
  | op (text : String)
  | newline
  | indent
  | dedent
  | endmarker
  deriving Repr, BEq, Inhabited

/-- A token with the number of brackets open after it and the line it is on. -/
structure LitToken where
  kind : TokenKind
  level : Nat
  line : Nat
  deriving Repr, Inhabited

/-- Why the tokens stop before the end marker. -/
inductive TokenFault where
  /-- A fault reported wherever it stands. -/
  | raised (message : String)
  /-- A fault reported only when the parser asks for its token, with the innermost bracket still
  open and its line. -/
  | silent (message : String) (openBracket : Option (Char × Nat))
  deriving Repr, BEq, Inhabited

/-- A literal's tokens up to the end marker or a fault, with warnings and their lines, in
order. -/
structure TokenStream where
  tokens : Array LitToken
  fault : Option TokenFault
  warnings : List (Nat × String) := []
  deriving Repr, Inhabited

/-! ## Characters -/

/-- Whether a character is an ASCII decimal digit. -/
def isDigitChar (c : Char) : Bool := '0' ≤ c && c ≤ '9'

/-- Whether a character is an ASCII hexadecimal digit. -/
def isHexChar (c : Char) : Bool :=
  isDigitChar c || ('a' ≤ c && c ≤ 'f') || ('A' ≤ c && c ≤ 'F')

def isAsciiLetter (c : Char) : Bool := ('a' ≤ c && c ≤ 'z') || ('A' ≤ c && c ≤ 'Z')

/-- Whether a character may start a name or a string prefix. -/
def startsName (c : Char) : Bool := isAsciiLetter c || c == '_' || c.toNat ≥ 128

/-- Whether a character may continue a name. -/
def continuesName (c : Char) : Bool := startsName c || isDigitChar c

/-- Whether a character ends a number badly when it follows it directly: an ASCII letter, digit
or `_`. -/
def stopsNumber (c : Char) : Bool := c.toNat < 128 && continuesName c

/-- Uppercase hexadecimal digits of a code point, at least four. -/
def upperHex4 (n : Nat) : String :=
  let digits := (Nat.toDigits 16 n).map Char.toUpper
  String.ofList (List.replicate (4 - digits.length) '0' ++ digits)

/-- The fault of a character that may not stand in a name or between tokens. -/
def badCharacter (c : Char) : TokenFault :=
  if isPrintable c then .raised ("invalid character '" ++ c.toString ++ "' (U+" ++ upperHex4 c.toNat ++ ")")
  else .raised ("invalid non-printable character U+" ++ upperHex4 c.toNat)

/-- The first character of a name that keeps it from being an identifier. -/
def firstNonIdentifier : Bool → List Char → Option Char
  | _, [] => none
  | first, c :: rest =>
    let ok := if first then c == '_' || isIdentifierStart c.toNat else isIdentifierPart c.toNat
    if ok then firstNonIdentifier false rest else some c

/-- A carriage return, alone or before a line feed, read as a line feed. -/
def joinReturns : List Char → List Char
  | '\r' :: '\n' :: rest => '\n' :: joinReturns rest
  | '\r' :: rest => '\n' :: joinReturns rest
  | c :: rest => c :: joinReturns rest
  | [] => []

/-! ## Numbers -/

/-- Whether the text starts with `word` followed by a character that cannot continue a name. -/
def startsWord (word : List Char) (cs : List Char) : Bool :=
  match cs.drop word.length with
  | c :: _ => cs.take word.length == word && !continuesName c
  | [] => cs.take word.length == word

/-- Whether a number may end here: not a letter, digit or `_`, or a word that may follow a
number. -/
def endsNumber (cs : List Char) : Bool :=
  match cs with
  | 'a' :: rest => startsWord ['n', 'd'] rest
  | 'e' :: rest => startsWord ['l', 's', 'e'] rest
  | 'f' :: rest => startsWord ['o', 'r'] rest
  | 'i' :: c :: _ => c == 'f' || c == 'n' || c == 's'
  | 'o' :: rest => startsWord ['r'] rest
  | 'n' :: rest => startsWord ['o', 't'] rest
  | c :: _ => !stopsNumber c
  | [] => true

/-- Decimal digits with single `_` between, after a first digit; none when `_` lacks a digit. -/
def decimalTail : Nat → List Char → Option (List Char × List Char)
  | 0, cs => some ([], cs)
  | fuel + 1, cs =>
    match cs with
    | c :: rest =>
      if isDigitChar c then (decimalTail fuel rest).map fun (ds, r) => (c :: ds, r)
      else if c == '_' then
        match rest with
        | d :: more =>
          if isDigitChar d then (decimalTail fuel more).map fun (ds, r) => ('_' :: d :: ds, r)
          else none
        | [] => none
      else some ([], cs)
    | [] => some ([], [])

/-- Digits of a kind with single `_` before groups, after the base letter; else where a group
should start. -/
def radixDigits (isDigit : Char → Bool) : Nat → Bool → List Char → Except (List Char) (List Char × List Char)
  | 0, _, cs => .ok ([], cs)
  | fuel + 1, first, cs =>
    let (lead, afterLead) := match cs with
      | '_' :: rest => (['_'], rest)
      | _ => ([], cs)
    match afterLead with
    | c :: _ =>
      if isDigit c then
        let ds := afterLead.takeWhile isDigit
        let rest := afterLead.drop ds.length
        match rest with
        | '_' :: _ => (radixDigits isDigit fuel false rest).map fun (more, r) => (lead ++ ds ++ more, r)
        | _ => .ok (lead ++ ds, rest)
      else if first || !lead.isEmpty then .error afterLead
      else .ok ([], cs)
    | [] => if first || !lead.isEmpty then .error [] else .ok ([], cs)

def numberFault (kind : String) : TokenFault := .raised ("invalid " ++ kind ++ " literal")

/-- A number's rest after its integer part: fraction, exponent, imaginary mark; `afterPoint`
just after `.`. -/
def numberEnd (acc : List Char) (cs : List Char) (sawPoint : Bool) :
    Except TokenFault (List Char × List Char) :=
  let fraction : Except TokenFault (List Char × List Char) :=
    if sawPoint then
      match cs with
      | c :: _ =>
        if isDigitChar c then
          match decimalTail (cs.length + 1) cs with
          | some (ds, r) => .ok (acc ++ ds, r)
          | none => .error (numberFault "decimal")
        else .ok (acc, cs)
      | [] => .ok (acc, cs)
    else .ok (acc, cs)
  match fraction with
  | .error f => .error f
  | .ok (acc, cs) =>
    let exponent : Except TokenFault (List Char × List Char × Bool) :=
      match cs with
      | e :: rest =>
        if e == 'e' || e == 'E' then
          match rest with
          | s :: more =>
            if s == '+' || s == '-' then
              match more with
              | d :: _ =>
                if isDigitChar d then
                  match decimalTail (more.length + 1) more with
                  | some (ds, r) => .ok (acc ++ [e, s] ++ ds, r, true)
                  | none => .error (numberFault "decimal")
                else .error (numberFault "decimal")
              | [] => .error (numberFault "decimal")
            else if isDigitChar s then
              match decimalTail (rest.length + 1) rest with
              | some (ds, r) => .ok (acc ++ [e] ++ ds, r, true)
              | none => .error (numberFault "decimal")
            else if endsNumber cs then .ok (acc, cs, false)
            else .error (numberFault "decimal")
          | [] => if endsNumber cs then .ok (acc, cs, false) else .error (numberFault "decimal")
        else .ok (acc, cs, true)
      | [] => .ok (acc, cs, true)
    match exponent with
    | .error f => .error f
    | .ok (acc, cs, false) => .ok (acc, cs)
    | .ok (acc, cs, true) =>
      match cs with
      | j :: rest =>
        if j == 'j' || j == 'J' then
          if endsNumber rest then .ok (acc ++ [j], rest) else .error (numberFault "imaginary")
        else if endsNumber cs then .ok (acc, cs) else .error (numberFault "decimal")
      | [] => .ok (acc, cs)

/-- A number from its first digit: its text and the rest. -/
def scanNumber (cs : List Char) : Except TokenFault (List Char × List Char) :=
  match cs with
  | '0' :: b :: rest =>
    if b == 'x' || b == 'X' then
      match radixDigits isHexChar (rest.length + 1) true rest with
      | .error _ => .error (numberFault "hexadecimal")
      | .ok (ds, r) => if endsNumber r then .ok (['0', b] ++ ds, r) else .error (numberFault "hexadecimal")
    else if b == 'o' || b == 'O' then
      match radixDigits (fun c => '0' ≤ c && c ≤ '7') (rest.length + 1) true rest with
      | .error (d :: _) =>
        if isDigitChar d then .error (.raised ("invalid digit '" ++ d.toString ++ "' in octal literal"))
        else .error (numberFault "octal")
      | .error [] => .error (numberFault "octal")
      | .ok (ds, r) =>
        match r with
        | d :: _ =>
          if isDigitChar d then .error (.raised ("invalid digit '" ++ d.toString ++ "' in octal literal"))
          else if endsNumber r then .ok (['0', b] ++ ds, r) else .error (numberFault "octal")
        | [] => .ok (['0', b] ++ ds, r)
    else if b == 'b' || b == 'B' then
      match radixDigits (fun c => c == '0' || c == '1') (rest.length + 1) true rest with
      | .error (d :: _) =>
        if isDigitChar d then .error (.raised ("invalid digit '" ++ d.toString ++ "' in binary literal"))
        else .error (numberFault "binary")
      | .error [] => .error (numberFault "binary")
      | .ok (ds, r) =>
        match r with
        | d :: _ =>
          if isDigitChar d then .error (.raised ("invalid digit '" ++ d.toString ++ "' in binary literal"))
          else if endsNumber r then .ok (['0', b] ++ ds, r) else .error (numberFault "binary")
        | [] => .ok (['0', b] ++ ds, r)
    else zeroNumber cs
  | '0' :: _ => zeroNumber cs
  | _ =>
    match decimalTail (cs.length + 1) cs with
    | none => .error (numberFault "decimal")
    | some (ds, r) =>
      match r with
      | '.' :: after => numberEnd (ds ++ ['.']) after true
      | _ => numberEnd ds r false
where
  /-- A decimal number starting with `0`: zeros, then other digits only before a point, an
  exponent or an imaginary mark. -/
  zeroNumber (cs : List Char) : Except TokenFault (List Char × List Char) :=
    match zeros (cs.length + 1) cs with
    | none => .error (numberFault "decimal")
    | some (zs, r) =>
      match r with
      | d :: _ =>
        if isDigitChar d then
          match decimalTail (r.length + 1) r with
          | none => .error (numberFault "decimal")
          | some (ds, r2) => afterZeros (zs ++ ds) r2 true
        else afterZeros zs r false
      | [] => afterZeros zs [] false
  /-- What follows the zeros (and other digits, when `nonzero`) of a number starting with `0`. -/
  afterZeros (acc r : List Char) (nonzero : Bool) : Except TokenFault (List Char × List Char) :=
    match r with
    | '.' :: after => numberEnd (acc ++ ['.']) after true
    | e :: _ =>
      if e == 'e' || e == 'E' || e == 'j' || e == 'J' then numberEnd acc r false
      else if nonzero then .error leadingZeros
      else if endsNumber r then .ok (acc, r) else .error (numberFault "decimal")
    | [] => if nonzero then .error leadingZeros else .ok (acc, r)
  /-- The fault of an integer with leading zeros. -/
  leadingZeros : TokenFault :=
    .raised "leading zeros in decimal integer literals are not permitted; use an 0o prefix for octal integers"
  /-- Zeros with single `_` before digits, and the rest; none when `_` lacks a digit. -/
  zeros : Nat → List Char → Option (List Char × List Char)
    | 0, cs => some ([], cs)
    | fuel + 1, cs =>
      match cs with
      | '0' :: rest => (zeros fuel rest).map fun (zs, r) => ('0' :: zs, r)
      | '_' :: d :: rest =>
        if d == '0' then (zeros fuel rest).map fun (zs, r) => ('_' :: '0' :: zs, r)
        else if isDigitChar d then some (['_'], d :: rest)
        else none
      | ['_'] => none
      | _ => some ([], cs)

/-! ## Strings -/

/-- Whether a prefix of letters is one a string may have. -/
def isStringPrefix (p : List Char) : Bool :=
  let l := p.map Char.toLower
  l ∈ [[], ['b'], ['r'], ['u'], ['f'], ['b', 'r'], ['r', 'b'], ['f', 'r'], ['r', 'f']]

/-- A string's body up to its closing quotes, or the fault of an open string; `line` counts
lines. -/
def stringBody (quote : Char) (triple : Bool) : Nat → Nat → Nat → List Char →
    Except TokenFault (List Char × List Char × Nat)
  | 0, _, line, _ => .error (unterminated triple line)
  | fuel + 1, closing, line, cs =>
    match cs with
    | [] => .error (unterminated triple line)
    | c :: rest =>
      if c == '\n' && !triple then .error (unterminated triple line)
      else if c == quote then
        if closing + 1 == (if triple then 3 else 1) then .ok ([c], rest, line)
        else (stringBody quote triple fuel (closing + 1) line rest).map fun (b, r, l) => (c :: b, r, l)
      else if c == '\\' then
        match rest with
        | d :: more =>
          (stringBody quote triple fuel 0 (if d == '\n' then line + 1 else line) more).map
            fun (b, r, l) => (c :: d :: b, r, l)
        | [] => .error (unterminated triple line)
      else
        (stringBody quote triple fuel 0 (if c == '\n' then line + 1 else line) rest).map
          fun (b, r, l) => (c :: b, r, l)
where
  /-- The fault of a string still open where `line` was read. -/
  unterminated (triple : Bool) (line : Nat) : TokenFault :=
    .raised ((if triple then "unterminated triple-quoted string literal" else "unterminated string literal") ++
      " (detected at line " ++ toString line ++ ")")

/-- A string from its opening quote, after its prefix: its text from the quote on, the rest and
the line it ends on. -/
def scanString (line : Nat) (cs : List Char) : Except TokenFault (List Char × List Char × Nat) :=
  match cs with
  | q :: q2 :: q3 :: rest =>
    if q2 == q && q3 == q then
      (stringBody q true (rest.length + 1) 0 line rest).map fun (b, r, l) => ([q, q, q] ++ b, r, l)
    else if q2 == q then .ok ([q, q], q3 :: rest, line)
    else (stringBody q false (cs.length + 1) 0 line (q2 :: q3 :: rest)).map fun (b, r, l) => (q :: b, r, l)
  | [q, q2] =>
    if q2 == q then .ok ([q, q], [], line)
    else (stringBody q false 2 0 line [q2]).map fun (b, r, l) => (q :: b, r, l)
  | q :: rest => (stringBody q false (rest.length + 1) 0 line rest).map fun (b, r, l) => (q :: b, r, l)
  | [] => .ok ([], [], line)

/-! ## Operators -/

/-- The operators of two characters. -/
def twoCharOps : List String :=
  ["!=", "%=", "&=", "**", "*=", "+=", "-=", "->", "//", "/=", ":=", "<<", "<=", "<>", "==", ">=",
   ">>", "@=", "^=", "|="]

/-- The operators of three characters. -/
def threeCharOps : List String := ["**=", "//=", "<<=", ">>="]

/-- The operator at the start of a text other than a bracket or a single character: three
characters, else two. -/
def longOperator? (cs : List Char) : Option (List Char) :=
  let three := cs.take 3
  let two := cs.take 2
  if three.length == 3 && threeCharOps.contains (String.ofList three) then some three
  else if two.length == 2 && twoCharOps.contains (String.ofList two) then some two
  else none

/-- The opening bracket a closing one pairs with. -/
def openingOf : Char → Char
  | ')' => '('
  | ']' => '['
  | _ => '{'

/-! ## Tokenizing -/

/-- The tokenizer's place: text left, line, open brackets (innermost first), indentations, at a
line start, line blank. -/
structure Scanner where
  rest : List Char
  line : Nat := 1
  brackets : List (Char × Nat) := []
  indents : List (Nat × Nat) := [(0, 0)]
  atLineStart : Bool := true
  blankLine : Bool := false

def Scanner.endFault (s : Scanner) : TokenFault :=
  match s.brackets with
  | (b, line) :: _ => .silent ("'" ++ b.toString ++ "' was never closed") (some (b, line))
  | [] => .silent "unexpected EOF while parsing" none

/-- The indentation of a line: columns (tabs to multiples of eight) and characters, and the rest. -/
def measureIndent : Nat → Nat → List Char → Nat × Nat × List Char
  | col, alt, ' ' :: rest => measureIndent (col + 1) (alt + 1) rest
  | col, alt, '\t' :: rest => measureIndent ((col / 8 + 1) * 8) (alt + 1) rest
  | _, _, '\x0c' :: rest => measureIndent 0 0 rest
  | col, alt, rest => (col, alt, rest)

/-- One tokenizer step: its tokens and the scanner after, the end marker (none), or a fault. -/
def Scanner.step (s : Scanner) : Except TokenFault (Option (List TokenKind × Scanner)) :=
  if s.atLineStart then
    let (col, alt, rest) := measureIndent 0 0 s.rest
    let blank := match rest with
      | '#' :: _ | '\n' :: _ => true
      | _ => false
    let s := { s with rest := rest, atLineStart := false, blankLine := blank }
    if blank || !s.brackets.isEmpty then .ok (some ([], s))
    else
      match s.indents with
      | (top, topAlt) :: below =>
        if col == top then
          if alt != topAlt then .error tabFault else .ok (some ([], s))
        else if col > top then
          if alt ≤ topAlt then .error tabFault
          else .ok (some ([.indent], { s with indents := (col, alt) :: s.indents }))
        else
          let kept := below.dropWhile fun (c, _) => col < c
          let popped := s.indents.length - kept.length
          match kept with
          | (c, a) :: _ =>
            if col != c then .error (.silent "unindent does not match any outer indentation level" none)
            else if alt != a then .error tabFault
            else .ok (some (List.replicate popped .dedent, { s with indents := kept }))
          | [] => .ok (some ([], s))
      | [] => .ok (some ([], s))
  else
    let rest := s.rest.dropWhile fun c => c == ' ' || c == '\t' || c == '\x0c'
    let rest := match rest with
      | '#' :: _ => rest.dropWhile (· != '\n')
      | _ => rest
    match rest with
    | [] => if s.brackets.isEmpty then .ok none else .error s.endFault
    | c :: more =>
      if startsName c then nameOrString c more
      else if c == '\n' then
        let s' := { s with rest := more, line := s.line + 1, atLineStart := true }
        if s.blankLine || !s.brackets.isEmpty then .ok (some ([], s'))
        else .ok (some ([.newline], s'))
      else if c == '.' then
        match more with
        | d :: _ =>
          if isDigitChar d then number (numberEnd ['.'] more true)
          else if more.take 2 == ['.', '.'] then emit "..." (more.drop 2)
          else emit "." more
        | [] => emit "." more
      else if isDigitChar c then number (scanNumber rest)
      else if c == '\'' || c == '"' then stringToken [] rest
      else if c == '\\' then
        match more with
        | '\n' :: after =>
          match after with
          | [] => .error s.endFault
          | _ => .ok (some ([], { s with rest := after, line := s.line + 1 }))
        | _ => .error (.silent "unexpected character after line continuation character" s.brackets.head?)
      else
        match longOperator? rest with
        | some op => emit (String.ofList op) (rest.drop op.length)
        | none =>
          if c == '(' || c == '[' || c == '{' then
            if s.brackets.length ≥ 200 then .error (.raised "too many nested parentheses")
            else .ok (some ([.op c.toString], { s with rest := more, brackets := (c, s.line) :: s.brackets }))
          else if c == ')' || c == ']' || c == '}' then
            match s.brackets with
            | [] => .error (.raised ("unmatched '" ++ c.toString ++ "'"))
            | (o, line) :: below =>
              if o == openingOf c then
                .ok (some ([.op c.toString], { s with rest := more, brackets := below }))
              else if line != s.line then
                .error (.raised ("closing parenthesis '" ++ c.toString ++ "' does not match opening parenthesis '" ++
                  o.toString ++ "' on line " ++ toString line))
              else
                .error (.raised ("closing parenthesis '" ++ c.toString ++ "' does not match opening parenthesis '" ++
                  o.toString ++ "'"))
          else if c.toNat < 0x20 || c.toNat == 0x7F then
            .error (.raised ("invalid non-printable character U+" ++ upperHex4 c.toNat))
          else emit c.toString more
where
  /-- The fault of indentation mixing tabs and spaces. -/
  tabFault : TokenFault := .silent "inconsistent use of tabs and spaces in indentation" none
  /-- Gives an operator token and goes on after it. -/
  emit (op : String) (after : List Char) : Except TokenFault (Option (List TokenKind × Scanner)) :=
    .ok (some ([.op op], { s with rest := after }))
  /-- Gives a number token. -/
  number (r : Except TokenFault (List Char × List Char)) :
      Except TokenFault (Option (List TokenKind × Scanner)) :=
    match r with
    | .ok (text, after) => .ok (some ([.number (String.ofList text)], { s with rest := after }))
    | .error f => .error f
  /-- Gives a string token with its prefix. -/
  stringToken (pre : List Char) (cs : List Char) : Except TokenFault (Option (List TokenKind × Scanner)) :=
    match scanString s.line cs with
    | .ok (text, after, line) =>
      .ok (some ([.string (String.ofList (pre ++ text))], { s with rest := after, line := line }))
    | .error f => .error f
  /-- A name, or a string when a prefix of letters is followed by a quote. -/
  nameOrString (c : Char) (more : List Char) : Except TokenFault (Option (List TokenKind × Scanner)) :=
    let letters := (c :: more).takeWhile fun x => x == 'b' || x == 'B' || x == 'r' || x == 'R' ||
      x == 'u' || x == 'U' || x == 'f' || x == 'F'
    let afterLetters := (c :: more).drop letters.length
    let quoteNext := match afterLetters with
      | q :: _ => q == '\'' || q == '"'
      | [] => false
    if quoteNext && isStringPrefix letters then stringToken letters afterLetters
    else
      let text := (c :: more).takeWhile continuesName
      let after := (c :: more).drop text.length
      if text.any (·.toNat ≥ 128) then
        match firstNonIdentifier true text with
        | some bad => .error (badCharacter bad)
        | none => .ok (some ([.name (String.ofList text)], { s with rest := after }))
      else .ok (some ([.name (String.ofList text)], { s with rest := after }))

/-- The kind of number a number's text is, as its warning names it. -/
def numberKind (text : String) : String :=
  match text.toList with
  | '0' :: b :: _ =>
    if b == 'x' || b == 'X' then "hexadecimal"
    else if b == 'o' || b == 'O' then "octal"
    else if b == 'b' || b == 'B' then "binary"
    else if text.back == 'j' || text.back == 'J' then "imaginary" else "decimal"
  | _ => if text.back == 'j' || text.back == 'J' then "imaginary" else "decimal"

/-- The warning of a step giving `kinds` before `rest`: a number directly before a letter is an
invalid literal. -/
def numberWarning (kinds : List TokenKind) (rest : List Char) : Option String :=
  match kinds, rest with
  | [.number text], c :: _ => if stopsNumber c then some ("invalid " ++ numberKind text ++ " literal") else none
  | _, _ => none

/-- Tokens from a scanner on into `acc`, with levels; `warned` the warnings, latest first. -/
def tokenizeFrom : Nat → Scanner → Array LitToken → List (Nat × String) → TokenStream
  | 0, _, acc, warned => ⟨acc, some (.raised "input too long"), warned.reverse⟩
  | fuel + 1, s, acc, warned =>
    match s.step with
    | .error f => ⟨acc, some f, warned.reverse⟩
    | .ok none => ⟨acc.push ⟨.endmarker, 0, s.line⟩, none, warned.reverse⟩
    | .ok (some (kinds, s')) =>
      let level := s'.brackets.length
      let warned := match numberWarning kinds s'.rest with
        | some w => (s.line, w) :: warned
        | none => warned
      tokenizeFrom fuel s' (kinds.foldl (fun a k => a.push ⟨k, level, s.line⟩) acc) warned

/-- The tokens of a literal's text. -/
def tokenize (text : String) : TokenStream :=
  let cs := joinReturns text.toList
  tokenizeFrom (3 * cs.length + 8) { rest := cs } #[] []

end PackageRegistry.Console
