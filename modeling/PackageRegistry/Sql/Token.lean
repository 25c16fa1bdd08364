/-!
# SQL tokens

Words, quoted identifiers, strings with doubled quotes, numbers (decimal or `0x`), blobs
`X'..'`, variables (`?`, `?NNN`, `:name`, `@name`, `$name`, `#name`) and operators, separated by
blanks and comments. Text forming no token fails with `unrecognized token: "…"`.
-/

namespace PackageRegistry.Sql

/-- The kinds of token. -/
inductive TokenKind where
  /-- A keyword or plain identifier. -/
  | word
  /-- A quoted identifier; `doubleQuoted` for `"…"`, which may also stand for a string. -/
  | quotedName (name : String) (doubleQuoted : Bool)
  | string (s : String)
  /-- An integer literal, digits only, or hexadecimal with `0x`. -/
  | integer (digits : String)
  | float (text : String)
  | blob (hex : String)
  /-- A bound variable, by its name without the leading sign (`?` has an empty name). -/
  | variable (name : String)
  /-- A bound variable with the number of the value it takes. -/
  | numbered (index : Nat)
  | symbol
  | semicolon
  | illegal
  deriving Repr, BEq, DecidableEq

/-- A token and its text as written. -/
structure Token where
  kind : TokenKind
  text : String
  deriving Repr, BEq, DecidableEq

/-- Whether a word token is the keyword `k` (keywords are case-insensitive). -/
def Token.isKeyword (t : Token) (k : String) : Bool :=
  t.kind == .word && t.text.toUpper == k

/-- Whether a token is the operator or punctuation `s`. -/
def Token.isSymbol (t : Token) (s : String) : Bool :=
  t.kind == .symbol && t.text == s

/-- Blanks that start a run of blanks between tokens. -/
def isTokenSpace (c : Char) : Bool :=
  c == ' ' || c == '\t' || c == '\n' || c == '\x0c' || c == '\r'

/-- Blanks that continue a run: those that start one, and the vertical tab. -/
def isRunSpace (c : Char) : Bool := isTokenSpace c || c == '\x0b'

/-- Characters of identifiers: ASCII letters and digits, `_`, `$`, and every non-ASCII
character. -/
def isIdentChar (c : Char) : Bool :=
  c.isAlphanum || c == '_' || c == '$' || c.toNat ≥ 0x80

/-- Hexadecimal digits. -/
def isHexChar (c : Char) : Bool :=
  c.isDigit || ('a' ≤ c && c ≤ 'f') || ('A' ≤ c && c ≤ 'F')

/-- A quoted token's body after its opening quote, a doubled quote standing for itself; none when
not closed. -/
def quotedBody (q : Char) : List Char → Option (List Char × List Char)
  | [] => none
  | c :: rest =>
    if c == q then
      match rest with
      | d :: more => if d == q then (quotedBody q more).map fun r => (q :: r.1, r.2)
                     else some ([], rest)
      | [] => some ([], [])
    else (quotedBody q rest).map fun r => (c :: r.1, r.2)

/-- A run of decimal digits and what follows it. -/
def digitRunTail (cs : List Char) : List Char × List Char := cs.span Char.isDigit

/-- Marks a number illegal when identifier characters run into it. -/
def finishNumber (k : TokenKind) (rest : List Char) : TokenKind × List Char :=
  if rest.head?.map isIdentChar |>.getD false then (.illegal, rest.dropWhile isIdentChar)
  else (k, rest)

/-- A decimal number token: digits, an optional fraction and an optional exponent. -/
def decimalToken (cs : List Char) : TokenKind × List Char :=
  let (ints, rest) := digitRunTail cs
  let (frac, rest, isFloat) := match rest with
    | '.' :: more => let (f, r) := digitRunTail more; (f, r, true)
    | _ => ([], rest, false)
  let (exp, rest, hasExp) := match rest with
    | e :: more =>
      if e == 'e' || e == 'E' then
        let (sign, body) := match more with
          | '+' :: b => (['+'], b)
          | '-' :: b => (['-'], b)
          | _ => ([], more)
        let (ds, r) := digitRunTail body
        if ds.isEmpty then ([], rest, false) else (e :: sign ++ ds, r, true)
      else ([], rest, false)
    | [] => ([], [], false)
  if isFloat || hasExp then
    finishNumber (.float (String.ofList (ints ++ (if isFloat then '.' :: frac else []) ++ exp))) rest
  else finishNumber (.integer (String.ofList ints)) rest

/-- A number token from its first character on: the kind and what follows. -/
def numberToken (cs : List Char) : TokenKind × List Char :=
  match cs with
  | '0' :: x :: h :: rest =>
    if (x == 'x' || x == 'X') && isHexChar h then
      (.integer (String.ofList ['0', x, h] ++ String.ofList (rest.takeWhile isHexChar)),
        rest.dropWhile isHexChar)
    else decimalToken cs
  | _ => decimalToken cs

/-- A variable's name after its sign: identifier characters, `::` inside, and a parenthesized
suffix; whether well formed; the rest. -/
def variableName : Nat → List Char → List Char × Bool × List Char
  | 0, cs => ([], true, cs)
  | fuel + 1, cs =>
    match cs with
    | c :: rest =>
      if isIdentChar c then
        let (n, ok, after) := variableName fuel rest
        (c :: n, ok, after)
      else if c == ':' && rest.head? == some ':' then
        let (n, ok, after) := variableName fuel (rest.drop 1)
        (':' :: ':' :: n, ok, after)
      else ([], true, cs)
    | [] => ([], true, [])

/-- A variable after its sign: its text, whether well formed, and what follows. -/
def variableToken (rest : List Char) : List Char × Bool × List Char :=
  let (name, _, after) := variableName rest.length rest
  match after with
  | '(' :: more =>
    if name.isEmpty then (name, false, after)
    else
      let body := more.takeWhile fun c => !isRunSpace c && c != ')'
      let tail := more.drop body.length
      match tail with
      | ')' :: after => (name ++ '(' :: body ++ [')'], true, after)
      | _ => (name ++ '(' :: body, false, tail)
  | _ => (name, !name.isEmpty, after)

/-- Skips a block comment after its opening `/*`: to the closing `*/` or the end. -/
def skipBlockComment : List Char → List Char
  | '*' :: '/' :: rest => rest
  | _ :: rest => skipBlockComment rest
  | [] => []

/-- The two-character operators. -/
def twoCharSymbols : List String := ["==", "<=", "<>", "<<", ">=", ">>", "!=", "||", "->"]

/-- The one-character operators and punctuation. -/
def oneCharSymbols : List Char :=
  ['(', ')', '+', '-', '*', '/', '%', '=', '<', '>', ',', '&', '|', '~', '.']

/-- The text consumed between two suffixes of a text. -/
def consumed (cs rest : List Char) : String := String.ofList (cs.take (cs.length - rest.length))

/-- The next token, after blanks and comments, with what follows it; none at the end. -/
def nextToken : Nat → List Char → Option (Token × List Char)
  | 0, _ => none
  | fuel + 1, cs =>
    match cs with
    | [] => none
    | c :: rest =>
      if isTokenSpace c then nextToken fuel (rest.dropWhile isRunSpace)
      else match cs with
      | '-' :: '-' :: more => nextToken fuel (more.dropWhile (· != '\n'))
      | '/' :: '*' :: more => nextToken fuel (skipBlockComment more)
      | '-' :: '>' :: '>' :: more => some (⟨.symbol, "->>"⟩, more)
      | ';' :: more => some (⟨.semicolon, ";"⟩, more)
      | '\'' :: more =>
        match quotedBody '\'' more with
        | some (body, after) => some (⟨.string (String.ofList body), consumed cs after⟩, after)
        | none => some (⟨.illegal, String.ofList cs⟩, [])
      | '"' :: more =>
        match quotedBody '"' more with
        | some (body, after) =>
          some (⟨.quotedName (String.ofList body) true, consumed cs after⟩, after)
        | none => some (⟨.illegal, String.ofList cs⟩, [])
      | '`' :: more =>
        match quotedBody '`' more with
        | some (body, after) =>
          some (⟨.quotedName (String.ofList body) false, consumed cs after⟩, after)
        | none => some (⟨.illegal, String.ofList cs⟩, [])
      | '[' :: more =>
        match more.span (· != ']') with
        | (body, ']' :: after) =>
          some (⟨.quotedName (String.ofList body) false, consumed cs after⟩, after)
        | _ => some (⟨.illegal, String.ofList cs⟩, [])
      | '?' :: more =>
        let ds := more.takeWhile Char.isDigit
        let after := more.dropWhile Char.isDigit
        some (⟨.variable (String.ofList ds), consumed cs after⟩, after)
      | 'x' :: '\'' :: more | 'X' :: '\'' :: more =>
        let digits := more.takeWhile isHexChar
        match more.drop digits.length with
        | '\'' :: after =>
          if digits.length % 2 == 0 then some (⟨.blob (String.ofList digits), consumed cs after⟩, after)
          else some (⟨.illegal, consumed cs after⟩, after)
        | other =>
          let skipped := other.takeWhile (· != '\'')
          let after := (other.drop skipped.length).drop 1
          some (⟨.illegal, consumed cs after⟩, after)
      | _ =>
        if c == ':' || c == '@' || c == '$' || c == '#' then
          let (name, ok, after) := variableToken rest
          if ok then some (⟨.variable (String.ofList name), consumed cs after⟩, after)
          else some (⟨.illegal, consumed cs after⟩, after)
        else if c.isDigit || (c == '.' && (rest.head?.map Char.isDigit |>.getD false)) then
          let (kind, after) := numberToken cs
          some (⟨kind, consumed cs after⟩, after)
        else if isIdentChar c then
          let (w, after) := cs.span isIdentChar
          some (⟨.word, String.ofList w⟩, after)
        else
          match rest with
          | d :: after =>
            if twoCharSymbols.contains (String.ofList [c, d]) then
              some (⟨.symbol, String.ofList [c, d]⟩, after)
            else if oneCharSymbols.contains c then some (⟨.symbol, c.toString⟩, rest)
            else some (⟨.illegal, c.toString⟩, rest)
          | [] =>
            if oneCharSymbols.contains c then some (⟨.symbol, c.toString⟩, rest)
            else some (⟨.illegal, c.toString⟩, rest)

/-- The tokens of a text. One unit of fuel per character is enough. -/
def tokensFrom : Nat → List Char → List Token
  | 0, _ => []
  | fuel + 1, cs =>
    match nextToken (cs.length + 1) cs with
    | some (t, rest) => t :: tokensFrom fuel rest
    | none => []

/-- The tokens of a text. -/
def tokenize (s : String) : List Token :=
  tokensFrom (s.length + 1) s.toList

/-! ## Variable numbers -/

/-- The largest number a variable may have. -/
def maxVariableNumber : Nat := 32766

/-- Numbers a token list's variables in order: `?` the next number, `?NNN` the number `NNN`, a
named one its first appearance's number or the next. A `?NNN` outside `1`..`32766` is refused. -/
def numberVariables (count : Nat) (named : List (String × Nat)) : List Token → List Token
  | [] => []
  | t :: ts =>
    match t.kind with
    | .variable n =>
      if t.text == "?" then
        ⟨.numbered (count + 1), t.text⟩ :: numberVariables (count + 1) named ts
      else if t.text.startsWith "?" then
        match n.toNat? with
        | some k =>
          if 1 ≤ k && k ≤ maxVariableNumber then
            ⟨.numbered k, t.text⟩ :: numberVariables (max count k) named ts
          else t :: numberVariables count named ts
        | none => t :: numberVariables count named ts
      else
        match named.lookup t.text with
        | some k => ⟨.numbered k, t.text⟩ :: numberVariables count named ts
        | none =>
          ⟨.numbered (count + 1), t.text⟩ ::
            numberVariables (count + 1) ((t.text, count + 1) :: named) ts
    | _ => t :: numberVariables count named ts

/-- The number of values a token list takes: the largest variable number. -/
def variableCount (ts : List Token) : Nat :=
  ts.foldl (fun m t => match t.kind with
    | .numbered k => max m k
    | _ => m) 0

end PackageRegistry.Sql
