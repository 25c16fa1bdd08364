import PackageRegistry.Markdown.Entity
import PackageRegistry.Markdown.Punctuation
/-!
# Characters of Markdown text

Blanks, whitespace and punctuation as emphasis sees them, and character references `&name;`,
`&#digits;` and `&#xhex;`; a numeric one to no character is U+FFFD in running text.
-/

namespace PackageRegistry.Markdown

/-- How many levels of nesting the reader follows; see the blocks and the links for what lies
deeper. -/
def maxNesting : Nat := 20

/-! ## Character classes -/

/-- Blanks within a line: space and tab. -/
def isLineBlank (c : Char) : Bool := c == ' ' || c == '\t'

def isBlankLine (cs : List Char) : Bool := cs.all isLineBlank

/-- ASCII punctuation, the characters a backslash may escape. -/
def isAsciiPunct (c : Char) : Bool :=
  "!\"#$%&'()*+,-./:;<=>?@[\\]^_`\x7b|\x7d~".toList.contains c

/-- Whitespace for emphasis: ASCII blanks, line ends, and the Unicode space separators. -/
def isWhitespace (c : Char) : Bool :=
  let n := c.toNat
  n == 9 || n == 10 || n == 11 || n == 12 || n == 13 || n == 32 || n == 0xA0 || n == 0x1680 ||
    (0x2000 ≤ n && n ≤ 0x200A) || n == 0x202F || n == 0x205F || n == 0x3000

/-- Punctuation for emphasis: ASCII punctuation and every punctuation or symbol character. -/
def isPunctuation (c : Char) : Bool := isAsciiPunct c || isPunctuationOrSymbol c

def isAsciiLetter (c : Char) : Bool := ('a' ≤ c && c ≤ 'z') || ('A' ≤ c && c ≤ 'Z')

/-- ASCII letters and digits. -/
def isAsciiAlnum (c : Char) : Bool := isAsciiLetter c || c.isDigit

/-- ASCII hexadecimal digits. -/
def isHexDigit (c : Char) : Bool :=
  c.isDigit || ('a' ≤ c && c ≤ 'f') || ('A' ≤ c && c ≤ 'F')

/-! ## Character references -/

/-- Whether a code point may be written by a numeric reference. -/
def isReferableCode (n : Nat) : Bool :=
  !(0xD800 ≤ n && n ≤ 0xDFFF) && n ≤ 0x10FFFF && n % 0x10000 != 0xFFFF &&
    n % 0x10000 != 0xFFFE && !(n ≤ 8) && n != 11 && !(14 ≤ n && n ≤ 31) &&
    !(0x7F ≤ n && n ≤ 0x9F) && !(0xFDD0 ≤ n && n ≤ 0xFDEF)

/-- The character a numeric reference stands for. -/
def referencedChar (n : Nat) : String :=
  if isReferableCode n then (Char.ofNat n).toString else "�"

def digitsValue (base : Nat) (ds : List Char) : Nat :=
  ds.foldl (fun acc d =>
    acc * base + (if d.isDigit then d.toNat - '0'.toNat
      else if 'a' ≤ d && d ≤ 'f' then d.toNat - 'a'.toNat + 10 else d.toNat - 'A'.toNat + 10)) 0

/-- A numeric reference's number after `&#` and what follows `;`: one to six hexadecimal digits
after `x` or `X`, or one to seven decimal ones. -/
def numericReference? (cs : List Char) : Option (Nat × List Char) :=
  match cs with
  | x :: rest =>
    if x == 'x' || x == 'X' then
      let ds := rest.takeWhile isHexDigit
      match rest.drop ds.length with
      | ';' :: after =>
        if 1 ≤ ds.length && ds.length ≤ 6 then some (digitsValue 16 ds, after) else none
      | _ => none
    else
      let ds := cs.takeWhile Char.isDigit
      match cs.drop ds.length with
      | ';' :: after =>
        if 1 ≤ ds.length && ds.length ≤ 7 then some (digitsValue 10 ds, after) else none
      | _ => none
  | [] => none

/-- A character reference after `&` and what follows; a numeric one to no character is
U+FFFD. -/
def characterReference? (cs : List Char) : Option (String × List Char) :=
  match cs with
  | '#' :: rest => (numericReference? rest).map fun (n, after) => (referencedChar n, after)
  | c :: rest =>
    if !isAsciiLetter c then none
    else
      let name := (c :: rest).takeWhile isAsciiAlnum
      match (c :: rest).drop name.length with
      | ';' :: after =>
        if 2 ≤ name.length && name.length ≤ 32 then
          (namedEntity? (String.ofList name)).map fun t => (t, after)
        else none
      | _ => none
  | [] => none

/-- A character reference after `&` in a destination, title or fence information, and what
follows; a numeric one to no character stays as written. -/
def writtenReference? (cs : List Char) : Option (String × List Char) :=
  match cs with
  | '#' :: rest =>
    (numericReference? rest).bind fun (n, after) =>
      if isReferableCode n then some ((Char.ofNat n).toString, after) else none
  | _ =>
    let name := cs.takeWhile isAsciiAlnum
    match cs.drop name.length with
    | ';' :: after =>
      if name.isEmpty then none else (namedEntity? (String.ofList name)).map fun t => (t, after)
    | _ => none

/-- Text with backslash escapes and character references replaced by what they stand for. -/
def unescapeFrom : Nat → List Char → List Char
  | 0, cs => cs
  | fuel + 1, cs =>
    match cs with
    | '\\' :: c :: rest =>
      if isAsciiPunct c then c :: unescapeFrom fuel rest else '\\' :: unescapeFrom fuel (c :: rest)
    | '&' :: rest =>
      match writtenReference? rest with
      | some (t, after) => t.toList ++ unescapeFrom fuel after
      | none => '&' :: unescapeFrom fuel rest
    | c :: rest => c :: unescapeFrom fuel rest
    | [] => []

/-- Text with backslash escapes and character references replaced. -/
def unescape (s : String) : String :=
  String.ofList (unescapeFrom (s.length + 1) s.toList)

end PackageRegistry.Markdown
