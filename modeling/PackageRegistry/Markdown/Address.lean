import PackageRegistry.Text.Blank
import PackageRegistry.Text.Punycode
/-!
# The address an autolink shows

An autolink shows its address read as a URL and written back. For `http:`, `https:` and
`mailto:` (or no scheme), host labels starting with `xn--` are decoded from Punycode, the host
shown as written if one fails.
-/

namespace PackageRegistry.Markdown

open PackageRegistry.Text

/-- An address read as a URL: scheme, whether `//` followed, credentials, host, port, and the
rest. -/
structure Address where
  scheme : List Char := []
  slashes : Bool := false
  credentials : Option (List Char) := none
  host : Option (List Char) := none
  port : List Char := []
  rest : List Char := []

/-- Whether a character may stand in a scheme. -/
def isSchemeChar (c : Char) : Bool :=
  c.isAlphanum && c.toNat < 0x80 || c == '.' || c == '+' || c == '-'

/-- The scheme at the start of an address, with its colon, and what follows it. -/
def schemePrefix? (cs : List Char) : Option (List Char × List Char) :=
  let run := cs.takeWhile isSchemeChar
  match cs.drop run.length with
  | ':' :: rest => if run.isEmpty then none else some (run ++ [':'], rest)
  | _ => none

def endsHost (c : Char) : Bool :=
  "%/?;#'{}|\\^`<>\" \r\n\t".toList.contains c

/-- Whether a character may stand in a part of a host name. -/
def isHostPartChar (c : Char) : Bool :=
  (c.isAlphanum && c.toNat < 0x80) || c == '+' || c == '-' || c == '_'

/-- Whether a host part is well formed: at most 63 host characters, non-ASCII counting. -/
def isHostPart (part : List Char) : Bool :=
  part.length ≤ 63 && part.all fun c => isHostPartChar c || c.toNat > 127

/-- The host kept from its parts and what goes back before the rest: parts up to the first
malformed, its leading host run (at most 63), the rest. -/
def checkHostParts (kept : List (List Char)) : List (List Char) → List Char × List Char
  | [] => (".".toList.intercalate kept.reverse, [])
  | part :: more =>
    if part.isEmpty || isHostPart part then checkHostParts (part :: kept) more
    else
      let lead := (part.takeWhile isHostPartChar).take 63
      let back := part.drop lead.length
      (".".toList.intercalate (lead :: kept).reverse, ".".toList.intercalate (back :: more))

/-- The index of the last `@` among the first `limit` characters. -/
def lastAt (cs : List Char) (limit : Nat) : Option Nat :=
  ((cs.take limit).zipIdx.filter (·.1 == '@')).getLast?.map (·.2)

/-- An address after its scheme and `//` with the host read off it. -/
def Address.readHost (a : Address) (cs : List Char) : Address :=
  let ending := cs.findIdx? fun c => c == '/' || c == '?' || c == '#'
  let at? := match ending with
    | some e => lastAt cs (e + 1)
    | none => lastAt cs cs.length
  let (credentials, cs) := match at? with
    | some i => (some (cs.take i), cs.drop (i + 1))
    | none => (none, cs)
  let stop := (cs.findIdx? endsHost).getD cs.length
  let stop := if stop > 0 && cs[stop - 1]? == some ':' then stop - 1 else stop
  let hostText := cs.take stop
  let after := cs.drop stop
  let digits := (hostText.reverse.takeWhile Char.isDigit).reverse
  let beforeDigits := hostText.take (hostText.length - digits.length)
  let (name, port) :=
    if beforeDigits.getLast? == some ':' then (beforeDigits.dropLast, digits) else (hostText, [])
  let bracketed := name.head? == some '[' && name.getLast? == some ']'
  let (name, back) := if bracketed then (name, []) else checkHostParts [] (name.splitOn '.')
  let name := if name.length > 255 then [] else name
  let name := if bracketed then (name.drop 1).dropLast else name
  { a with credentials, host := some name, port, rest := back ++ after }

def readAddress (url : List Char) : Address :=
  let cs := trimBlanks url
  let (scheme, cs) := (schemePrefix? cs).getD ([], cs)
  let lower := String.ofList (scheme.map Char.toLower)
  let hostless := lower == "javascript:"
  let slashed := ["http:", "https:", "ftp:", "gopher:", "file:"].contains (String.ofList scheme)
  let slashes := cs.take 2 == ['/', '/']
  let a : Address := { scheme }
  let (a, cs) := if slashes && !hostless then ({ a with slashes := true }, cs.drop 2) else (a, cs)
  if !hostless && (slashes || (!scheme.isEmpty && !slashed)) then a.readHost cs
  else { a with rest := cs }

/-- An address written back. -/
def Address.write (a : Address) : List Char :=
  let host := a.host.getD []
  a.scheme ++ (if a.slashes then ['/', '/'] else []) ++
    (match a.credentials with
      | some c => if c.isEmpty then [] else c ++ ['@']
      | none => []) ++
    (if host.contains ':' then '[' :: host ++ [']'] else host) ++
    (if a.port.isEmpty then [] else ':' :: a.port) ++ a.rest

/-- Whether a character separates the labels of a host name. -/
def isLabelSeparator (c : Char) : Bool :=
  c == '.' || c == '。' || c == '．' || c == '｡'

/-- A host label in Unicode: decoded from Punycode after `xn--`; none when it does not decode. -/
def unicodeLabel? (label : List Char) : Option (List Char) :=
  if label.take 4 == "xn--".toList then
    punycodeDecode? ((label.drop 4).map fun c => if c.toNat < 0x80 then c.toLower else c)
  else some label

/-- A host name shown in Unicode, if each of its labels is. -/
def unicodeHost? (host : List Char) : Option (List Char) := do
  let labels ← (host.splitOnP isLabelSeparator).mapM unicodeLabel?
  return ".".toList.intercalate labels

/-- The address an autolink shows, read as a URL and written back, a web or mail host in
Unicode. -/
def shownAddress (url : List Char) : List Char :=
  let a := readAddress url
  let recoded :=
    match a.host with
    | some h =>
      if !h.isEmpty && (a.scheme.isEmpty ||
          ["http:", "https:", "mailto:"].contains (String.ofList a.scheme)) then
        match unicodeHost? h with
        | some u => { a with host := some u }
        | none => a
      else a
    | none => a
  recoded.write

end PackageRegistry.Markdown
