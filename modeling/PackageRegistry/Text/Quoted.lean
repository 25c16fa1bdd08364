import PackageRegistry.Text.Printable
import PackageRegistry.Text.Surrogate
/-!
# Quoted literals

The literal form of a text in messages: between single quotes, or double quotes when it holds a
single quote and no double one, unprintable characters escaped.
-/

namespace PackageRegistry.Text

/-- The lowercase hexadecimal digits of a number, padded with zeros to `width`. -/
def hexPadded (width n : Nat) : List Char :=
  let digits := Nat.toDigits 16 n
  List.replicate (width - digits.length) '0' ++ digits

/-- How one character is written inside a literal quoted by `quote`. -/
def quotedChar (quote c : Char) : List Char :=
  match standInUnit? c with
  | some u => '\\' :: 'u' :: hexPadded 4 u
  | none =>
  if c = quote ∨ c = '\\' then ['\\', c]
  else if c = '\t' then ['\\', 't']
  else if c = '\n' then ['\\', 'n']
  else if c = '\r' then ['\\', 'r']
  else if c.toNat < 0x20 ∨ c.toNat = 0x7F then '\\' :: 'x' :: hexPadded 2 c.toNat
  else if c.toNat < 0x7F ∨ isPrintable c then [c]
  else if c.toNat < 0x100 then '\\' :: 'x' :: hexPadded 2 c.toNat
  else if c.toNat < 0x10000 then '\\' :: 'u' :: hexPadded 4 c.toNat
  else '\\' :: 'U' :: hexPadded 8 c.toNat

/-- The quote a literal of these characters is written with. -/
def quoteFor (cs : List Char) : Char :=
  if cs.contains '\'' && !cs.contains '"' then '"' else '\''

/-- The quoted literal of a text. -/
def quoted (s : String) : String :=
  let q := quoteFor s.toList
  String.ofList (q :: s.toList.flatMap (quotedChar q) ++ [q])

/-- A tuple literal of texts: quoted items in parentheses, `, ` between, a trailing comma after a
single item. -/
def quotedTuple (items : List String) : String :=
  match items with
  | [single] => "(" ++ quoted single ++ ",)"
  | _ => "(" ++ ", ".intercalate (items.map quoted) ++ ")"

end PackageRegistry.Text
