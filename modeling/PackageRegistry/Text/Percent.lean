import PackageRegistry.Text.Quoted
import PackageRegistry.Text.Utf8
import PackageRegistry.Text.CodeRange
/-!
# Percent-encoding

Text as a URL path segment: ASCII letters, digits, `_ . - ~` and the caller's safe characters
stay, every other character is `%XX` per UTF-8 octet. Decoding reads the octets back as UTF-8.
-/

namespace PackageRegistry.Text

/-- Whether a character is never escaped: ASCII letters and digits and `_ . - ~`. -/
def isUnreserved (c : Char) : Bool :=
  (c.isAlphanum && c.toNat < 0x80) || c = '_' || c = '.' || c = '-' || c = '~'

/-- Percent-encodes text, keeping the unreserved characters and those of `safe`. -/
def percentEncode (safe : String) (s : String) : String :=
  String.join (s.toList.map fun c =>
    if isUnreserved c || safe.toList.contains c then c.toString
    else String.join ((utf8Bytes c.toString).map fun b =>
      "%" ++ String.ofList ((hexPadded 2 b.toNat).map Char.toUpper)))

/-- The octets of a run of ASCII characters with its `%XX` escapes read. -/
def unescapeOctets : List Char → List UInt8
  | '%' :: h :: l :: rest =>
    match hexDigitValue? h, hexDigitValue? l with
    | some a, some b => UInt8.ofNat (a * 16 + b) :: unescapeOctets rest
    | _, _ => UInt8.ofNat '%'.toNat :: unescapeOctets (h :: l :: rest)
  | c :: rest => UInt8.ofNat c.toNat :: unescapeOctets rest
  | [] => []

/-- Decodes characters, `run` holding the ASCII run being gathered (nearest first). -/
def percentDecodeFrom (run : List Char) : List Char → List Char
  | [] => (decodeUtf8Lenient (unescapeOctets run.reverse)).toList
  | c :: rest =>
    if c.toNat < 0x80 then percentDecodeFrom (c :: run) rest
    else (decodeUtf8Lenient (unescapeOctets run.reverse)).toList ++ c :: percentDecodeFrom [] rest

/-- Decodes percent-encoded text. -/
def percentDecode (s : String) : String :=
  String.ofList (percentDecodeFrom [] s.toList)

end PackageRegistry.Text
