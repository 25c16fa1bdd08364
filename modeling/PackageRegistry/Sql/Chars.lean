/-!
# Characters of database text

Database text is bytes read as tolerant UTF-8: a stray continuation byte stands alone, and an
overlong code point, a surrogate, `U+FFFE` or `U+FFFF` reads as `U+FFFD`.
-/

namespace PackageRegistry.Sql

/-- Whether a byte continues a character. -/
def isContinuation (b : UInt8) : Bool := b &&& 0xC0 == 0x80

/-- The bits a lead byte from `0xC0` on contributes. -/
def leadBits (b : UInt8) : Nat :=
  let n := b.toNat
  if n < 0xE0 then n - 0xC0
  else if n < 0xF0 then n - 0xE0
  else if n < 0xF8 then n - 0xF0
  else if n < 0xFC then n - 0xF8
  else if n < 0xFE then n - 0xFC
  else 0

/-- The first character of text: its code point and the bytes after it. -/
def readChar : List UInt8 → Option (Nat × List UInt8)
  | [] => none
  | b :: rest =>
    if b < 0xC0 then some (b.toNat, rest)
    else
      let tail := rest.takeWhile isContinuation
      let c := tail.foldl (fun acc x => (acc * 64 + (x &&& 0x3F).toNat) % Nat.pow 2 32) (leadBits b)
      let c := if c < 0x80 || (0xD800 ≤ c && c ≤ 0xDFFF) || c == 0xFFFE || c == 0xFFFF then 0xFFFD else c
      some (c, rest.drop tail.length)

/-- The code points of text, read character by character. -/
def codePoints (bs : List UInt8) : List Nat :=
  let rec go (fuel : Nat) (bs : List UInt8) : List Nat :=
    match fuel with
    | 0 => []
    | fuel + 1 =>
      match readChar bs with
      | some (c, rest) => c :: go fuel rest
      | none => []
  go bs.length bs

/-- The characters of text as groups of bytes. -/
def charGroups : List UInt8 → List (List UInt8)
  | [] => []
  | b :: rest =>
    if b < 0xC0 then [b] :: charGroups rest
    else
      let tail := rest.takeWhile isContinuation
      (b :: tail) :: charGroups (rest.drop tail.length)
termination_by bs => bs.length
decreasing_by
  all_goals simp only [List.length_cons, List.length_drop]
  all_goals omega

/-- Text up to its first zero byte: the part that functions reading C strings see. -/
def beforeNul (bs : List UInt8) : List UInt8 := bs.takeWhile (· != 0)

/-- The number of characters of text up to its first zero byte. -/
def charCount (bs : List UInt8) : Nat := (charGroups (beforeNul bs)).length

/-- The bytes of a code point, by the UTF-8 layout, surrogates included. -/
def encodeCodePoint (c : Nat) : List UInt8 :=
  if c < 0x80 then [UInt8.ofNat c]
  else if c < 0x800 then [UInt8.ofNat (0xC0 + c / 64 % 32), UInt8.ofNat (0x80 + c % 64)]
  else if c < 0x10000 then
    [UInt8.ofNat (0xE0 + c / 4096 % 16), UInt8.ofNat (0x80 + c / 64 % 64), UInt8.ofNat (0x80 + c % 64)]
  else
    [UInt8.ofNat (0xF0 + c / 262144 % 8), UInt8.ofNat (0x80 + c / 4096 % 64),
      UInt8.ofNat (0x80 + c / 64 % 64), UInt8.ofNat (0x80 + c % 64)]

/-- The bytes of text from a string. -/
def bytesOf (s : String) : List UInt8 := s.toUTF8.toList

/-- Text as a string: valid UTF-8 is decoded; other text is read character by character, and
code points that are no characters become `U+FFFD`. -/
def stringOfBytes (bs : List UInt8) : String :=
  match String.fromUTF8? ⟨bs.toArray⟩ with
  | some s => s
  | none => String.ofList ((codePoints bs).map fun c =>
      if c < 0x110000 && !(0xD800 ≤ c && c ≤ 0xDFFF) then Char.ofNat c else '�')

end PackageRegistry.Sql
