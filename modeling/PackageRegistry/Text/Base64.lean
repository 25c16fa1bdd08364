/-!
# Base64

The standard alphabet with `=` padding. Strict decoding reads quads and refuses misplaced
padding, characters outside the alphabet, and an unfinished quad.
-/

namespace PackageRegistry.Text

/-- The alphabet, in value order. -/
def base64Alphabet : List Char :=
  "ABCDEFGHIJKLMNOPQRSTUVWXYZabcdefghijklmnopqrstuvwxyz0123456789+/".toList

/-- The value of an alphabet character. -/
def base64Value? (c : Char) : Option Nat :=
  if 'A' ≤ c ∧ c ≤ 'Z' then some (c.toNat - 'A'.toNat)
  else if 'a' ≤ c ∧ c ≤ 'z' then some (c.toNat - 'a'.toNat + 26)
  else if '0' ≤ c ∧ c ≤ '9' then some (c.toNat - '0'.toNat + 52)
  else if c = '+' then some 62
  else if c = '/' then some 63
  else none

/-- The alphabet character of a six-bit value. -/
def base64Char (v : Nat) : Char := base64Alphabet.getD v '='

/-- Encodes octets. -/
def base64Encode : List UInt8 → String
  | [] => ""
  | [a] =>
    let n := a.toNat * 0x10000
    String.ofList [base64Char (n / 0x40000), base64Char (n / 0x1000 % 64), '=', '=']
  | [a, b] =>
    let n := a.toNat * 0x10000 + b.toNat * 0x100
    String.ofList [base64Char (n / 0x40000), base64Char (n / 0x1000 % 64),
      base64Char (n / 0x40 % 64), '=']
  | a :: b :: c :: rest =>
    let n := a.toNat * 0x10000 + b.toNat * 0x100 + c.toNat
    String.ofList [base64Char (n / 0x40000), base64Char (n / 0x1000 % 64),
      base64Char (n / 0x40 % 64), base64Char (n % 64)] ++ base64Encode rest

/-- Why a text is refused by strict decoding. -/
inductive Base64Error where
  | leadingPadding
  | notBase64
  | excessAfterPadding
  | discontinuousPadding
  /-- One data character beyond a whole number of quads; the count of data characters. -/
  | strayCharacter (count : Nat)
  | incorrectPadding
  deriving Repr, BEq, DecidableEq

/-- The text of a refusal. -/
def Base64Error.message : Base64Error → String
  | .leadingPadding => "Leading padding not allowed"
  | .notBase64 => "Only base64 data is allowed"
  | .excessAfterPadding => "Excess data after padding"
  | .discontinuousPadding => "Discontinuous padding not allowed"
  | .strayCharacter count =>
    "Invalid base64-encoded string: number of data characters (" ++ toString count ++
      ") cannot be 1 more than a multiple of 4"
  | .incorrectPadding => "Incorrect padding"

/-- Strict decoding state: the quad's data characters, padding since, padding started, octets
so far (reversed). -/
structure Base64State where
  quad : List Nat := []
  pads : Nat := 0
  padded : Bool := false
  done : List UInt8 := []

/-- The octets a complete or partial quad gives. -/
def quadOctets (vs : List Nat) : List UInt8 :=
  match vs with
  | [a, b] => [UInt8.ofNat (a * 4 + b / 16)]
  | [a, b, c] => [UInt8.ofNat (a * 4 + b / 16), UInt8.ofNat ((b % 16) * 16 + c / 4)]
  | [a, b, c, d] =>
    [UInt8.ofNat (a * 4 + b / 16), UInt8.ofNat ((b % 16) * 16 + c / 4),
      UInt8.ofNat ((c % 4) * 64 + d)]
  | _ => []

/-- The octets decoded so far, in order, including those of the partial quad. -/
def Base64State.octets (st : Base64State) : List UInt8 :=
  st.done.reverse ++ quadOctets st.quad

/-- Decodes strictly from a state. -/
def base64From (st : Base64State) : List Char → Except Base64Error (List UInt8)
  | [] =>
    match st.quad.length with
    | 0 => .ok st.octets
    | 1 => .error (.strayCharacter (st.done.length / 3 * 4 + 1))
    | _ => .error .incorrectPadding
  | '=' :: rest =>
    let pads := st.pads + 1
    if st.quad.length ≥ 2 ∧ st.quad.length + pads ≥ 4 then
      if rest.isEmpty then .ok st.octets else .error .excessAfterPadding
    else
      base64From { st with pads := pads, padded := true } rest
  | c :: rest =>
    match base64Value? c with
    | none => .error .notBase64
    | some v =>
      if st.padded then .error .discontinuousPadding
      else if st.quad.length = 3 then
        let done := (quadOctets (st.quad ++ [v])).reverse ++ st.done
        base64From { st with quad := [], pads := 0, done := done } rest
      else base64From { st with quad := st.quad ++ [v], pads := 0 } rest

/-- Decodes base64 text strictly. -/
def base64Decode (s : String) : Except Base64Error (List UInt8) :=
  match s.toList with
  | '=' :: _ => .error .leadingPadding
  | cs => base64From {} cs

end PackageRegistry.Text
