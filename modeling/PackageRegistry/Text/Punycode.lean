/-!
# Punycode

The strict decoding of Punycode (RFC 3492), the ASCII form of a domain label after `xn--`: the
basic characters before the last `-`, then base-36 numbers each inserting a character.
-/

namespace PackageRegistry.Text

/-- The value of a Punycode digit, read without regard to case. -/
def punycodeDigit? (c : Char) : Option Nat :=
  let n := c.toNat
  if 0x41 ≤ n && n ≤ 0x5A then some (n - 0x41)
  else if 0x61 ≤ n && n ≤ 0x7A then some (n - 0x61)
  else if 0x30 ≤ n && n ≤ 0x39 then some (n - 22)
  else none

/-- The threshold of the `k`-th digit of a number (from 0) under a bias: `36 (k + 1) - bias`,
kept between 1 and 26. -/
def punycodeThreshold (k bias : Nat) : Nat :=
  let r := 36 * (k + 1)
  if r ≤ bias then 1 else min 26 (r - bias)

/-- A number from digits, `acc` so far, `w` the `k`-th digit's weight; none on a non-digit or
early end. -/
def punycodeNumber (bias : Nat) : List Char → Nat → Nat → Nat → Option (Nat × List Char)
  | [], _, _, _ => none
  | c :: rest, k, w, acc =>
    match punycodeDigit? c with
    | none => none
    | some d =>
      let t := punycodeThreshold k bias
      if d < t then some (acc + d * w, rest)
      else punycodeNumber bias rest (k + 1) (w * (36 - t)) (acc + d * w)

/-- Bias adaptation's shrinking: `delta` divided by 35 until at most 455, `divisions` up 36
each. -/
def punycodeShrink (delta divisions : Nat) : Nat × Nat :=
  if 455 < delta then punycodeShrink (delta / 35) (divisions + 36) else (delta, divisions)
termination_by delta
decreasing_by exact Nat.div_lt_self (by omega) (by omega)

/-- The bias after a number `delta`, the first number or a later one, when `count` characters
have been decoded. -/
def punycodeAdapt (delta : Nat) (first : Bool) (count : Nat) : Nat :=
  let d := if first then delta / 700 else delta / 2
  let (d, divisions) := punycodeShrink (d + d / count) 0
  divisions + 36 * d / (d + 38)

/-- Inserts the characters the digits give; `next` past the last insertion, `code` reached,
`first` before any number. -/
def punycodeInsert : Nat → List Char → Nat → Nat → Nat → Bool → List Char → Option (List Char)
  | 0, _, _, _, _, _, _ => none
  | fuel + 1, out, code, next, bias, first, digits =>
    match digits with
    | [] => some out
    | _ =>
      match punycodeNumber bias digits 0 1 0 with
      | none => none
      | some (delta, rest) =>
        let slots := out.length + 1
        let point := next + delta
        let code := code + point / slots
        let place := point % slots
        if code > 0x10FFFF || (0xD800 ≤ code && code ≤ 0xDFFF) then none
        else
          let out := out.insertIdx place (Char.ofNat code)
          punycodeInsert fuel out code (place + 1) (punycodeAdapt delta first out.length) false rest

/-- The basic characters, before the last `-`, and the digits after it; without a `-` every
character is a digit. -/
def punycodeParts (label : List Char) : List Char × List Char :=
  match label.reverse.span (· != '-') with
  | (digits, []) => ([], digits.reverse)
  | (digits, _ :: basic) => (basic.reverse, digits.reverse)

/-- The characters a Punycode label (without its `xn--` prefix) stands for, if it decodes. -/
def punycodeDecode? (label : List Char) : Option (List Char) :=
  if label.any (·.toNat ≥ 0x80) then none
  else
    let (basic, digits) := punycodeParts label
    punycodeInsert (digits.length + 1) basic 0x80 0 72 true digits

end PackageRegistry.Text
