import PackageRegistry.Json.Value
import PackageRegistry.Decimal.Binary
import PackageRegistry.Text.CodeRange
import PackageRegistry.Text.Surrogate
/-!
# Reading JSON

JSON text as clients send it, also `NaN`, `Infinity` and `-Infinity`; a number with a fraction
or exponent is the nearest double, others exact integers (at most 4300 digits); a repeated key
keeps its first place and last value.
-/

namespace PackageRegistry

open PackageRegistry.Decimal PackageRegistry.Text

namespace Json

/-- The blanks between JSON tokens. -/
def isSpace (c : Char) : Bool := c = ' ' || c = '\t' || c = '\n' || c = '\r'

/-- Characters with leading JSON blanks removed. -/
def skipSpace (cs : List Char) : List Char := cs.dropWhile isSpace

/-- The value of four hexadecimal digits. -/
def hex4? (a b c d : Char) : Option Nat := readHexFrom 0 [a, b, c, d]

/-- The character of a code unit: itself, or the stand-in of a surrogate. -/
def unitChar (u : Nat) : Char :=
  if 0xD800 ≤ u ∧ u ≤ 0xDFFF then surrogateStandIn u else Char.ofNat u

/-- The characters gathered so far with a waiting high surrogate, if any, added as a stand-in. -/
def withPending (pending : Option Nat) (acc : List Char) : List Char :=
  match pending with
  | some hi => unitChar hi :: acc
  | none => acc

/-- The short escapes and what they stand for. -/
def shortEscape? : Char → Option Char
  | '"' => some '"'
  | '\\' => some '\\'
  | '/' => some '/'
  | 'b' => some '\x08'
  | 'f' => some '\x0c'
  | 'n' => some '\n'
  | 'r' => some '\r'
  | 't' => some '\t'
  | _ => none

/-- A string after its opening quote: the text (reversed in `acc`) and what follows; `pending`
holds a high surrogate escape. -/
def readStringBody (pending : Option Nat) (acc : List Char) :
    List Char → Option (String × List Char)
  | [] => none
  | '"' :: rest => some (String.ofList (withPending pending acc).reverse, rest)
  | '\\' :: 'u' :: a :: b :: c :: d :: rest =>
    match hex4? a b c d, pending with
    | none, _ => none
    | some u, some hi =>
      if 0xDC00 ≤ u ∧ u ≤ 0xDFFF then
        readStringBody none (Char.ofNat (0x10000 + (hi - 0xD800) * 0x400 + (u - 0xDC00)) :: acc)
          rest
      else if 0xD800 ≤ u ∧ u ≤ 0xDBFF then readStringBody (some u) (unitChar hi :: acc) rest
      else readStringBody none (unitChar u :: unitChar hi :: acc) rest
    | some u, none =>
      if 0xD800 ≤ u ∧ u ≤ 0xDBFF then readStringBody (some u) acc rest
      else readStringBody none (unitChar u :: acc) rest
  | '\\' :: c :: rest =>
    match shortEscape? c with
    | some e => readStringBody none (e :: withPending pending acc) rest
    | none => none
  | c :: rest =>
    if c.toNat < 0x20 then none else readStringBody none (c :: withPending pending acc) rest

def digitsValue (ds : List Char) : Nat :=
  ds.foldl (fun acc d => acc * 10 + (d.toNat - '0'.toNat)) 0

/-- Whether a character is an ASCII digit. -/
def isDigit (c : Char) : Bool := '0' ≤ c && c ≤ '9'

/-- The most digits an integer may have, as converting takes time quadratic in its length. -/
def maxIntegerDigits : Nat := 4300

/-- A number `-?(0|[1-9][0-9]*)(\.[0-9]+)?([eE][-+]?[0-9]+)?`; integers past
`maxIntegerDigits` digits refused. -/
def readNumber (cs : List Char) : Option (Json × List Char) :=
  let (negative, body) := match cs with
    | '-' :: rest => (true, rest)
    | _ => (false, cs)
  let intPart? : Option (List Char × List Char) := match body with
    | '0' :: rest => some (['0'], rest)
    | c :: rest =>
      if '1' ≤ c ∧ c ≤ '9' then some (c :: rest.takeWhile isDigit, rest.dropWhile isDigit)
      else none
    | [] => none
  intPart?.bind fun (intDigits, afterInt) =>
    let (fracDigits, afterFrac) := match afterInt with
      | '.' :: d :: rest =>
        if isDigit d then (d :: rest.takeWhile isDigit, rest.dropWhile isDigit)
        else ([], afterInt)
      | _ => ([], afterInt)
    let (expPart, afterExp) : Option Int × List Char := match afterFrac with
      | e :: rest =>
        if e = 'e' ∨ e = 'E' then
          let (expNegative, expBody) := match rest with
            | '-' :: r => (true, r)
            | '+' :: r => (false, r)
            | r => (false, r)
          match expBody with
          | d :: r =>
            if isDigit d then
              let ds := d :: r.takeWhile isDigit
              let v : Int := Int.ofNat (digitsValue ds)
              (some (if expNegative then -v else v), r.dropWhile isDigit)
            else (none, afterFrac)
          | [] => (none, afterFrac)
        else (none, afterFrac)
      | [] => (none, afterFrac)
    if fracDigits.isEmpty ∧ expPart.isNone then
      if intDigits.length > maxIntegerDigits then none
      else
        let n : Int := Int.ofNat (digitsValue intDigits)
        some (.int (if negative then -n else n), afterExp)
    else
      let m := digitsValue (intDigits ++ fracDigits)
      let e := expPart.getD 0 - Int.ofNat fracDigits.length
      some (.float (nearestDouble negative m e), afterExp)

/-- Binds a member in an ordered object: a key already present keeps its place. -/
def setMember (members : List (String × Json)) (key : String) (value : Json) :
    List (String × Json) :=
  if members.any (·.1 == key) then
    members.map fun kv => if kv.1 == key then (key, value) else kv
  else members ++ [(key, value)]

/-- A container that opened past the room for containers: an object when `object` holds, else
an array. -/
structure TooDeep where
  object : Bool
  deriving Repr, BEq, DecidableEq

/-- The class of error a container past the room is reported as. -/
def TooDeep.errorClass (_ : TooDeep) : String := "RecursionError"

/-- The text of a container past the room, which names its kind. -/
def TooDeep.message (d : TooDeep) : String :=
  "maximum recursion depth exceeded while decoding a JSON " ++
    (if d.object then "object" else "array") ++ " from a unicode string"

/-- Why JSON text is not read. -/
inductive ReadFault where
  /-- The text is not JSON. -/
  | malformed
  /-- A container opens past the room. -/
  | tooDeep (fault : TooDeep)
  deriving Repr, BEq, DecidableEq

/-- A reading step that may find the text malformed. -/
def orMalformed {α : Type} : Option α → Except ReadFault α
  | some a => .ok a
  | none => .error .malformed

/-- Opens a container with the room left, refusing it when there is none. -/
def openContainer (object : Bool) (room : Nat) : Except ReadFault Nat :=
  if room = 0 then .error (.tooDeep ⟨object⟩) else .ok (room - 1)

mutual

/-- Reads one value after optional blanks, with `room` containers still allowed to open. -/
def readValue : Nat → Nat → List Char → Except ReadFault (Json × List Char)
  | 0, _, _ => .error .malformed
  | fuel + 1, room, cs =>
    match skipSpace cs with
    | '{' :: rest => do
      let inner ← openContainer true room
      match skipSpace rest with
      | '}' :: after => .ok (.obj [], after)
      | body => readMembers fuel inner [] body
    | '[' :: rest => do
      let inner ← openContainer false room
      match skipSpace rest with
      | ']' :: after => .ok (.arr [], after)
      | body => readItems fuel inner [] body
    | '"' :: rest => orMalformed ((readStringBody none [] rest).map fun r => (.str r.1, r.2))
    | 'n' :: 'u' :: 'l' :: 'l' :: rest => .ok (.null, rest)
    | 't' :: 'r' :: 'u' :: 'e' :: rest => .ok (.bool true, rest)
    | 'f' :: 'a' :: 'l' :: 's' :: 'e' :: rest => .ok (.bool false, rest)
    | 'N' :: 'a' :: 'N' :: rest => .ok (.float (0.0 / 0.0), rest)
    | 'I' :: 'n' :: 'f' :: 'i' :: 'n' :: 'i' :: 't' :: 'y' :: rest =>
      .ok (.float (doubleOfFields false 2047 0), rest)
    | '-' :: 'I' :: 'n' :: 'f' :: 'i' :: 'n' :: 'i' :: 't' :: 'y' :: rest =>
      .ok (.float (doubleOfFields true 2047 0), rest)
    | other => orMalformed (readNumber other)

/-- Reads array items after `[` (items gathered in reverse in `acc`) up to the closing `]`. -/
def readItems : Nat → Nat → List Json → List Char → Except ReadFault (Json × List Char)
  | 0, _, _, _ => .error .malformed
  | fuel + 1, room, acc, cs => do
    let (v, rest) ← readValue fuel room cs
    match skipSpace rest with
    | ',' :: after => readItems fuel room (v :: acc) after
    | ']' :: after => .ok (.arr (v :: acc).reverse, after)
    | _ => .error .malformed

/-- Reads object members after `{` up to the closing `}`. -/
def readMembers : Nat → Nat → List (String × Json) → List Char →
    Except ReadFault (Json × List Char)
  | 0, _, _, _ => .error .malformed
  | fuel + 1, room, acc, cs =>
    match skipSpace cs with
    | '"' :: rest => do
      let (key, afterKey) ← orMalformed (readStringBody none [] rest)
      match skipSpace afterKey with
      | ':' :: afterColon => do
        let (v, afterValue) ← readValue fuel room afterColon
        match skipSpace afterValue with
        | ',' :: after => readMembers fuel room (setMember acc key v) after
        | '}' :: after => .ok (.obj (setMember acc key v), after)
        | _ => .error .malformed
      | _ => .error .malformed
    | _ => .error .malformed

end

/-- Reads a whole JSON document, with room for `room` containers open at once; blanks may
surround the value. -/
def read (room : Nat) (s : String) : Except ReadFault Json := do
  let cs := s.toList
  let (v, rest) ← readValue (2 * cs.length + 2) room cs
  if (skipSpace rest).isEmpty then .ok v else .error .malformed

/-- Reads a whole JSON document with room for any nesting it has. -/
def parse (s : String) : Option Json :=
  (read s.length s).toOption

end Json

end PackageRegistry
