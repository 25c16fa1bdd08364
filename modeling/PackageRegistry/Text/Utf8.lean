import PackageRegistry.Text.Quoted
/-!
# UTF-8

The decoder reads a well-formed sequence at a time, or the shortest prefix ruling one out.
Strict decoding stops at the first fault; lenient decoding writes `U+FFFD` and goes on.
-/

namespace PackageRegistry.Text

/-- Why octets at a position are not a UTF-8 sequence. -/
inductive Utf8Fault where
  | invalidStart
  | invalidContinuation
  | unexpectedEnd
  deriving Repr, BEq, DecidableEq

def Utf8Fault.reason : Utf8Fault → String
  | .invalidStart => "invalid start byte"
  | .invalidContinuation => "invalid continuation byte"
  | .unexpectedEnd => "unexpected end of data"

/-- What the octets at one position hold. -/
inductive Utf8Step where
  /-- A character encoded in `length` octets. -/
  | char (c : Char) (length : Nat)
  /-- A fault spanning `length` octets. -/
  | fault (kind : Utf8Fault) (length : Nat)
  deriving Repr, BEq, DecidableEq

/-- Whether an octet continues a sequence: `10xxxxxx`. -/
def isContinuation (b : Nat) : Bool := 0x80 ≤ b && b ≤ 0xBF

/-- The character of a well-formed sequence's octets. -/
def sequenceChar (bs : List Nat) : Char :=
  match bs with
  | [a] => Char.ofNat a
  | [a, b] => Char.ofNat ((a % 0x20) * 0x40 + b % 0x40)
  | [a, b, c] => Char.ofNat ((a % 0x10) * 0x1000 + (b % 0x40) * 0x40 + c % 0x40)
  | [a, b, c, d] =>
    Char.ofNat ((a % 0x08) * 0x40000 + (b % 0x40) * 0x1000 + (c % 0x40) * 0x40 + d % 0x40)
  | _ => Char.ofNat 0xFFFD

/-- Reads the sequence that starts the octets (which are not empty). -/
def utf8Step (bs : List Nat) : Utf8Step :=
  match bs with
  | [] => .fault .unexpectedEnd 0
  | a :: rest =>
    if a < 0x80 then .char (Char.ofNat a) 1
    else if a < 0xC2 then .fault .invalidStart 1
    else if a < 0xE0 then
      match rest with
      | [] => .fault .unexpectedEnd 1
      | b :: _ => if isContinuation b then .char (sequenceChar [a, b]) 2
        else .fault .invalidContinuation 1
    else if a < 0xF0 then
      -- the second octet of E0 must be at least A0 and that of ED below A0
      let secondOk (b : Nat) : Bool :=
        isContinuation b && !(if b < 0xA0 then a == 0xE0 else a == 0xED)
      match rest with
      | [] => .fault .unexpectedEnd 1
      | [b] => if secondOk b then .fault .unexpectedEnd 2 else .fault .invalidContinuation 1
      | b :: c :: _ =>
        if !secondOk b then .fault .invalidContinuation 1
        else if !isContinuation c then .fault .invalidContinuation 2
        else .char (sequenceChar [a, b, c]) 3
    else if a < 0xF5 then
      -- the second octet of F0 must be at least 90 and that of F4 below 90
      let secondOk (b : Nat) : Bool :=
        isContinuation b && !(if b < 0x90 then a == 0xF0 else a == 0xF4)
      match rest with
      | [] => .fault .unexpectedEnd 1
      | [b] => if secondOk b then .fault .unexpectedEnd 2 else .fault .invalidContinuation 1
      | [b, c] =>
        if !secondOk b then .fault .invalidContinuation 1
        else if !isContinuation c then .fault .invalidContinuation 2
        else .fault .unexpectedEnd 3
      | b :: c :: d :: _ =>
        if !secondOk b then .fault .invalidContinuation 1
        else if !isContinuation c then .fault .invalidContinuation 2
        else if !isContinuation d then .fault .invalidContinuation 3
        else .char (sequenceChar [a, b, c, d]) 4
    else .fault .invalidStart 1

/-- A decoding failure: the fault, where its span starts and how long it is, and the octet
at its start. -/
structure Utf8Error where
  kind : Utf8Fault
  position : Nat
  length : Nat
  octet : Nat
  deriving Repr, BEq, DecidableEq

/-- The text of a decoding failure. -/
def Utf8Error.message (e : Utf8Error) : String :=
  if e.length = 1 then
    "'utf-8' codec can't decode byte 0x" ++ String.ofList (hexPadded 2 e.octet) ++
      " in position " ++ toString e.position ++ ": " ++ e.kind.reason
  else
    "'utf-8' codec can't decode bytes in position " ++ toString e.position ++ "-" ++
      toString (e.position + e.length - 1) ++ ": " ++ e.kind.reason

/-- Decodes octets from a position, characters gathered in reverse in `acc`. -/
def decodeFrom (acc : List Char) (position : Nat) (bs : List Nat) :
    Except Utf8Error (List Char) :=
  match bs with
  | [] => .ok acc.reverse
  | b :: rest =>
    match utf8Step (b :: rest) with
    | .char c n => decodeFrom (c :: acc) (position + n) ((b :: rest).drop (max n 1))
    | .fault kind n => .error ⟨kind, position, n, b⟩
termination_by bs.length
decreasing_by
  all_goals simp only [List.length_drop, List.length_cons]
  all_goals omega

/-- Decodes UTF-8 strictly. -/
def decodeUtf8 (bs : List UInt8) : Except Utf8Error String :=
  String.ofList <$> decodeFrom [] 0 (bs.map (·.toNat))

/-- Decodes UTF-8, writing a replacement character for each faulty span. -/
def decodeLenient (acc : List Char) (bs : List Nat) : List Char :=
  match bs with
  | [] => acc.reverse
  | b :: rest =>
    match utf8Step (b :: rest) with
    | .char c n => decodeLenient (c :: acc) ((b :: rest).drop (max n 1))
    | .fault _ n => decodeLenient (Char.ofNat 0xFFFD :: acc) ((b :: rest).drop (max n 1))
termination_by bs.length
decreasing_by
  all_goals simp only [List.length_drop, List.length_cons]
  all_goals omega

/-- Decodes UTF-8, faulty spans becoming replacement characters. -/
def decodeUtf8Lenient (bs : List UInt8) : String :=
  String.ofList (decodeLenient [] (bs.map (·.toNat)))

/-- The UTF-8 octets of text. -/
def utf8Bytes (s : String) : List UInt8 := s.toUTF8.toList

/-- Text UTF-8 cannot encode: stand-ins for unpaired surrogates from character `start` to
`stop`, the first for `unit`. -/
structure Utf8EncodeError where
  unit : Nat
  start : Nat
  stop : Nat
  deriving Repr, BEq, DecidableEq

/-- The text of an encoding failure: the one surrogate, or the span of the run. -/
def Utf8EncodeError.message (e : Utf8EncodeError) : String :=
  if e.stop = e.start + 1 then
    "'utf-8' codec can't encode character '\\u" ++ String.ofList (hexPadded 4 e.unit) ++
      "' in position " ++ toString e.start ++ ": surrogates not allowed"
  else
    "'utf-8' codec can't encode characters in position " ++ toString e.start ++ "-" ++
      toString (e.stop - 1) ++ ": surrogates not allowed"

/-- Whether a character stands for an unpaired surrogate. -/
def isStandIn (c : Char) : Bool := (standInUnit? c).isSome

/-- The UTF-8 octets of text, refused at its first run of stand-ins for unpaired surrogates. -/
def encodeUtf8 (s : String) : Except Utf8EncodeError (List UInt8) :=
  let cs := s.toList
  match cs.findIdx? isStandIn with
  | none => .ok (utf8Bytes s)
  | some i =>
    let run := ((cs.drop i).takeWhile isStandIn).length
    .error ⟨((cs[i]?).bind standInUnit?).getD 0, i, i + run⟩

end PackageRegistry.Text
