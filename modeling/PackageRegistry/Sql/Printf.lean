import PackageRegistry.Sql.RealFormat
import PackageRegistry.Sql.Convert
/-!
# `printf`

`printf(format, …)` (also `format`) writes its arguments by a format's conversions, over bytes:
flags, width, precision, size and a conversion letter. An unknown conversion ends the output;
output reaching `10^9` bytes gives `NULL`.
-/

namespace PackageRegistry.Sql

/-- The flags, width and precision of a conversion. -/
structure ConversionSpec where
  leftJustify : Bool := false
  signChar : Option Char := none
  alternate : Bool := false
  extended : Bool := false
  zeroPad : Bool := false
  thousands : Bool := false
  width : Nat := 0
  precision : Option Nat := none
  deriving Repr, BEq

/-- The largest text the engine builds, in bytes. -/
def maxTextLength : Nat := 1000000000

/-- The arguments not yet taken. -/
abbrev PrintfArgs := List SqlValue

/-- The next argument as an integer (zero when none is left). -/
def takeInt : PrintfArgs → Int × PrintfArgs
  | [] => (0, [])
  | v :: rest => (v.integerValue, rest)

/-- The next argument as a double (zero when none is left). -/
def takeReal : PrintfArgs → Float × PrintfArgs
  | [] => (0.0, [])
  | v :: rest => (v.realValue, rest)

/-- The next argument as text (none when it is `NULL` or none is left). -/
def takeText : PrintfArgs → Option (List UInt8) × PrintfArgs
  | [] => (none, [])
  | v :: rest => (v.textBytes?, rest)

/-- Digits of an unsigned 32-bit wrapping reading, then kept to 31 bits. -/
def readCount (acc : Nat) : List UInt8 → Nat × List UInt8
  | b :: rest => if isDigitByte b then readCount ((acc * 10 + digitValue b) % Nat.pow 2 32) rest else (acc % Nat.pow 2 31, b :: rest)
  | [] => (acc % Nat.pow 2 31, [])

/-- A width or precision taken from an argument, as a 32-bit integer. -/
def takeCount (args : PrintfArgs) : Int × PrintfArgs :=
  let (n, args) := takeInt args
  (wrap32 n, args)

/-- Flags, width, precision after `%`: the spec, the conversion letter (`0` at the end) and what
follows, args left. -/
def readSpec : Nat → ConversionSpec → List UInt8 → PrintfArgs →
    ConversionSpec × UInt8 × List UInt8 × PrintfArgs
  | 0, spec, _, args => (spec, 0, [], args)
  | fuel + 1, spec, fmt, args =>
    match fmt with
    | [] => (spec, 0, [], args)
    | c :: rest =>
      if c == 45 then readSpec fuel { spec with leftJustify := true } rest args
      else if c == 43 then readSpec fuel { spec with signChar := some '+' } rest args
      else if c == 32 then readSpec fuel { spec with signChar := some ' ' } rest args
      else if c == 35 then readSpec fuel { spec with alternate := true } rest args
      else if c == 33 then readSpec fuel { spec with extended := true } rest args
      else if c == 48 then readSpec fuel { spec with zeroPad := true } rest args
      else if c == 44 then readSpec fuel { spec with thousands := true } rest args
      else if c == 108 then
        -- `l` or `ll`, which arguments taken from values ignore
        let rest := match rest with
          | 108 :: more => more
          | _ => rest
        match rest with
        | d :: more => (spec, d, more, args)
        | [] => (spec, 0, [], args)
      else if 49 ≤ c && c ≤ 57 then
        let (w, after) := readCount 0 (c :: rest)
        let spec := { spec with width := w }
        match after with
        | d :: more => if d == 46 || d == 108 then readSpec fuel spec after args else (spec, d, more, args)
        | [] => (spec, 0, [], args)
      else if c == 42 then
        let (w, args) := takeCount args
        let spec := if w < 0 then
            { spec with leftJustify := true, width := if w ≥ -2147483647 then w.natAbs else 0 }
          else { spec with width := w.toNat }
        match rest with
        | d :: more => if d == 46 || d == 108 then readSpec fuel spec rest args else (spec, d, more, args)
        | [] => (spec, 0, [], args)
      else if c == 46 then
        let (precision, after, args) : Option Nat × List UInt8 × PrintfArgs :=
          match rest with
          | 42 :: more =>
            let (p, args) := takeCount args
            (if p < 0 then (if p ≥ -2147483647 then some p.natAbs else none) else some p.toNat, more, args)
          | _ =>
            let (p, after) := readCount 0 rest
            (some p, after, args)
        let spec := { spec with precision }
        match after with
        | d :: more => if d == 108 then readSpec fuel spec after args else (spec, d, more, args)
        | [] => (spec, 0, [], args)
      else (spec, c, rest, args)

/-- The digits of a natural number in a base, with a digit set. -/
def digitsIn (base : Nat) (upper : Bool) (n : Nat) : List UInt8 :=
  let digit := fun (d : Nat) =>
    if d < 10 then UInt8.ofNat (48 + d) else UInt8.ofNat ((if upper then 55 else 87) + d)
  let rec go : Nat → Nat → List UInt8 → List UInt8
    | 0, _, acc => acc
    | fuel + 1, n, acc =>
      let acc := digit (n % base) :: acc
      if n / base == 0 then acc else go fuel (n / base) acc
  go (n + 1) n []

/-- Digits grouped by thousands from the right, with commas. -/
def groupThousands (ds : List UInt8) : List UInt8 :=
  let rec go : List UInt8 → List UInt8
    | a :: b :: c :: d :: rest => a :: b :: c :: 44 :: go (d :: rest)
    | rest => rest
  (go ds.reverse).reverse

def ordinalSuffix (n : Nat) : List UInt8 :=
  let x := n % 10
  let x := if x ≥ 4 || (n / 10) % 10 == 1 then 0 else x
  match x with
  | 1 => bytesOf "st"
  | 2 => bytesOf "nd"
  | 3 => bytesOf "rd"
  | _ => bytesOf "th"

/-- A conversion's output: bytes, a stop keeping what came before, or a fault leaving no text. -/
inductive FieldResult where
  | bytes (bs : List UInt8)
  | stop
  | tooBig

/-- A field padded with spaces to a width, left or right; too big when `used` and the field reach
the limit. -/
def padField (spec : ConversionSpec) (used width : Nat) (body : List UInt8) : FieldResult :=
  if used + max width body.length ≥ maxTextLength then .tooBig
  else if body.length ≥ width then .bytes body
  else
    let pad := List.replicate (width - body.length) (32 : UInt8)
    .bytes (if spec.leftJustify then body ++ pad else pad ++ body)

/-- Integer conversion parts: prefix and sign, digits (ordinal suffix), zero padding,
grouping. -/
structure IntegerParts where
  lead : List UInt8
  digits : List UInt8
  zeros : Nat
  grouped : Bool

def IntegerParts.digitCount (p : IntegerParts) : Nat := p.zeros + p.digits.length

def IntegerParts.length (p : IntegerParts) : Nat :=
  let n := p.digitCount
  p.lead.length + n + (if p.grouped && n > 0 then (n - 1) / 3 else 0)

def IntegerParts.bytes (p : IntegerParts) : List UInt8 :=
  let body := List.replicate p.zeros (48 : UInt8) ++ p.digits
  p.lead ++ (if p.grouped then groupThousands body else body)

/-- An integer conversion and its working precision (zero padding fills the width after the
sign); `p` is uppercase after `0x`. -/
def integerParts (spec : ConversionSpec) (c : UInt8) (v : Int) : IntegerParts × Int :=
  let signed := c == 100 || c == 105 || c == 114
  let (magnitude, prefixByte) : Nat × Option UInt8 :=
    if signed then
      if v < 0 then (v.natAbs, some 45) else (v.toNat, spec.signChar.map fun ch => UInt8.ofNat ch.toNat)
    else ((v % Int.pow 2 64).toNat, none)
  let thousands := spec.thousands && (c == 100 || c == 105 || c == 117)
  let alternate := spec.alternate && magnitude != 0
  let prefixLen := if prefixByte.isSome then 1 else 0
  let precision : Int := match spec.precision with
    | some p => p
    | none => -1
  let precision : Int :=
    if spec.zeroPad && precision < (spec.width : Int) - prefixLen then (spec.width : Int) - prefixLen else precision
  let (base, upper) : Nat × Bool :=
    if c == 120 then (16, false) else if c == 88 || c == 112 then (16, true)
    else if c == 111 then (8, false) else (10, false)
  let digits := digitsIn base upper magnitude ++ (if c == 114 then ordinalSuffix magnitude else [])
  let altPrefix : List UInt8 :=
    if !alternate then []
    else if c == 120 || c == 112 then bytesOf "0x" else if c == 88 then bytesOf "0X"
    else if c == 111 then bytesOf "0" else []
  ({ lead := altPrefix ++ prefixByte.toList, digits, zeros := (precision - digits.length).toNat,
     grouped := thousands }, precision)

/-- An integer conversion's working space past the fixed buffer: the precision, ten, and a third
for separators. -/
def integerWorkingSpace (precision : Int) (grouped : Bool) : Option Nat :=
  if precision < 37 then none
  else
    let p := precision.toNat
    some (p + 10 + (if grouped then p / 3 else 0))

/-- The format of a double conversion. -/
def realFormatOf (spec : ConversionSpec) (c : UInt8) : RealFormat :=
  let conversion : RealConversion :=
    if c == 102 then .fixed else if c == 101 || c == 69 then .exponent else .general
  { conversion, precision := spec.precision.getD 6, alternate := spec.alternate,
    extended := spec.extended, signChar := spec.signChar, upperExponent := c == 69 || c == 71 }

/-- A double conversion after `used` bytes, with zero padding after the sign. -/
def realField (spec : ConversionSpec) (used : Nat) (f : RealFormat) (x : Float) : FieldResult :=
  let text := bytesOf (f.render x)
  let isInfinite := (bytesOf "Inf").isSuffixOf text
  if spec.zeroPad && !spec.leftJustify && text.length < spec.width && !isInfinite then
    if used + spec.width ≥ maxTextLength then .tooBig
    else
      let signed := x < 0.0 || spec.signChar.isSome
      let zeros := List.replicate (spec.width - text.length) (48 : UInt8)
      .bytes (if signed then text.take 1 ++ zeros ++ text.drop 1 else zeros ++ text)
  else padField spec used spec.width text

/-- The bytes of the first `n` characters of text. -/
def takeChars (n : Nat) (bs : List UInt8) : List UInt8 :=
  (charGroups bs |>.take n).flatten

/-- The number of continuation bytes of text, by which a width in characters exceeds one in
bytes. -/
def continuationCount (bs : List UInt8) : Nat := (bs.filter isContinuation).length

/-- Text with each quote byte doubled. -/
def doubleQuotes (q : UInt8) (bs : List UInt8) : List UInt8 :=
  bs.flatMap fun b => if b == q then [b, b] else [b]

/-- A text conversion (`s`, `z`, `q`, `Q`, `w`): the body and the width in bytes. -/
def textField (spec : ConversionSpec) (c : UInt8) (arg : Option (List UInt8)) : List UInt8 × Nat :=
  let body :=
    if c == 115 || c == 122 then
      let text := beforeNul (arg.getD [])
      match spec.precision with
      | some p => if spec.extended then takeChars p text else text.take p
      | none => text
    else
      let q : UInt8 := if c == 119 then 34 else 39
      let text := match arg with
        | some t => beforeNul t
        | none => bytesOf (if c == 81 then "NULL" else "(NULL)")
      let text := match spec.precision with
        | some p => if spec.extended then takeChars p text else text.take p
        | none => text
      let quoted := doubleQuotes q text
      if c == 81 && arg.isSome then q :: quoted ++ [q] else quoted
  let width := if spec.extended && spec.width > 0 then spec.width + continuationCount body else spec.width
  (body, width)

/-- What `%c` writes: its argument's first byte with following continuation bytes (at most four),
or zero. -/
def firstCharBytes : Option (List UInt8) → List UInt8
  | some (b :: rest) =>
    if b &&& 0xC0 == 0xC0 then b :: (rest.takeWhile isContinuation).take 3 else [b]
  | _ => [0]

/-- Whether a conversion letter writes an integer: `d i u x X o p r`. -/
def isIntegerLetter (c : UInt8) : Bool :=
  c == 100 || c == 105 || c == 117 || c == 120 || c == 88 || c == 111 || c == 112 || c == 114

/-- Whether a conversion letter writes a double: `f e E g G`. -/
def isRealLetter (c : UInt8) : Bool :=
  c == 102 || c == 101 || c == 69 || c == 103 || c == 71

/-- One conversion after `used` bytes; working space or output reaching the limit leaves no
text. -/
def convert (spec : ConversionSpec) (c : UInt8) (used : Nat) (args : PrintfArgs) :
    FieldResult × PrintfArgs :=
  if isIntegerLetter c then
    let (v, args) := takeInt args
    let (parts, precision) := integerParts spec c v
    match integerWorkingSpace precision parts.grouped with
    | some need =>
      if need > maxTextLength then (.tooBig, args)
      else if used + max spec.width parts.length ≥ maxTextLength then (.tooBig, args)
      else (padField spec used spec.width parts.bytes, args)
    | none => (padField spec used spec.width parts.bytes, args)
  else if isRealLetter c then
    let (x, args) := takeReal args
    let f := realFormatOf spec c
    match f.workingSpace x with
    | some need =>
      if need + spec.width > maxTextLength then (.tooBig, args)
      else (realField spec used f x, args)
    | none => (realField spec used f x, args)
  else if c == 115 || c == 122 || c == 113 || c == 81 || c == 119 then
    let (arg, args) := takeText args
    let (body, width) := textField spec c arg
    (padField spec used width body, args)
  else if c == 99 then
    let (arg, args) := takeText args
    let one := firstCharBytes arg
    let repeats := spec.precision.getD 1
    let copies := if repeats > 1 then repeats - 1 else 0
    let width := spec.width - copies
    let (lead, width) :=
      if copies > 0 && width > 1 && !spec.leftJustify then (width - 1, 0) else (0, width)
    let width := if width > 0 then width + continuationCount one else width
    if used + lead + one.length * copies + max width one.length ≥ maxTextLength then (.tooBig, args)
    else
      let body := (List.replicate copies one).flatten
      match padField spec (used + lead + body.length) width one with
      | .bytes tail => (.bytes (List.replicate lead (32 : UInt8) ++ body ++ tail), args)
      | other => (other, args)
  else if c == 37 then (padField spec used spec.width [37], args)
  else if c == 110 then (.bytes [], args)
  else (.stop, args)

/-- Writes a format after the output so far (none while empty): the output, or no text when too
big. -/
def printfLoop : Nat → List UInt8 → PrintfArgs → Option (List UInt8) →
    Except Unit (Option (List UInt8))
  | 0, _, _, out => .ok out
  | fuel + 1, fmt, args, out =>
    let written := out.getD []
    match fmt with
    | [] => .ok out
    | 37 :: rest =>
      match rest with
      | [] => .ok (some (written ++ [37]))
      | _ =>
        let (spec, c, rest, args) := readSpec (rest.length + 1) {} rest args
        if c == 0 then .ok out
        else
          match convert spec c written.length args with
          | (.bytes bs, args) => printfLoop fuel rest args (some (written ++ bs))
          | (.stop, _) => .ok out
          | (.tooBig, _) => .error ()
    | b :: rest => printfLoop fuel rest args (some (written ++ [b]))

/-- `printf(format, …)`: the text written; `NULL` without format, when nothing is written, or
too big. -/
def printfValue : List SqlValue → SqlValue
  | f :: args =>
    match f.textBytes? with
    | some fmt =>
      let fmt := beforeNul fmt
      match printfLoop (fmt.length + 1) fmt args none with
      | .ok (some out) => .text out
      | _ => .null
    | none => .null
  | [] => .null

end PackageRegistry.Sql
