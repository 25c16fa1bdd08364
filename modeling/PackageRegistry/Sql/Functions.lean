import PackageRegistry.Sql.Pattern
import PackageRegistry.Sql.Build
import PackageRegistry.Sql.DateTime
import PackageRegistry.Sql.JsonText
import PackageRegistry.Sql.Regex
/-!
# Scalar functions

The functions a query may call on values, by name in any case, with the argument counts each
accepts: text, number, `min`, `max`, `nullif`, and fixed answers of the build. `NULL` gives
`NULL` unless said otherwise.
-/

namespace PackageRegistry.Sql

/-- How a call of a function by its name takes a number of arguments. -/
inductive CallKind where
  | scalar
  | aggregate
  /-- A window function, which needs a window to be called. -/
  | window
  /-- The function exists, but not with that many arguments. -/
  | wrongCount
  | unknown
  deriving Repr, BEq, DecidableEq

/-- The scalar functions, by their upper-case names, and whether they accept a number of
arguments. -/
def scalarArity? (name : String) : Option (Nat → Bool) :=
  match name with
  | "LOWER" | "UPPER" | "LENGTH" | "ABS" | "TYPEOF" | "UNICODE" | "HEX" | "QUOTE" | "SIGN"
  | "LIKELY" | "UNLIKELY" | "ZEROBLOB" | "RANDOMBLOB" | "SQLITE_COMPILEOPTION_USED"
  | "SQLITE_COMPILEOPTION_GET" => some (· == 1)
  | "COALESCE" => some (· ≥ 2)
  | "IFNULL" | "NULLIF" | "INSTR" | "LIKELIHOOD" | "GLOB" | "MATCH" | "REGEXP" => some (· == 2)
  | "TRIM" | "LTRIM" | "RTRIM" | "ROUND" => some fun n => n == 1 || n == 2
  | "SUBSTR" | "SUBSTRING" | "LIKE" => some fun n => n == 2 || n == 3
  | "REPLACE" | "IIF" => some (· == 3)
  | "CHAR" | "PRINTF" | "FORMAT" | "MAX" | "MIN" => some fun _ => true
  | "SOUNDEX" | "SUBTYPE" | "FTS5" | "RTREEDEPTH" | "OFFSETS" | "OPTIMIZE" => some (· == 1)
  | "SQLITE_LOG" | "RTREENODE" => some (· == 2)
  | "LOAD_EXTENSION" | "FTS3_TOKENIZER" | "MATCHINFO" => some fun n => n == 1 || n == 2
  | "SNIPPET" | "HIGHLIGHT" | "BM25" | "RTREECHECK" => some fun _ => true
  | "FTS5_SOURCE_ID" => some (· == 0)
  | "RANDOM" | "SQLITE_VERSION" | "SQLITE_SOURCE_ID" | "CHANGES" | "TOTAL_CHANGES"
  | "LAST_INSERT_ROWID" | "PI" | "CURRENT_DATE" | "CURRENT_TIME" | "CURRENT_TIMESTAMP" =>
    some (· == 0)
  | "ACOS" | "ASIN" | "ATAN" | "ACOSH" | "ASINH" | "ATANH" | "CEIL" | "CEILING" | "FLOOR"
  | "TRUNC" | "COS" | "SIN" | "TAN" | "COSH" | "SINH" | "TANH" | "DEGREES" | "RADIANS" | "EXP"
  | "LN" | "LOG10" | "LOG2" | "SQRT" => some (· == 1)
  | "LOG" => some fun n => n == 1 || n == 2
  | "ATAN2" | "MOD" | "POW" | "POWER" => some (· == 2)
  | "DATE" | "TIME" | "DATETIME" | "JULIANDAY" | "UNIXEPOCH" | "STRFTIME" => some fun _ => true
  | "JSON" | "JSON_QUOTE" | "JSON_VALID" => some (· == 1)
  | "JSON_ARRAY_LENGTH" | "JSON_TYPE" => some fun n => n == 1 || n == 2
  | "JSON_PATCH" | "->" | "->>" => some (· == 2)
  | "JSON_ARRAY" | "JSON_OBJECT" | "JSON_EXTRACT" | "JSON_INSERT" | "JSON_REPLACE" | "JSON_SET"
  | "JSON_REMOVE" => some fun _ => true
  | _ => none

/-- A function's kind for an argument count: `min`/`max` aggregate one, scalar over more; window
functions refused. -/
def callKind (name : String) (n : Nat) : CallKind :=
  match name.toUpper with
  | "COUNT" => if n ≤ 1 then .aggregate else .wrongCount
  | "SUM" | "AVG" | "TOTAL" => if n == 1 then .aggregate else .wrongCount
  | "GROUP_CONCAT" => if n == 1 || n == 2 then .aggregate else .wrongCount
  | "JSON_GROUP_ARRAY" => if n == 1 then .aggregate else .wrongCount
  | "JSON_GROUP_OBJECT" => if n == 2 then .aggregate else .wrongCount
  | "MIN" | "MAX" => if n == 1 then .aggregate else if n ≥ 2 then .scalar else .wrongCount
  | "ROW_NUMBER" | "RANK" | "DENSE_RANK" | "PERCENT_RANK" | "CUME_DIST" =>
    if n == 0 then .window else .wrongCount
  | "NTILE" | "FIRST_VALUE" | "LAST_VALUE" => if n == 1 then .window else .wrongCount
  | "NTH_VALUE" => if n == 2 then .window else .wrongCount
  | "LAG" | "LEAD" => if 1 ≤ n && n ≤ 3 then .window else .wrongCount
  | u =>
    match scalarArity? u with
    | some accepts => if accepts n then .scalar else .wrongCount
    | none => .unknown

/-! ## Text functions -/

/-- Octets in upper-case hexadecimal. -/
def hexBytes (bs : List UInt8) : List UInt8 :=
  let digit := fun (n : Nat) => UInt8.ofNat (if n < 10 then 48 + n else 55 + n)
  bs.flatMap fun b => [digit (b.toNat / 16), digit (b.toNat % 16)]

/-- `length(x)`. -/
def lengthValue : SqlValue → SqlValue
  | .null => .null
  | .text bs => .integer (charCount bs)
  | v => .integer v.textBytes.length

/-- An ASCII letter byte in upper case. -/
def upperByte (b : UInt8) : UInt8 := if 97 ≤ b && b ≤ 122 then b - 32 else b

/-- `upper(x)` or `lower(x)`: text with its ASCII letters folded. -/
def foldValue (upper : Bool) (v : SqlValue) : SqlValue :=
  match v.textBytes? with
  | some bs => .text (bs.map fun b => if upper then upperByte b else foldByte b)
  | none => .null

/-- The character start positions of text as counts of bytes skipped: the text after `n`
characters. -/
def dropChars : Nat → List UInt8 → List UInt8
  | 0, bs => bs
  | n + 1, bs =>
    match bs with
    | [] => []
    | 0 :: _ => bs
    | b :: rest =>
      let rest := if b ≥ 0xC0 then rest.dropWhile isContinuation else rest
      dropChars n rest

/-- `substr(x, start[, length])`, 32-bit start and length. An empty blob gives `NULL`, empty text
empty text. -/
def substrValue (v : SqlValue) (start : Int) (len : Option Int) : SqlValue :=
  let isBlob := match v with
    | .blob _ => true
    | _ => false
  match v.textBytes? with
  | none => .null
  | some [] => if isBlob then .null else .text []
  | some bs =>
    let total : Int := if isBlob then bs.length else if start < 0 then charCount bs else 0
    let (p2, negative) : Int × Bool := match len with
      | some l => if l < 0 then (-l, true) else (l, false)
      | none => (1000000000, false)
    let (p1, p2) : Int × Int :=
      if start < 0 then
        let p1 := start + total
        if p1 < 0 then (0, max (p2 + p1) 0) else (p1, p2)
      else if start > 0 then (start - 1, p2)
      else (0, if p2 > 0 then p2 - 1 else p2)
    let (p1, p2) : Int × Int :=
      if negative then
        let p1' := p1 - p2
        if p1' < 0 then (0, p2 + p1') else (p1', p2)
      else (p1, p2)
    if isBlob then
      let p2 := if p1 + p2 > total then max (total - p1) 0 else p2
      .blob ((bs.drop p1.toNat).take p2.toNat)
    else
      let text := beforeNul bs
      let fromStart := dropChars p1.toNat text
      let kept := fromStart.length - (dropChars p2.toNat fromStart).length
      .text (fromStart.take kept)

/-- The characters of a trim set, as byte groups, up to its first zero byte. -/
def trimSet (bs : List UInt8) : List (List UInt8) := charGroups (beforeNul bs)

/-- Removes characters of a set from the start of text. -/
def trimStart (set : List (List UInt8)) : Nat → List UInt8 → List UInt8
  | 0, bs => bs
  | fuel + 1, bs =>
    match set.find? fun c => !c.isEmpty && c.isPrefixOf bs with
    | some c => trimStart set fuel (bs.drop c.length)
    | none => bs

/-- `trim`, `ltrim` or `rtrim` of text by a set of characters (a space when none is given). -/
def trimValue (left right : Bool) (v : SqlValue) (chars : Option SqlValue) : SqlValue :=
  match v.textBytes? with
  | none => .null
  | some bs =>
    let set? : Option (List (List UInt8)) := match chars with
      | none => some [[32]]
      | some c => c.textBytes?.map trimSet
    match set? with
    | none => .null
    | some set =>
      if set.isEmpty then .text bs
      else
        let bs := if left then trimStart set (bs.length + 1) bs else bs
        let bs := if right then (trimStart (set.map List.reverse) (bs.length + 1) bs.reverse).reverse else bs
        .text bs

/-- Text with every occurrence of a pattern replaced, scanning from the left. -/
def replaceBytes (pat rep : List UInt8) : Nat → List UInt8 → List UInt8
  | 0, bs => bs
  | fuel + 1, bs =>
    match bs with
    | [] => []
    | b :: rest =>
      if pat.isPrefixOf bs then rep ++ replaceBytes pat rep fuel (bs.drop pat.length)
      else b :: replaceBytes pat rep fuel rest

/-- `replace(x, pattern, replacement)`: an empty pattern leaves the value as it is. -/
def replaceValue (v p r : SqlValue) : SqlValue :=
  match v.textBytes?, p.textBytes? with
  | some bs, some pat =>
    match pat with
    | [] => v
    | 0 :: _ => v
    | _ =>
      match r.textBytes? with
      | some rep => .text (replaceBytes pat rep (bs.length + 1) bs)
      | none => .null
  | _, _ => .null

/-- The 1-based position of a needle, in characters (`byChars`) or bytes; `0` if absent. -/
def findPosition (byChars : Bool) (needle : List UInt8) : Nat → Nat → List UInt8 → Nat
  | 0, _, _ => 0
  | fuel + 1, n, hay =>
    if needle.length > hay.length then 0
    else if needle.isPrefixOf hay then n
    else
      match hay with
      | [] => 0
      | _ :: rest =>
        let rest := if byChars then rest.dropWhile isContinuation else rest
        findPosition byChars needle fuel (n + 1) rest

/-- `instr(haystack, needle)`. -/
def instrValue (a b : SqlValue) : SqlValue :=
  match a, b with
  | .null, _ | _, .null => .null
  | _, _ =>
    let needle := b.textBytes
    if needle.isEmpty then .integer 1
    else
      let bothBlobs := match a, b with
        | .blob _, .blob _ => true
        | _, _ => false
      let hay := a.textBytes
      .integer (findPosition (!bothBlobs) needle (hay.length + 1) 1 hay)

/-- `char(…)`: the characters of code points; one outside `0`–`0x10FFFF` is `U+FFFD`. -/
def charValue (args : List SqlValue) : SqlValue :=
  .text (args.flatMap fun v =>
    let x := v.integerValue
    let x := if x < 0 || x > 0x10FFFF then 0xFFFD else x
    encodeCodePoint (x.toNat % Nat.pow 2 21))

/-- `unicode(x)`: the code point of the first character, `NULL` for empty text. -/
def unicodeValue (v : SqlValue) : SqlValue :=
  match v.textBytes? with
  | some (b :: rest) =>
    if b == 0 then .null
    else match readChar (b :: rest) with
      | some (c, _) => .integer c
      | none => .null
  | _ => .null

/-- `quote(x)`: a literal for the value; an integer stays an integer. -/
def quoteValue : SqlValue → SqlValue
  | .null => .ofString "NULL"
  | .integer n => .integer n
  | .real x =>
    let short := realText x
    if (readReal (bytesOf short)).value == x then .ofString short
    else .ofString (({ conversion := .exponent, precision := 20, extended := true } : RealFormat).render x)
  | .text bs => .text (39 :: doubleQuotes 39 (beforeNul bs) ++ [39])
  | .blob bs => .text (bytesOf "X'" ++ hexBytes bs ++ [39])

/-! ## Numbers -/

/-- A double as a result: NaN gives `NULL`. -/
def realResult (x : Float) : SqlValue := if x.isNaN then .null else .real x

/-- `abs(x)`. -/
def absValue : SqlValue → Except SqlError SqlValue
  | .null => .ok .null
  | .integer n => if n == minInteger then .error .integerOverflow else .ok (.integer n.natAbs)
  | v =>
    let x := v.realValue
    .ok (.real (if x < 0.0 then -x else x))

/-- `round(x[, places])`. -/
def roundValue (v : SqlValue) (places : Option SqlValue) : SqlValue :=
  match v, places with
  | .null, _ => .null
  | _, some .null => .null
  | _, _ =>
    let n := match places with
      | some p => let n := p.int32Value; if n > 30 then 30 else if n < 0 then 0 else n.toNat
      | none => 0
    let r := v.realValue
    let limit := integerToReal 4503599627370496
    if r < -limit || r > limit then .real r
    else if n == 0 then .real (integerToReal (truncateToInteger (r + (if r < 0.0 then -0.5 else 0.5))))
    else
      let text := ({ conversion := .fixed, precision := n } : RealFormat).render r
      .real (readReal (bytesOf text)).value

/-- `sign(x)`: `-1`, `0` or `1` for a number (or text that reads as one), else `NULL`. -/
def signValue (v : SqlValue) : SqlValue :=
  match v.withNumericAffinity with
  | .integer n => .integer (if n < 0 then -1 else if n > 0 then 1 else 0)
  | .real x => .integer (if x < 0.0 then -1 else if x > 0.0 then 1 else 0)
  | _ => .null

/-- The double of an argument of a mathematical function, if it is a number or text that
reads as one. -/
def mathArgument (v : SqlValue) : Option Float :=
  match v.withNumericAffinity with
  | .integer n => some (integerToReal n)
  | .real x => some x
  | _ => none

/-- A double truncated toward zero. -/
def truncFloat (x : Float) : Float := if x < 0.0 then Float.ceil x else Float.floor x

/-- The remainder of `x / y` with the sign of `x`, computed exactly. -/
def fmodFloat (x y : Float) : Float :=
  match Decimal.Extended.ofFloat? x, Decimal.Extended.ofFloat? y with
  | some a, some b =>
    if b.isZero then 0.0 / 0.0
    else
      let e := min a.exponent b.exponent
      let ma := a.significand * Nat.pow 2 (a.exponent - e).toNat
      let mb := b.significand * Nat.pow 2 (b.exponent - e).toNat
      Decimal.Extended.doubleOfBinary a.negative (ma % mb) e
  | some _, none => if y.isNaN then y else x
  | none, _ => 0.0 / 0.0

def piValue : Float := 3.141592653589793

/-- `ceil`, `floor` or `trunc`: integers stay as they are. -/
def roundingValue (f : Float → Float) (v : SqlValue) : SqlValue :=
  match v.withNumericAffinity with
  | .integer n => .integer n
  | .real x => realResult (f x)
  | _ => .null

/-- `floor(x)`: the greatest integer not above a number; too big beyond 64 bits; NaN, text,
blobs and `NULL` fail. -/
def floorValue (v : SqlValue) : Except SqlError SqlValue :=
  match v with
  | .integer n => .ok (.integer n)
  | .real x =>
    if x.isNaN then .error .userFunctionFailed
    else
      match PackageRegistry.Decimal.Extended.ofFloat? x with
      | none => .error .tooBig
      | some e =>
        let n := e.floor
        if n < minInteger || n > maxInteger then .error .tooBig else .ok (.integer n)
  | _ => .error .userFunctionFailed

/-- A mathematical function of one argument. -/
def math1 (f : Float → Float) (v : SqlValue) : SqlValue :=
  match mathArgument v with
  | some x => realResult (f x)
  | none => .null

/-- A mathematical function of two arguments. -/
def math2 (f : Float → Float → Float) (a b : SqlValue) : SqlValue :=
  match mathArgument a, mathArgument b with
  | some x, some y => realResult (f x y)
  | _, _ => .null

/-- `ln`, `log10`, `log2` or `log(b, x)`: positive arguments only. -/
def logValue (f : Float → Float) (args : List SqlValue) : SqlValue :=
  match args with
  | [v] =>
    match mathArgument v with
    | some x => if x ≤ 0.0 then .null else realResult (f x)
    | none => .null
  | [b, v] =>
    match mathArgument b with
    | some x =>
      if x ≤ 0.0 then .null
      else
        let base := Float.log x
        if base ≤ 0.0 then .null
        else
          let y := v.realValue
          if y ≤ 0.0 then .null else realResult (Float.log y / base)
    | none => .null
  | _ => .null

/-! ## Choice -/

/-- `min(…)` or `max(…)` of several values under a collation: `NULL` if any is. -/
def minMaxValue (max : Bool) (coll : Collation) (args : List SqlValue) : SqlValue :=
  if args.any (·.isNull) then .null
  else
    match args with
    | [] => .null
    | first :: rest =>
      rest.foldl (fun best v =>
        let c := SqlValue.compareWith coll best v
        if max then (if c == .lt then v else best) else (if c != .lt then v else best)) first

/-- `nullif(a, b)`: `NULL` when the two compare equal under the collation, else `a`. -/
def nullifValue (coll : Collation) (a b : SqlValue) : SqlValue :=
  if SqlValue.compareWith coll a b == .eq then .null else a

/-- `zeroblob(n)`. -/
def zeroblobValue (v : SqlValue) : Except SqlError SqlValue :=
  let n := v.integerValue
  if n > 1000000000 then .error .tooBig
  else .ok (.blob (List.replicate (if n < 0 then 0 else n.toNat) 0))

/-! ## Functions of the build -/

/-- The `soundex` code of an ASCII letter: `1` B F P V, `2` C G J K Q S X Z, `3` D T, `4` L, `5` M
N, `6` R, none (`0`) for vowels and H W Y. -/
def soundexCode (b : UInt8) : Nat :=
  let c := upperAscii (b % 128)
  if "BFPV".toUTF8.toList.contains c then 1
  else if "CGJKQSXZ".toUTF8.toList.contains c then 2
  else if "DT".toUTF8.toList.contains c then 3
  else if c == 76 then 4
  else if c == 77 || c == 78 then 5
  else if c == 82 then 6
  else 0

/-- `soundex`: the first ASCII letter uppercased, up to three codes of later letters (repeats
dropped), `0`-padded; `?000` without a letter. -/
def soundexValue (v : SqlValue) : SqlValue :=
  match (beforeNul v.textBytes).dropWhile (fun b => !isAsciiLetter b.toNat) with
  | [] => .ofString "?000"
  | first :: rest =>
    let codes := rest.foldl (fun (acc : List Nat × Nat) b =>
      if acc.1.length ≥ 3 then acc
      else
        let c := soundexCode b
        if c == 0 then (acc.1, 0) else if c == acc.2 then acc else (acc.1 ++ [c], c))
      ([], soundexCode first)
    let digits := (codes.1 ++ List.replicate (3 - codes.1.length) 0).map fun d => (48 + d).toUInt8
    .text (upperAscii first :: digits)

/-- A big-endian unsigned integer of bytes. -/
def bigEndian (bs : List UInt8) : Nat := bs.foldl (fun n b => n * 256 + b.toNat) 0

/-- The double of a 32-bit float by its bits. -/
def float32Value (bits : Nat) : Float :=
  let sign := if bits / 2147483648 % 2 == 1 then -1.0 else 1.0
  let exponent := bits / 8388608 % 256
  let mantissa := bits % 8388608
  if exponent == 255 then
    if mantissa == 0 then sign / 0.0 else 0.0 / 0.0
  else if exponent == 0 then sign * Float.scaleB (Float.ofNat mantissa) (-149)
  else sign * Float.scaleB (Float.ofNat (mantissa + 8388608)) ((exponent : Int) - 150)

/-- `rtreenode(dimensions, node)`: the cells `{rowid c1 c2 …}`; `NULL` for bad dimensions or
too short a node. -/
def rtreeNodeValue (dims node : SqlValue) : SqlValue :=
  let n := dims.int32Value
  let data := if node.isNull then [] else node.textBytes
  if n < 1 || n > 5 || data.isEmpty || data.length < 4 then .null
  else
    let perCell := 8 + 8 * n.toNat
    let count := bigEndian (data.extract 2 4)
    if data.length < count * perCell then .null
    else
      let word := fun (pos len : Nat) => bigEndian ((data.extract pos (pos + len)) ++
        List.replicate (len - ((data.drop pos).take len).length) 0)
      let cells := (List.range count).map fun i =>
        let start := 4 + i * perCell
        let rowid := word start 8
        let rowid : Int := if rowid ≥ 9223372036854775808 then rowid - 18446744073709551616 else rowid
        let coords := (List.range (2 * n.toNat)).map fun j =>
          " " ++ stringOfBytes ((printfValue [.ofString "%g", .real (float32Value (word (start + 8 + 4 * j) 4))]).textBytes)
        "\x7b" ++ toString rowid ++ String.join coords ++ "\x7d"
      .ofString (" ".intercalate cells)

/-- The tokenizers full-text search knows by name. -/
def tokenizerNames : List String := ["simple", "porter", "unicode61"]

/-- The blob `fts3_tokenizer` gives for a tokenizer: the address of its module, which a query
cannot rely on. -/
def tokenizerAddress : SqlValue := .blob (List.replicate 8 0)

/-- `fts3_tokenizer(name[, address])`: a known tokenizer's address; with an eight-byte address,
that address. -/
def tokenizerValue : List SqlValue → Except SqlError SqlValue
  | [name] =>
    match name.textBytes? with
    | some bs => if tokenizerNames.any (·.toUTF8.toList == bs) then .ok tokenizerAddress
      else .error (.unknownTokenizer (stringOfBytes (beforeNul bs)))
    | none => .error (.unknownTokenizer "")
  | [name, address] =>
    if name.isNull || address.textBytes.length != 8 then .error .argumentTypeMismatch
    else .ok (.blob address.textBytes)
  | _ => .ok .null

def engineVersion : String := "3.40.1"

def engineSourceId : String :=
  "2022-12-28 14:03:47 df5c253c0b3dd24916e4ec7cf77d3db5294cc9fd45ae7b9c5e82ad8197f38a24"

/-- A scalar function, by its upper-case name, applied to evaluated arguments, under the
collation of the call. -/
def applyScalar (coll : Collation) (name : String) (args : List Tagged) : Except SqlError Tagged := do
  let vs := args.map (·.value)
  let plain := fun (v : SqlValue) => Except.ok (Tagged.mk v false)
  match name, vs with
  | "LOWER", [v] => plain (foldValue false v)
  | "UPPER", [v] => plain (foldValue true v)
  | "LENGTH", [v] => plain (lengthValue v)
  | "ABS", [v] => plain (← absValue v)
  | "TYPEOF", [v] => plain (.ofString v.typeName)
  | "NULLIF", [a, b] => plain (nullifValue coll a b)
  | "INSTR", [a, b] => plain (instrValue a b)
  | "TRIM", v :: rest => plain (trimValue true true v rest.head?)
  | "LTRIM", v :: rest => plain (trimValue true false v rest.head?)
  | "RTRIM", v :: rest => plain (trimValue false true v rest.head?)
  | "SUBSTR", v :: s :: rest | "SUBSTRING", v :: s :: rest =>
    if s.isNull || rest.any (·.isNull) then plain .null
    else plain (substrValue v s.int32Value (rest.head?.map (·.int32Value)))
  | "REPLACE", [v, p, r] => plain (replaceValue v p r)
  | "MIN", vs => plain (minMaxValue false coll vs)
  | "MAX", vs => plain (minMaxValue true coll vs)
  | "UNICODE", [v] => plain (unicodeValue v)
  | "CHAR", vs => plain (charValue vs)
  | "HEX", [v] => plain (.text (hexBytes v.textBytes))
  | "QUOTE", [v] => plain (quoteValue v)
  | "SIGN", [v] => plain (signValue v)
  | "ZEROBLOB", [v] => plain (← zeroblobValue v)
  | "RANDOMBLOB", [v] =>
    let n := v.integerValue
    plain (.blob (List.replicate (if n < 1 then 1 else n.toNat) 0))
  | "RANDOM", [] => plain (.integer 0)
  | "ROUND", v :: rest => plain (roundValue v rest.head?)
  | "LIKE", [p, v] => plain (← matchPattern false p v none)
  | "LIKE", [p, v, e] => plain (← matchPattern false p v (some e))
  | "GLOB", [p, v] => plain (← matchPattern true p v none)
  | "MATCH", _ => throw (.functionContext "MATCH")
  | "REGEXP", [p, v] => plain (← regexpValue p v)
  | "PRINTF", vs | "FORMAT", vs => plain (printfValue vs)
  | "SQLITE_VERSION", [] => plain (.ofString engineVersion)
  | "SQLITE_SOURCE_ID", [] => plain (.ofString engineSourceId)
  | "SQLITE_COMPILEOPTION_USED", [v] =>
    plain (match v.textBytes? with
      | some bs => .integer (if compileOptionUsed (beforeNul bs) then 1 else 0)
      | none => .null)
  | "SQLITE_COMPILEOPTION_GET", [v] =>
    plain ((compileOptionAt? v.int32Value).map SqlValue.ofString |>.getD .null)
  | "SOUNDEX", [v] => plain (soundexValue v)
  | "SUBTYPE", [_] => plain (.integer (if args.any (·.json) then 74 else 0))
  | "SQLITE_LOG", [_, _] => plain .null
  | "LOAD_EXTENSION", _ => throw .notAuthorized
  | "FTS5", [_] => plain .null
  | "FTS5_SOURCE_ID", [] => plain (.ofString ("fts5: " ++ engineSourceId))
  | "RTREEDEPTH", [v] =>
    match v with
    | .blob (a :: b :: _) => plain (.integer (a.toNat * 256 + b.toNat))
    | _ => throw .rtreeDepthArgument
  | "RTREENODE", [d, node] => plain (rtreeNodeValue d node)
  | "FTS3_TOKENIZER", vs => plain (← tokenizerValue vs)
  | "MATCHINFO", _ | "SNIPPET", _ | "OFFSETS", _ | "OPTIMIZE", _ | "HIGHLIGHT", _ | "BM25", _ =>
    throw (.functionContext name.toLower)
  | "CEIL", [v] | "CEILING", [v] => plain (roundingValue Float.ceil v)
  | "FLOOR", [v] => plain (← floorValue v)
  | "TRUNC", [v] => plain (roundingValue truncFloat v)
  | "LN", vs => plain (logValue Float.log vs)
  | "LOG", [v] => plain (logValue Float.log10 [v])
  | "LOG", [b, v] => plain (logValue Float.log [b, v])
  | "LOG10", vs => plain (logValue Float.log10 vs)
  | "LOG2", vs => plain (logValue Float.log2 vs)
  | "EXP", [v] => plain (math1 Float.exp v)
  | "SQRT", [v] => plain (math1 Float.sqrt v)
  | "SIN", [v] => plain (math1 Float.sin v)
  | "COS", [v] => plain (math1 Float.cos v)
  | "TAN", [v] => plain (math1 Float.tan v)
  | "ASIN", [v] => plain (math1 Float.asin v)
  | "ACOS", [v] => plain (math1 Float.acos v)
  | "ATAN", [v] => plain (math1 Float.atan v)
  | "SINH", [v] => plain (math1 Float.sinh v)
  | "COSH", [v] => plain (math1 Float.cosh v)
  | "TANH", [v] => plain (math1 Float.tanh v)
  | "ASINH", [v] => plain (math1 Float.asinh v)
  | "ACOSH", [v] => plain (math1 Float.acosh v)
  | "ATANH", [v] => plain (math1 Float.atanh v)
  | "DEGREES", [v] => plain (math1 (fun x => x * (180.0 / piValue)) v)
  | "RADIANS", [v] => plain (math1 (fun x => x * (piValue / 180.0)) v)
  | "PI", [] => plain (.real piValue)
  | "ATAN2", [a, b] => plain (math2 Float.atan2 a b)
  | "POW", [a, b] | "POWER", [a, b] => plain (math2 Float.pow a b)
  | "MOD", [a, b] => plain (math2 fmodFloat a b)
  | _, _ =>
    match applyDateFunction name vs with
    | some v => plain v
    | none =>
      match applyJsonFunction name args with
      | some r => r
      | none => throw (.noSuchFunction name)

end PackageRegistry.Sql
