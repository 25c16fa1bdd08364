import PackageRegistry.Sql.Syntax
/-!
# JSON text

The JSON functions read text as a document, walk it by paths (`$`, `.key`, `[N]`, `[#-N]`), edit
it and write it back, keeping numbers and strings as written.
-/

namespace PackageRegistry.Sql

/-- A value with whether it carries the JSON subtype, set on JSON results and read on
arguments. -/
structure Tagged where
  value : SqlValue
  json : Bool := false
  deriving Repr

/-- An object member's name: as written between quotes (escapes kept), or given by a path. -/
inductive JsonKey where
  | written (text : List UInt8)
  | given (text : List UInt8)
  deriving Repr

/-- A read JSON document: numbers and strings keep their text; items and members a removed
flag; an edited node its value. -/
inductive JsonNode where
  | null
  | bool (b : Bool)
  | number (real : Bool) (text : List UInt8)
  | string (text : List UInt8) (escaped : Bool)
  | array (items : List (JsonNode × Bool))
  | object (members : List (JsonKey × JsonNode × Bool))
  | given (value : Tagged)

/-! ## Reading -/

/-- Whether a byte is a blank between JSON tokens. -/
def isJsonSpace (b : UInt8) : Bool := b == 32 || b == 9 || b == 10 || b == 13

/-- Whether a byte is a hexadecimal digit. -/
def isHexByte (b : UInt8) : Bool := isDigitByte b || (97 ≤ b && b ≤ 102) || (65 ≤ b && b ≤ 70)

def hexDigitValue (b : UInt8) : Nat :=
  if isDigitByte b then digitValue b else (b.toNat ||| 32) - 87

/-- Whether a byte is an ASCII letter or digit. -/
def isAlnumByte (b : UInt8) : Bool := isDigitByte b || (97 ≤ b && b ≤ 122) || (65 ≤ b && b ≤ 90)

/-- A string's rest after its quote: text, whether it has escapes, and what follows. -/
def scanString (escaped : Bool) (acc : List UInt8) : List UInt8 → Option (List UInt8 × Bool × List UInt8)
  | [] => none
  | c :: rest =>
    if c < 32 then none
    else if c == 34 then some (acc.reverse, escaped, rest)
    else if c == 92 then
      match rest with
      | e :: more =>
        if e == 34 || e == 92 || e == 47 || e == 98 || e == 102 || e == 110 || e == 114 ||
            e == 116 || (e == 117 && (more.take 4).length == 4 && (more.take 4).all isHexByte) then
          scanString true (e :: c :: acc) more
        else none
      | [] => none
    else scanString escaped (c :: acc) rest

/-- A number's rest after byte `prev`: text, whether it has a point or exponent, and what
follows. -/
def scanNumber (prev : UInt8) (point exp : Bool) (acc : List UInt8) :
    List UInt8 → Option (List UInt8 × Bool × List UInt8)
  | [] => if prev < 48 then none else some (acc.reverse, point, [])
  | c :: rest =>
    if isDigitByte c then scanNumber c point exp (c :: acc) rest
    else if c == 46 then
      if prev == 45 || point then none else scanNumber c true exp (c :: acc) rest
    else if c == 101 || c == 69 then
      if prev < 48 || exp then none
      else
        match rest with
        | s :: more =>
          if s == 43 || s == 45 then
            match more with
            | d :: tail => if isDigitByte d then scanNumber d true true (d :: s :: c :: acc) tail else none
            | [] => none
          else if isDigitByte s then scanNumber s true true (s :: c :: acc) more
          else none
        | [] => none
    else if prev < 48 then none
    else some (acc.reverse, point, c :: rest)

/-- A number starting with `-` or a digit, refusing a leading zero before more digits. -/
def readJsonNumber (c : UInt8) (rest : List UInt8) : Option (JsonNode × List UInt8) :=
  let body := if c == 45 then rest else c :: rest
  match body with
  | 48 :: d :: _ => if isDigitByte d then none else go
  | _ => go
where
  go := (scanNumber c false false [c] rest).map fun (t, real, r) => (.number real t, r)

/-- The greatest nesting of containers. -/
def maxJsonDepth : Nat := 2000

mutual

/-- A JSON value at the start of text (after blanks) at a depth, and the text after it. -/
def readJsonValue : Nat → Nat → List UInt8 → Option (JsonNode × List UInt8)
  | 0, _, _ => none
  | fuel + 1, depth, bs =>
    match bs.dropWhile isJsonSpace with
    | 123 :: rest => readJsonMembers fuel depth [] rest true
    | 91 :: rest => readJsonItems fuel depth [] rest true
    | 34 :: rest => (scanString false [] rest).map fun (t, e, r) => (.string t e, r)
    | 110 :: 117 :: 108 :: 108 :: rest =>
      if rest.head?.any isAlnumByte then none else some (.null, rest)
    | 116 :: 114 :: 117 :: 101 :: rest =>
      if rest.head?.any isAlnumByte then none else some (.bool true, rest)
    | 102 :: 97 :: 108 :: 115 :: 101 :: rest =>
      if rest.head?.any isAlnumByte then none else some (.bool false, rest)
    | c :: rest => if c == 45 || isDigitByte c then readJsonNumber c rest else none
    | [] => none

/-- An array's items after `[` or `,`, those so far reversed; `first` while `]` may end an empty
array. -/
def readJsonItems : Nat → Nat → List (JsonNode × Bool) → List UInt8 → Bool →
    Option (JsonNode × List UInt8)
  | 0, _, _, _, _ => none
  | fuel + 1, depth, acc, bs, first =>
    if depth + 1 > maxJsonDepth then none
    else
      match bs.dropWhile isJsonSpace with
      | 93 :: rest => if first then some (.array [], rest) else none
      | bs => do
        let (v, rest) ← readJsonValue fuel (depth + 1) bs
        match rest.dropWhile isJsonSpace with
        | 44 :: more => readJsonItems fuel depth ((v, false) :: acc) more false
        | 93 :: more => some (.array ((v, false) :: acc).reverse, more)
        | _ => none

/-- An object's members after `{` or `,`, those so far reversed; `first` while `}` may end an
empty object. -/
def readJsonMembers : Nat → Nat → List (JsonKey × JsonNode × Bool) → List UInt8 → Bool →
    Option (JsonNode × List UInt8)
  | 0, _, _, _, _ => none
  | fuel + 1, depth, acc, bs, first =>
    if depth + 1 > maxJsonDepth then none
    else
      match bs.dropWhile isJsonSpace with
      | 125 :: rest => if first then some (.object [], rest) else none
      | 34 :: rest => do
        let (key, _, rest) ← scanString false [] rest
        match rest.dropWhile isJsonSpace with
        | 58 :: rest =>
          let (v, rest) ← readJsonValue fuel (depth + 1) rest
          match rest.dropWhile isJsonSpace with
          | 44 :: more => readJsonMembers fuel depth ((.written key, v, false) :: acc) more false
          | 125 :: more => some (.object ((.written key, v, false) :: acc).reverse, more)
          | _ => none
        | _ => none
      | _ => none

end

/-- Text read as a JSON document, up to its first zero byte; none when it is malformed. -/
def JsonNode.parse? (bs : List UInt8) : Option JsonNode := do
  let bs := beforeNul bs
  let (v, rest) ← readJsonValue (2 * bs.length + 4) 0 bs
  if (rest.dropWhile isJsonSpace).isEmpty then some v else none

/-- A value's text read as a JSON document: none for `NULL`, a failure when malformed. -/
def parseArgument (v : SqlValue) : Except SqlError (Option JsonNode) :=
  match v.textBytes? with
  | none => .ok none
  | some bs =>
    match JsonNode.parse? bs with
    | some n => .ok (some n)
    | none => .error .malformedJson

/-! ## Writing -/

/-- Lower-case hexadecimal digits. -/
def lowerHexDigit (n : Nat) : UInt8 := if n < 10 then (48 + n).toUInt8 else (87 + n).toUInt8

def escapeJsonByte (c : UInt8) : List UInt8 :=
  if c == 34 || c == 92 then [92, c]
  else if c == 8 then [92, 98]
  else if c == 9 then [92, 116]
  else if c == 10 then [92, 110]
  else if c == 12 then [92, 102]
  else if c == 13 then [92, 114]
  else if c < 32 then [92, 117, 48, 48, lowerHexDigit (c.toNat / 16), lowerHexDigit (c.toNat % 16)]
  else [c]

/-- Text as a quoted JSON string. -/
def quoteJson (bs : List UInt8) : List UInt8 := 34 :: bs.flatMap escapeJsonByte ++ [34]

/-- An SQL value embedded in JSON text; a blob is refused. -/
def embedValue (v : Tagged) : Except SqlError (List UInt8) :=
  match v.value with
  | .null => .ok (bytesOf "null")
  | .integer _ | .real _ => .ok v.value.textBytes
  | .text bs => .ok (if v.json then bs else quoteJson bs)
  | .blob _ => .error .jsonArrayValue

def commaJoined (pieces : List (List UInt8)) : List UInt8 :=
  match pieces with
  | [] => []
  | p :: ps => p ++ ps.flatMap (44 :: ·)

/-- A member name as written back. -/
def JsonKey.render : JsonKey → List UInt8
  | .written t => 34 :: t ++ [34]
  | .given t => quoteJson t

mutual

/-- A node written as JSON text, without blanks; removed items and members are left out. -/
def JsonNode.render : JsonNode → Except SqlError (List UInt8)
  | .null => .ok (bytesOf "null")
  | .bool true => .ok (bytesOf "true")
  | .bool false => .ok (bytesOf "false")
  | .number _ t => .ok t
  | .string t _ => .ok (34 :: t ++ [34])
  | .given v => embedValue v
  | .array items => do
    let body ← renderItems items
    .ok (91 :: commaJoined body ++ [93])
  | .object members => do
    let body ← renderMembers members
    .ok (123 :: commaJoined body ++ [125])

/-- The items of an array that are kept, each written. -/
def renderItems : List (JsonNode × Bool) → Except SqlError (List (List UInt8))
  | [] => .ok []
  | (n, removed) :: rest => do
    let tail ← renderItems rest
    if removed then .ok tail else .ok ((← n.render) :: tail)

/-- The members of an object that are kept, each written as `name:value`. -/
def renderMembers : List (JsonKey × JsonNode × Bool) → Except SqlError (List (List UInt8))
  | [] => .ok []
  | (k, n, removed) :: rest => do
    let tail ← renderMembers rest
    if removed then .ok tail else .ok ((k.render ++ 58 :: (← n.render)) :: tail)

end

/-- A node written as JSON text carrying the JSON subtype. -/
def JsonNode.toJson (n : JsonNode) : Except SqlError Tagged := do
  return ⟨.text (← n.render), true⟩

/-! ## Values of nodes -/

/-- The code point of four hexadecimal digits. -/
def hex4 (a b c d : UInt8) : Nat :=
  ((hexDigitValue a * 16 + hexDigitValue b) * 16 + hexDigitValue c) * 16 + hexDigitValue d

/-- The bytes of a code point below `0x10000` by the UTF-8 layout, surrogates included. -/
def utf8Bytes (v : Nat) : List UInt8 :=
  if v ≤ 0x7f then [v.toUInt8]
  else if v ≤ 0x7ff then [(0xc0 ||| (v >>> 6)).toUInt8, (0x80 ||| (v &&& 0x3f)).toUInt8]
  else if v ≤ 0xffff then
    [(0xe0 ||| (v >>> 12)).toUInt8, (0x80 ||| ((v >>> 6) &&& 0x3f)).toUInt8,
      (0x80 ||| (v &&& 0x3f)).toUInt8]
  else
    [(0xf0 ||| (v >>> 18)).toUInt8, (0x80 ||| ((v >>> 12) &&& 0x3f)).toUInt8,
      (0x80 ||| ((v >>> 6) &&& 0x3f)).toUInt8, (0x80 ||| (v &&& 0x3f)).toUInt8]

/-- A piece of string text: a byte, plain or after a one-letter escape, or a `\u` code point. -/
inductive EscapeUnit where
  | byte (b : UInt8)
  | code (v : Nat)

/-- The pieces of a string's text. -/
def escapeUnits : List UInt8 → List EscapeUnit
  | [] => []
  | 92 :: 117 :: a :: b :: c :: d :: rest => .code (hex4 a b c d) :: escapeUnits rest
  | 92 :: c :: rest =>
    let d := if c == 98 then 8 else if c == 102 then 12 else if c == 110 then 10
      else if c == 114 then 13 else if c == 116 then 9 else c
    .byte d :: escapeUnits rest
  | c :: rest => .byte c :: escapeUnits rest

def isHighSurrogate (v : Nat) : Bool := v &&& 0xfc00 == 0xd800

def isLowSurrogate (v : Nat) : Bool := v &&& 0xfc00 == 0xdc00

/-- A string's bytes: a surrogate pair one character, a lone surrogate three bytes; zero ends
it. -/
def joinEscapes (pending : Option Nat) : List EscapeUnit → List UInt8
  | [] => (pending.map utf8Bytes).getD []
  | .byte b :: rest => (pending.map utf8Bytes).getD [] ++ b :: joinEscapes none rest
  | .code v :: rest =>
    match pending with
    | some hi =>
      if isLowSurrogate v then
        utf8Bytes (((hi &&& 0x3ff) <<< 10) + (v &&& 0x3ff) + 0x10000) ++ joinEscapes none rest
      else if v == 0 then utf8Bytes hi
      else if isHighSurrogate v then utf8Bytes hi ++ joinEscapes (some v) rest
      else utf8Bytes hi ++ utf8Bytes v ++ joinEscapes none rest
    | none =>
      if v == 0 then []
      else if isHighSurrogate v then joinEscapes (some v) rest
      else utf8Bytes v ++ joinEscapes none rest

/-- The text of a string with its escapes decoded. -/
def decodeEscapes (bs : List UInt8) : List UInt8 := joinEscapes none (escapeUnits bs)

/-- The SQL value of an integer's text: an integer when it fits in 64 bits, else a double. -/
def jsonIntegerValue (t : List UInt8) : SqlValue :=
  let (negative, ds) := match t with
    | 45 :: r => (true, r)
    | _ => (false, t)
  let u := ds.foldl (fun acc b => acc * 10 + digitValue b) 0
  if negative && u == Nat.pow 2 63 then .integer minInteger
  else if u < Nat.pow 2 63 then .integer (if negative then -(u : Int) else u)
  else .real (readReal t).value

def JsonNode.toValue (n : JsonNode) : Except SqlError Tagged :=
  match n with
  | .null => .ok ⟨.null, false⟩
  | .bool b => .ok ⟨.integer (if b then 1 else 0), false⟩
  | .number false t => .ok ⟨jsonIntegerValue t, false⟩
  | .number true t => .ok ⟨.real (readReal t).value, false⟩
  | .string t escaped => .ok ⟨.text (if escaped then decodeEscapes t else t), false⟩
  | .given v => .ok v
  | _ => n.toJson

def JsonNode.typeName : JsonNode → String
  | .null => "null"
  | .bool true => "true"
  | .bool false => "false"
  | .number false _ => "integer"
  | .number true _ => "real"
  | .string .. => "text"
  | .array _ => "array"
  | .object _ => "object"
  | .given _ => "null"

/-! ## Paths -/

/-- A path step fitting its node: a member name or the position among items not removed; with
the rest of the path. -/
inductive PathStep where
  | key (name rest : List UInt8)
  | index (n : Nat) (rest : List UInt8)

/-- The member name after a dot: quoted, or to the next dot or bracket; with the rest of the
path, or where it goes wrong. -/
def readKey (path : List UInt8) : Except (List UInt8) (List UInt8 × List UInt8) :=
  match path with
  | 34 :: rest =>
    let name := rest.takeWhile (· != 34)
    match rest.drop name.length with
    | _ :: more => .ok (name, more)
    | [] => .error path
  | _ =>
    let name := path.takeWhile fun b => b != 46 && b != 91
    if name.isEmpty then .error path else .ok (name, path.drop name.length)

/-- Decimal digits as an unsigned 32-bit number, wrapping. -/
def digits32 (ds : List UInt8) : Nat := ds.foldl (fun acc b => (acc * 10 + digitValue b) % Nat.pow 2 32) 0

/-- The items of an array that are not removed. -/
def liveCount (items : List (JsonNode × Bool)) : Nat := (items.filter (!·.2)).length

/-- The next step of a path from a node: none when it reaches nothing, or where the path goes
wrong. -/
def nextStep (node : JsonNode) (path : List UInt8) : Except (List UInt8) (Option PathStep) :=
  match path with
  | 46 :: after =>
    match node with
    | .object _ => do
      let (name, rest) ← readKey after
      .ok (some (.key name rest))
    | _ => .ok none
  | 91 :: after =>
    let ds := after.takeWhile isDigitByte
    match ds.isEmpty, after.drop ds.length with
    | false, 93 :: rest =>
      match node with
      | .array _ => .ok (some (.index (digits32 ds) rest))
      | _ => .ok none
    | _, _ =>
      match after, node with
      | 35 :: afterHash, .array items =>
        let count := liveCount items
        let (back, tail) := match afterHash with
          | 45 :: d :: more =>
            if isDigitByte d then
              let bs := (d :: more).takeWhile isDigitByte
              (digits32 bs, (d :: more).drop bs.length)
            else (0, afterHash)
          | _ => (0, afterHash)
        if back > count then .ok none
        else
          match tail with
          | 93 :: rest => .ok (some (.index (count - back) rest))
          | _ => .error path
      | 35 :: _, _ => .ok none
      | _, _ => .error path
  | _ => .error path

/-- The position in an item list of the `n`-th item not removed. -/
def livePosition (items : List (JsonNode × Bool)) (n : Nat) : Option Nat :=
  let live := (items.zipIdx.filter fun (item, _) => !item.2).map (·.2)
  live[n]?

/-- The node a path (after its `$`) reaches from a node, or the text where it goes wrong.
`fuel` bounds the steps. -/
def JsonNode.lookup : Nat → JsonNode → List UInt8 → Except (List UInt8) (Option JsonNode)
  | 0, _, _ => .ok none
  | fuel + 1, node, path =>
    match path, node with
    | [], _ => .ok (some node)
    | _, .given _ => .ok none
    | _, _ => do
      match ← nextStep node path, node with
      | some (.key name rest), .object members =>
        match members.find? fun (k, _, _) => match k with
          | .written t | .given t => t == name with
        | some (_, v, _) => v.lookup fuel rest
        | none => .ok none
      | some (.index n rest), .array items =>
        match (livePosition items n).bind (items[·]?) with
        | some (v, _) => v.lookup fuel rest
        | none => .ok none
      | _, _ => .ok none

/-- The failure of a path that goes wrong at some text. -/
def pathError (near : List UInt8) : SqlError :=
  .jsonPath (stringOfBytes (near.flatMap fun b => if b == 39 then [39, 39] else [b]))

/-- The node a whole path reaches: a path must start with `$`. -/
def JsonNode.find (root : JsonNode) (path : List UInt8) : Except SqlError (Option JsonNode) :=
  let path := beforeNul path
  match path with
  | 36 :: rest => (root.lookup (rest.length + 1) rest).mapError pathError
  | _ => .error (pathError path)

/-! ## Editing -/

/-- An edit at a path: replace an existing node, set (replace or add), insert (only add), or
remove. -/
inductive JsonEdit where
  | replace (v : Tagged)
  | set (v : Tagged)
  | insert (v : Tagged)
  | remove

/-- The value an edit adds where its path reaches nothing, if it adds. -/
def JsonEdit.added : JsonEdit → Option Tagged
  | .set v | .insert v => some v
  | _ => none

/-- The node a path (after `$`) builds around an added value: objects for names, an array for
`[0]`, none otherwise. -/
def newBranch : Nat → Tagged → List UInt8 → Except (List UInt8) (Option JsonNode)
  | 0, _, _ => .ok none
  | fuel + 1, v, path =>
    match path with
    | [] => .ok (some (.given v))
    | 46 :: after => do
      let (name, rest) ← readKey after
      let inner ← newBranch fuel v rest
      .ok (inner.map fun n => .object [(.given name, n, false)])
    | 91 :: 48 :: 93 :: rest => do
      let inner ← newBranch fuel v rest
      .ok (inner.map fun n => .array [(n, false)])
    | _ => .ok none

/-- A node after an edit at a path (after `$`), with whether it was removed; or where the path
goes wrong. -/
def JsonNode.edit : Nat → JsonEdit → JsonNode → List UInt8 → Except (List UInt8) (JsonNode × Bool)
  | 0, _, node, _ => .ok (node, false)
  | fuel + 1, e, node, path =>
    match path, node with
    | [], _ =>
      match e with
      | .replace v | .set v => .ok (.given v, false)
      | .insert _ => .ok (node, false)
      | .remove => .ok (node, true)
    | _, .given _ => .ok (node, false)
    | _, _ => do
      match ← nextStep node path, node with
      | some (.key name rest), .object members =>
        match members.findIdx? fun (k, _, _) => match k with
          | .written t | .given t => t == name with
        | some i =>
          match members[i]? with
          | some (k, v, removed) => do
            let (v, gone) ← v.edit fuel e rest
            .ok (.object (members.set i (k, v, removed || gone)), false)
          | none => .ok (node, false)
        | none =>
          match e.added with
          | some v => do
            match ← newBranch (rest.length + 1) v rest with
            | some n => .ok (.object (members ++ [(.given name, n, false)]), false)
            | none => .ok (node, false)
          | none => .ok (node, false)
      | some (.index n rest), .array items =>
        match livePosition items n with
        | some p =>
          match items[p]? with
          | some (v, removed) => do
            let (v, gone) ← v.edit fuel e rest
            .ok (.array (items.set p (v, removed || gone)), false)
          | none => .ok (node, false)
        | none =>
          match e.added with
          | some v =>
            if n == liveCount items then do
              match ← newBranch (rest.length + 1) v rest with
              | some b => .ok (.array (items ++ [(b, false)]), false)
              | none => .ok (node, false)
            else .ok (node, false)
          | none => .ok (node, false)
      | _, _ => .ok (node, false)

/-- A document after an edit at a whole path, with whether the root was removed. -/
def JsonNode.editAt (root : JsonNode) (e : JsonEdit) (path : List UInt8) :
    Except SqlError (JsonNode × Bool) :=
  let path := beforeNul path
  match path with
  | 36 :: rest => (root.edit (rest.length + 1) e rest).mapError pathError
  | _ => .error (pathError path)

/-! ## Merging -/

/-- An object with its `null` members removed, and theirs, through nested objects. -/
def JsonNode.withoutNulls : JsonNode → JsonNode
  | .object members => .object (withoutNullMembers members)
  | n => n
where
  withoutNullMembers : List (JsonKey × JsonNode × Bool) → List (JsonKey × JsonNode × Bool)
    | [] => []
    | (k, n, removed) :: rest =>
      let n' := match n with
        | .object ms => JsonNode.object (withoutNullMembers ms)
        | other => other
      let gone := match n with
        | .null => true
        | _ => false
      (k, n', removed || gone) :: withoutNullMembers rest

def bothObjects : JsonNode → JsonNode → Bool
  | .object _, .object _ => true
  | _, _ => false

def JsonNode.isNull : JsonNode → Bool
  | .null => true
  | _ => false

/-- Whether a member name is the same text as another. -/
def JsonKey.sameText : JsonKey → JsonKey → Bool
  | .written a, .written b | .written a, .given b | .given a, .written b | .given a, .given b =>
    a == b

mutual

/-- RFC 7396 merge: a non-object patch replaces; an object patch removes (`null`), merges or
adds members. -/
def mergePatch (target : JsonNode) : JsonNode → JsonNode
  | .object patchMembers =>
    match target with
    | .object members =>
      let (merged, added) := mergeMembers members.length
        (members.map fun (k, n, r) => (k, n, r, r)) [] patchMembers
      .object (merged.map (fun (k, n, r, _) => (k, n, r)) ++ added)
    | _ => JsonNode.withoutNulls (.object patchMembers)
  | patch => patch

/-- The target's members and those added after each patch member; only the first `original`
match by name. -/
def mergeMembers (original : Nat) (members : List (JsonKey × JsonNode × Bool × Bool))
    (added : List (JsonKey × JsonNode × Bool)) :
    List (JsonKey × JsonNode × Bool) →
      List (JsonKey × JsonNode × Bool × Bool) × List (JsonKey × JsonNode × Bool)
  | [] => (members, added)
  | (pk, pv, _) :: rest =>
    match (members.take original).findIdx? fun (k, _, _, _) => k.sameText pk with
    | some i =>
      match members[i]? with
      | some (k, tv, removed, touched) =>
        if touched then mergeMembers original members added rest
        else if pv.isNull then
          mergeMembers original (members.set i (k, tv, true, true)) added rest
        else
          let merged := mergePatch tv pv
          mergeMembers original
            (members.set i (k, merged, removed, !bothObjects tv pv)) added rest
      | none => mergeMembers original members added rest
    | none =>
      if pv.isNull then mergeMembers original members added rest
      else mergeMembers original members (added ++ [(pk, pv.withoutNulls, false)]) rest

end

/-! ## The functions -/

/-- The text of a value, none for `NULL`. -/
def pathText (v : Tagged) : Option (List UInt8) := v.value.textBytes?

/-- A path for the `->` operators: `$…` as is, a number an index, other text a name. -/
def arrowPath (p : List UInt8) : List UInt8 :=
  let p := beforeNul p
  match p with
  | 36 :: rest =>
    match rest with
    | [] | 46 :: _ | 91 :: _ => p
    | _ => bytesOf "$." ++ p
  | c :: _ =>
    if isDigitByte c then bytesOf "$[" ++ p ++ [93]
    else if c == 91 then 36 :: p
    else bytesOf "$." ++ p
  | [] => bytesOf "$."

/-- `json_extract`: one path gives the value reached (`NULL` if none), several a JSON array
(`null` for none). -/
def extractValue (doc : JsonNode) (paths : List Tagged) : Except SqlError Tagged :=
  match paths with
  | [p] =>
    match pathText p with
    | none => .ok ⟨.null, false⟩
    | some path => do
      match ← doc.find path with
      | some n => n.toValue
      | none => .ok ⟨.null, false⟩
  | _ => do
    let pieces ← paths.mapM fun p => do
      match pathText p with
      | none => pure (bytesOf "null")
      | some path =>
        match ← doc.find path with
        | some n => n.render
        | none => pure (bytesOf "null")
    .ok ⟨.text (91 :: commaJoined pieces ++ [93]), true⟩

/-- Edits of `json_set`/`json_insert`/`json_replace` pair by pair (`NULL` path skipped): the
document or the new root. -/
def applyEdits (make : Tagged → JsonEdit) (doc : JsonNode) : List Tagged → Except SqlError Tagged
  | p :: v :: rest =>
    match pathText p with
    | none => applyEdits make doc rest
    | some path => do
      let (doc, _) ← doc.editAt (make v) path
      applyEdits make doc rest
  | _ =>
    match doc with
    | .given v => .ok v
    | _ => doc.toJson

/-- `json_remove`'s removals, `gone` if the root went: `NULL` for a `NULL` path or removed root;
later paths still walked. -/
def applyRemovals (doc : JsonNode) (gone : Bool) : List Tagged → Except SqlError Tagged
  | [] => if gone then .ok ⟨.null, false⟩ else doc.toJson
  | p :: rest =>
    match pathText p with
    | none => .ok ⟨.null, false⟩
    | some path => do
      let (doc, g) ← doc.editAt .remove path
      applyRemovals doc (gone || g) rest

/-- The members of `json_object`: a label that is not text is refused first, then a blob
value. -/
def objectMembers : List Tagged → Except SqlError (List (List UInt8))
  | k :: v :: rest =>
    match k.value with
    | .text label => do
      let tail ← objectMembers rest
      let value ← embedValue v
      .ok ((quoteJson label ++ 58 :: value) :: tail)
    | _ => .error .jsonLabels
  | _ => .ok []

/-- Whether an argument list is empty. -/
def noArguments (args : List Tagged) : Bool := args.isEmpty

/-- A JSON function, by its upper-case name, applied to its arguments; none when the name is
not one of them. -/
def applyJsonFunction (name : String) (args : List Tagged) : Option (Except SqlError Tagged) :=
  let nullValue : Except SqlError Tagged := .ok ⟨.null, false⟩
  let withDoc := fun (f : JsonNode → List Tagged → Except SqlError Tagged) =>
    match args with
    | d :: rest => do
      match ← parseArgument d.value with
      | some doc => f doc rest
      | none => nullValue
    | [] => nullValue
  let edits := fun (label : String) (make : Tagged → JsonEdit) =>
    if noArguments args then nullValue
    else if args.length % 2 == 0 then .error (.jsonOddArguments label)
    else withDoc fun doc rest => applyEdits make doc rest
  match name with
  | "JSON" => some (withDoc fun doc _ => doc.toJson)
  | "JSON_ARRAY" => some do
    let pieces ← args.mapM embedValue
    .ok ⟨.text (91 :: commaJoined pieces ++ [93]), true⟩
  | "JSON_OBJECT" => some do
    if args.length % 2 == 1 then throw .jsonObjectArguments
    let pieces ← objectMembers args
    .ok ⟨.text (123 :: commaJoined pieces ++ [125]), true⟩
  | "JSON_QUOTE" => some do
    match args with
    | [v] => .ok ⟨.text (← embedValue v), true⟩
    | _ => nullValue
  | "JSON_VALID" => some do
    match args with
    | [v] =>
      match v.value.textBytes? with
      | some bs => .ok ⟨.integer (if (JsonNode.parse? bs).isSome then 1 else 0), false⟩
      | none => .ok ⟨.integer 0, false⟩
    | _ => nullValue
  | "JSON_EXTRACT" =>
    if args.length < 2 then some nullValue
    else some (withDoc fun doc paths => extractValue doc paths)
  | "->" | "->>" =>
    some (withDoc fun doc rest =>
      match rest.head?.bind pathText with
      | none => nullValue
      | some p => do
        match ← doc.find (arrowPath p) with
        | some n => if name == "->" then n.toJson else do
            let v ← n.toValue
            .ok ⟨v.value, false⟩
        | none => nullValue)
  | "JSON_TYPE" =>
    some (withDoc fun doc rest =>
      match rest with
      | [] => .ok ⟨.ofString doc.typeName, false⟩
      | p :: _ =>
        match pathText p with
        | none => nullValue
        | some path => do
          match ← doc.find path with
          | some n => .ok ⟨.ofString n.typeName, false⟩
          | none => nullValue)
  | "JSON_ARRAY_LENGTH" =>
    some (withDoc fun doc rest => do
      let node ← match rest with
        | [] => pure (some doc)
        | p :: _ =>
          match pathText p with
          | none => pure none
          | some path => doc.find path
      match node with
      | some (.array items) => .ok ⟨.integer (liveCount items), false⟩
      | some _ => .ok ⟨.integer 0, false⟩
      | none => nullValue)
  | "JSON_SET" => some (edits "set" .set)
  | "JSON_INSERT" => some (edits "insert" .insert)
  | "JSON_REPLACE" => some (edits "replace" .replace)
  | "JSON_REMOVE" =>
    if noArguments args then some nullValue
    else some (withDoc fun doc paths => applyRemovals doc false paths)
  | "JSON_PATCH" =>
    some (match args with
      | [t, p] => do
        match ← parseArgument t.value with
        | none => nullValue
        | some target =>
          match ← parseArgument p.value with
          | none => nullValue
          | some patch => (mergePatch target patch).toJson
      | _ => nullValue)
  | _ => none

/-- `json_group_array` of the values of a group: a JSON array of them all. -/
def groupArrayValue (values : List Tagged) : Except SqlError Tagged := do
  let pieces ← values.mapM embedValue
  .ok ⟨.text (91 :: commaJoined pieces ++ [93]), true⟩

/-- `json_group_object` of a group's pairs; a `NULL` label writes nothing before its colon. -/
def groupObjectValue (pairs : List (Tagged × Tagged)) : Except SqlError Tagged := do
  let pieces ← pairs.mapM fun (k, v) => do
    let label := (k.value.textBytes?.map quoteJson).getD []
    return label ++ 58 :: (← embedValue v)
  .ok ⟨.text (123 :: commaJoined pieces ++ [125]), true⟩

end PackageRegistry.Sql
