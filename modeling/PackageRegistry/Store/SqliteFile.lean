import PackageRegistry.Files.Path
import PackageRegistry.Text.Utf8
/-!
# Where a SQLite database is opened

A database is opened by a file name, or, when URIs are asked for and it starts with `file:`, a
URI with options; `:memory:` and the empty name open memory.
-/

namespace PackageRegistry.Store

open PackageRegistry.Files PackageRegistry.Text

/-- How a database file is opened. -/
inductive Access where
  /-- For reading only; the file must exist. -/
  | readOnly
  /-- For reading and writing; the file must exist. -/
  | readWrite
  /-- For reading and writing, the file created when missing. -/
  | create
  deriving Repr, BEq, DecidableEq

/-- Where a database is opened. -/
inductive SqliteTarget where
  | memory
  | file (path : PathName) (access : Access)
  /-- The driver refuses the name, with the text of its error. -/
  | refused (reason : String)
  deriving Repr, BEq

/-! ## Octets -/

/-- The UTF-8 octets of text, as numbers. -/
def octets (s : String) : List Nat := (utf8Bytes s).map (·.toNat)

/-- The text of octets, a faulty UTF-8 span becoming a replacement character. -/
def octetText (bs : List Nat) : String := decodeUtf8Lenient (bs.map UInt8.ofNat)

/-- The value of an octet that is an ASCII hexadecimal digit. -/
def hexOctet? (b : Nat) : Option Nat :=
  if 48 ≤ b && b ≤ 57 then some (b - 48)
  else if 65 ≤ b && b ≤ 70 then some (b - 55)
  else if 97 ≤ b && b ≤ 102 then some (b - 87)
  else none

/-- A part of a URI with its escapes `%HH` decoded, up to an escaped zero octet. -/
def decodeUriPart : List Nat → List Nat
  | b :: h :: l :: more =>
    if b = 37 then
      match hexOctet? h, hexOctet? l with
      | some x, some y => if x * 16 + y = 0 then [] else (x * 16 + y) :: decodeUriPart more
      | _, _ => 37 :: decodeUriPart (h :: l :: more)
    else b :: decodeUriPart (h :: l :: more)
  | bs => bs
termination_by bs => bs.length
decreasing_by all_goals simp only [List.length_cons]; all_goals omega

/-! ## URIs -/

/-- A `file:` URI's rest less its authority, or the authority if not empty or `localhost`. -/
def withoutAuthority (cs : List Nat) : Except (List Nat) (List Nat) :=
  match cs with
  | 47 :: 47 :: rest =>
    let host := rest.takeWhile (· != 47)
    if host.isEmpty || host == octets "localhost" then .ok (rest.drop host.length)
    else .error host
  | _ => .ok cs

/-- The options of a URI's query, each a decoded name and value; an option with an empty name
is left out. -/
def uriOptions (query : List Nat) : List (List Nat × List Nat) :=
  (query.splitOn 38).filterMap fun field =>
    let name := decodeUriPart (field.takeWhile (· != 61))
    let value := decodeUriPart ((field.dropWhile (· != 61)).drop 1)
    if name.isEmpty then none else some (name, value)

/-- What a URI's options ask so far: access, in-memory, the system layer named. -/
structure UriSettings where
  access : Access := .create
  inMemory : Bool := false
  layer : Option (List Nat) := none

def systemLayers : List String := ["unix", "unix-none", "unix-dotfile", "unix-excl", "memdb"]

/-- The settings with one more option read, or the refusal of its value. -/
def UriSettings.read (s : UriSettings) (option : List Nat × List Nat) : Except String UriSettings :=
  let (name, value) := option
  if name == octets "vfs" then .ok { s with layer := some value }
  else if name == octets "cache" then
    if value == octets "shared" || value == octets "private" then .ok s
    else .error ("no such cache mode: " ++ octetText value)
  else if name == octets "mode" then
    if value == octets "ro" then .ok { s with access := .readOnly, inMemory := false }
    else if value == octets "rw" then .ok { s with access := .readWrite, inMemory := false }
    else if value == octets "rwc" then .ok { s with access := .create, inMemory := false }
    else if value == octets "memory" then .ok { s with inMemory := true }
    else .error ("no such access mode: " ++ octetText value)
  else .ok s

/-- Where a URI opens a database, given its part after `file:`; paths are taken from `cwd`. -/
def uriTarget (cwd : PathName) (afterScheme : List Nat) : SqliteTarget :=
  match withoutAuthority afterScheme with
  | .error host => .refused ("invalid uri authority: " ++ octetText host)
  | .ok rest =>
    let rest := rest.takeWhile (· != 35)
    let path := octetText (decodeUriPart (rest.takeWhile (· != 63)))
    match (uriOptions ((rest.dropWhile (· != 63)).drop 1)).foldlM UriSettings.read {} with
    | .error reason => .refused reason
    | .ok s =>
      let layer := (s.layer.map octetText).getD "unix"
      if !systemLayers.contains layer then .refused ("no such vfs: " ++ layer)
      else if s.inMemory || layer == "memdb" || path.isEmpty || path == ":memory:" then .memory
      else .file ((PathName.parse path).resolveIn cwd) s.access

/-- Where a file name opens a database: a URI if `uri` and it starts with `file:`, else plainly;
paths from `cwd`. -/
def sqliteTarget (cwd : PathName) (uri : Bool) (name : String) : SqliteTarget :=
  let bytes := octets name
  if uri && bytes.take 5 == octets "file:" then uriTarget cwd (bytes.drop 5)
  else if name.isEmpty || name == ":memory:" then .memory
  else .file ((PathName.parse name).resolveIn cwd) .create

end PackageRegistry.Store
