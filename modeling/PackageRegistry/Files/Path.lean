import PackageRegistry.Text.Quoted
/-!
# Paths and the files under them

A POSIX path is an anchor and the parts between slashes, empty parts and `.` dropped; `~` is the
home directory. A path exists when it can be walked part by part, `..` stepping up.
-/

namespace PackageRegistry.Files

open PackageRegistry.Text

/-! ## Path names -/

/-- A path: its anchor and its parts. -/
structure PathName where
  anchor : String
  parts : List String
  deriving Repr, BEq, DecidableEq

def PathName.parse (s : String) : PathName :=
  let anchor :=
    if s.startsWith "//" && !s.startsWith "///" then "//"
    else if s.startsWith "/" then "/"
    else ""
  ⟨anchor, (s.splitOn "/").filter fun p => p != "" && p != "."⟩

def PathName.text (p : PathName) : String :=
  if p.anchor.isEmpty && p.parts.isEmpty then "." else p.anchor ++ "/".intercalate p.parts

/-- Whether a path starts at an anchor. -/
def PathName.isAbsolute (p : PathName) : Bool := !p.anchor.isEmpty

/-- `q` below `p`, or `q` itself when it is absolute. -/
def PathName.join (p q : PathName) : PathName :=
  if q.isAbsolute then q else ⟨p.anchor, p.parts ++ q.parts⟩

/-- A path below `p` by its text. -/
def PathName.child (p : PathName) (name : String) : PathName :=
  p.join (PathName.parse name)

def PathName.parent (p : PathName) : PathName := ⟨p.anchor, p.parts.dropLast⟩

/-- The last part of a path. -/
def PathName.name (p : PathName) : String := p.parts.getLast?.getD ""

/-- Why a home directory cannot be found. -/
inductive HomeError where
  | unknownUser (name : String)
  deriving Repr, BEq, DecidableEq

/-- The text of a missing home. -/
def HomeError.message : HomeError → String
  | .unknownUser _ => "Could not determine home directory."

/-- The home directory of an account as a path: without trailing slashes, and the root when
nothing is left. -/
def accountHome (dir : String) : PathName :=
  let trimmed := String.ofList (dir.toList.reverse.dropWhile (· = '/')).reverse
  PathName.parse (if trimmed.isEmpty then "/" else trimmed)

/-- Replaces a leading `~` by the home directory, and `~name` by the home of account `name`. -/
def PathName.expandUser (home : String) (accounts : List (String × String)) (p : PathName) :
    Except HomeError PathName :=
  if p.isAbsolute then .ok p
  else
    match p.parts with
    | first :: rest =>
      if first == "~" then .ok ((PathName.parse home).join ⟨"", rest⟩)
      else if first.startsWith "~" then
        let name := (first.drop 1).toString
        match accounts.lookup name with
        | some dir => .ok ((accountHome dir).join ⟨"", rest⟩)
        | none => .error (.unknownUser name)
      else .ok p
    | [] => .ok p

/-- A password file's accounts: per line, the first field the name and the sixth the home. -/
def accountsOfTable (text : String) : List (String × String) :=
  (text.splitOn "\n").filterMap fun line =>
    match line.splitOn ":" with
    | name :: _ :: _ :: _ :: _ :: dir :: _ => some (name, dir)
    | _ => none

/-- The parts of a path with `..` folded into the part before it; `..` at the anchor stays
there. -/
def foldParents (parts : List String) : List String :=
  (parts.foldl (fun acc part => if part == ".." then acc.drop 1 else part :: acc) []).reverse

/-- A path made absolute against a directory, with `..` folded. -/
def PathName.resolveIn (p cwd : PathName) : PathName :=
  let abs := cwd.join p
  ⟨abs.anchor, foldParents abs.parts⟩

/-- Whether a path is too long once every part is reached: a part over 255 bytes or the whole
over 4095. -/
def PathName.isTooLong (p : PathName) : Bool :=
  p.parts.any (fun part => part.utf8ByteSize > 255) || p.text.utf8ByteSize > 4095

/-- The system's text for a path refused as too long. -/
def nameTooLongMessage (p : PathName) : String :=
  "[Errno 36] File name too long: " ++ quoted p.text

/-! ## The files a command sees -/

/-- What stands at a path. -/
inductive Entry where
  | missing
  | directory
  | file (contents : String)
  deriving Repr, BEq, DecidableEq

/-- Directories and files by absolute path, with the home and working directories and the
accounts of the machine. -/
structure Workspace where
  home : String
  cwd : String
  /-- The accounts of the machine: each name with its home directory. -/
  accounts : List (String × String) := []
  directories : List String := []
  files : List (String × String) := []
  deriving Repr

/-- The absolute parts of every listed entry. -/
def Workspace.listed (ws : Workspace) : List (List String) :=
  (ws.home :: ws.cwd :: ws.directories ++ ws.files.map Prod.fst).map fun s => (PathName.parse s).parts

/-- Whether absolute parts name a directory: the root, or an ancestor of a listed entry, or a
listed directory. -/
def Workspace.isDirectoryParts (ws : Workspace) (parts : List String) : Bool :=
  parts.isEmpty ||
    ws.listed.any (fun l => parts.length < l.length && parts.isPrefixOf l) ||
    (ws.home :: ws.cwd :: ws.directories).any fun d => (PathName.parse d).parts == parts

/-- The file at absolute parts. -/
def Workspace.fileAt? (ws : Workspace) (parts : List String) : Option String :=
  (ws.files.find? fun f => (PathName.parse f.1).parts == parts).map Prod.snd

/-- What stands at absolute parts. -/
def Workspace.entryAtParts (ws : Workspace) (parts : List String) : Entry :=
  match ws.fileAt? parts with
  | some contents => .file contents
  | none => if ws.isDirectoryParts parts then .directory else .missing

/-- Walks parts from a directory: `..` steps up, others must exist, all but the last
directories. -/
def Workspace.walk (ws : Workspace) : List String → List String → Entry
  | here, [] => ws.entryAtParts here
  | here, part :: rest =>
    let next := if part == ".." then here.dropLast else here ++ [part]
    match ws.entryAtParts next with
    | .missing => .missing
    | .file contents => if rest.isEmpty then .file contents else .missing
    | .directory => ws.walk next rest

/-- What stands at a path, relative ones taken from the working directory. -/
def Workspace.entryAt (ws : Workspace) (p : PathName) : Entry :=
  let abs := (PathName.parse ws.cwd).join p
  ws.walk [] abs.parts

/-- Whether looking up parts from a directory reaches a part over 255 bytes through existing
directories. -/
def Workspace.reachesLongPart (ws : Workspace) : List String → List String → Bool
  | _, [] => false
  | here, part :: rest =>
    if part.utf8ByteSize > 255 then true
    else
      let next := if part == ".." then here.dropLast else here ++ [part]
      match ws.entryAtParts next with
      | .directory => ws.reachesLongPart next rest
      | _ => false

/-- Whether the system refuses a path as too long: over 4095 bytes, or reaching a part over 255
bytes; relative paths from the working directory. -/
def Workspace.refusesAsTooLong (ws : Workspace) (p : PathName) : Bool :=
  p.text.utf8ByteSize > 4095 || ws.reachesLongPart [] ((PathName.parse ws.cwd).join p).parts

/-- Whether something stands at a path. -/
def Workspace.exists (ws : Workspace) (p : PathName) : Bool :=
  ws.entryAt p != .missing

/-! ## Opening files -/

/-- Why a file cannot be opened for reading. -/
inductive OpenFault where
  | noSuchFile
  | isDirectory
  /-- A part before the last is a file. -/
  | notDirectory
  deriving Repr, BEq, DecidableEq

/-- The system's text for an open fault. -/
def OpenFault.reason : OpenFault → String
  | .noSuchFile => "No such file or directory"
  | .isDirectory => "Is a directory"
  | .notDirectory => "Not a directory"

/-- Walks parts to open a file, telling a missing part, a final directory and an inner file
apart. -/
def Workspace.openWalk (ws : Workspace) : List String → List String → Except OpenFault String
  | here, [] =>
    match ws.entryAtParts here with
    | .file contents => .ok contents
    | .directory => .error .isDirectory
    | .missing => .error .noSuchFile
  | here, part :: rest =>
    let next := if part == ".." then here.dropLast else here ++ [part]
    match ws.entryAtParts next with
    | .missing => .error .noSuchFile
    | .file contents => if rest.isEmpty then .ok contents else .error .notDirectory
    | .directory => ws.openWalk next rest

/-- The contents of the file at a path, relative ones taken from the working directory. -/
def Workspace.readFile (ws : Workspace) (path : String) : Except OpenFault String :=
  ws.openWalk [] ((PathName.parse ws.cwd).join (PathName.parse path)).parts

/-- Makes a directory and its parents; refused when it or a part of the way is a file, or the
path is too long. -/
def Workspace.makeDirectories (ws : Workspace) (dir : PathName) : Except String Workspace :=
  if dir.isTooLong then .error (nameTooLongMessage dir)
  else
  match ws.entryAt dir with
  | .directory => .ok ws
  | .file _ => .error ("[Errno 17] File exists: " ++ quoted dir.text)
  | .missing =>
    let abs := (PathName.parse ws.cwd).join dir
    let prefixes := (List.range abs.parts.length).map fun n => PathName.mk abs.anchor (abs.parts.take (n + 1))
    if prefixes.any (fun p => match ws.entryAt p with
        | .file _ => true
        | _ => false) then
      .error ("[Errno 20] Not a directory: " ++ quoted dir.text)
    else .ok { ws with directories := ws.directories ++ [abs.text] }

end PackageRegistry.Files
