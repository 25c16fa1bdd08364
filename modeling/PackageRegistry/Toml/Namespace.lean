import PackageRegistry.Toml.Value
/-!
# Namespaces of a TOML document

While reading, a key path may be *frozen* (inside an inline value, never changed again) or
*explicit* (opened by a header or dotted key, not to be opened by a header again).
-/

namespace PackageRegistry.Toml

/-! ## Marks on key paths -/

/-- The two marks a key path can carry. -/
inductive PathMark where
  | frozen
  | explicit
  deriving Repr, BEq, DecidableEq

/-- A mark on a path, for the path alone or, when `recursive`, for every path below it too. -/
structure MarkEntry where
  path : List String
  mark : PathMark
  recursive : Bool
  deriving Repr, BEq

abbrev Marks := List MarkEntry

/-- Whether `p` is a proper, non-empty prefix of `q`. -/
def isStrictAncestor (p q : List String) : Bool :=
  !p.isEmpty && p.length < q.length && p.isPrefixOf q

/-- Whether a path carries a mark, on itself or through a recursive mark above it. The
document root carries none. -/
def Marks.has (ms : Marks) (path : List String) (mark : PathMark) : Bool :=
  !path.isEmpty && ms.any fun e =>
    e.mark == mark && (e.path == path || (e.recursive && isStrictAncestor e.path path))

def Marks.add (ms : Marks) (path : List String) (mark : PathMark) (recursive : Bool) : Marks :=
  ms ++ [⟨path, mark, recursive⟩]

def Marks.clearBelow (ms : Marks) (path : List String) : Marks :=
  ms.filter fun e => !path.isPrefixOf e.path

/-! ## Changing the table along a key path -/

/-- Why a nest cannot be reached or a key cannot be set in it. -/
inductive NestFault where
  /-- A key on the path holds something other than a table. -/
  | noNest
  /-- The key to be set is already defined. -/
  | occupied
  deriving Repr, BEq, DecidableEq

/-- Replaces the value of a key, keeping its place. -/
def replaceMember (members : TomlTable) (key : String) (v : TomlValue) : TomlTable :=
  members.map fun kv => if kv.1 == key then (key, v) else kv

/-- Changes the nest at a key path by `f`; missing keys become empty tables; `throughArrays`
enters an array's last item. -/
def modifyNest (throughArrays : Bool) (f : TomlTable → Except NestFault TomlTable) :
    List String → TomlTable → Except NestFault TomlTable
  | [], members => f members
  | k :: ks, members =>
    match members.lookup k with
    | none => do
      let inner ← modifyNest throughArrays f ks []
      .ok (members ++ [(k, .table inner)])
    | some (.table inner) => do
      let inner ← modifyNest throughArrays f ks inner
      .ok (replaceMember members k (.table inner))
    | some (.array items) =>
      if throughArrays then
        match items.getLast? with
        | some (.table inner) => do
          let inner ← modifyNest throughArrays f ks inner
          .ok (replaceMember members k (.array (items.dropLast ++ [.table inner])))
        | _ => .error .noNest
      else .error .noNest
    | some _ => .error .noNest

/-- Defines a new key in the nest at a path. -/
def defineAt (throughArrays : Bool) (parent : List String) (key : String) (v : TomlValue)
    (members : TomlTable) : Except NestFault TomlTable :=
  modifyNest throughArrays (fun nest =>
    if (nest.lookup key).isSome then .error .occupied else .ok (nest ++ [(key, v)]))
    parent members

/-- Makes sure the nest at a path exists. -/
def openNest (path : List String) (members : TomlTable) : Except NestFault TomlTable :=
  modifyNest true .ok path members

/-- Adds an empty table to the array of tables at a path, starting the array if the key is new. -/
def appendNest : List String → TomlTable → Except NestFault TomlTable
  | [], _ => .error .noNest
  | path, members =>
    let key := path.getLast?.getD ""
    modifyNest true (fun nest =>
      match nest.lookup key with
      | none => .ok (nest ++ [(key, .array [.table []])])
      | some (.array items) => .ok (replaceMember nest key (.array (items ++ [.table []])))
      | some _ => .error .noNest)
      path.dropLast members

end PackageRegistry.Toml
