import PackageRegistry.Sql.Pragmas
import PackageRegistry.Sql.JsonText
/-!
# Table-valued functions

A function read as a table gives visible columns, then hidden ones holding its arguments; extra
arguments are refused, a `NULL` or missing one gives no rows.
-/

namespace PackageRegistry.Sql

/-- The table-valued functions. -/
inductive TableFunction where
  | jsonEach
  | jsonTree
  | tableInfo
  | tableExtendedInfo
  | indexList
  | indexInfo
  | indexExtendedInfo
  | foreignKeyList
  | tableList
  /-- Another pragma read as a table. -/
  | pragma (p : Pragma)
  | pageStatistics
  | statements
  | tokens
  deriving Repr, BEq, DecidableEq

/-- The function of a name, compared without case. -/
def TableFunction.ofName? (name : String) : Option TableFunction :=
  if sameName name "json_each" then some .jsonEach
  else if sameName name "json_tree" then some .jsonTree
  else if sameName name "pragma_table_info" then some .tableInfo
  else if sameName name "pragma_table_xinfo" then some .tableExtendedInfo
  else if sameName name "pragma_index_list" then some .indexList
  else if sameName name "pragma_index_info" then some .indexInfo
  else if sameName name "pragma_index_xinfo" then some .indexExtendedInfo
  else if sameName name "pragma_foreign_key_list" then some .foreignKeyList
  else if sameName name "pragma_table_list" then some .tableList
  else if sameName name "dbstat" then some .pageStatistics
  else if sameName name "sqlite_stmt" then some .statements
  else if sameName name "fts3tokenize" then some .tokens
  else (pragmaOfTable? name).map .pragma

def TableFunction.name : TableFunction → String
  | .jsonEach => "json_each"
  | .jsonTree => "json_tree"
  | .tableInfo => "pragma_table_info"
  | .tableExtendedInfo => "pragma_table_xinfo"
  | .indexList => "pragma_index_list"
  | .indexInfo => "pragma_index_info"
  | .indexExtendedInfo => "pragma_index_xinfo"
  | .foreignKeyList => "pragma_foreign_key_list"
  | .tableList => "pragma_table_list"
  | .pragma p => "pragma_" ++ p.name
  | .pageStatistics => "dbstat"
  | .statements => "sqlite_stmt"
  | .tokens => "fts3tokenize"

/-- Columns of these names, without affinity. -/
def plainColumns (names : List String) : List Column :=
  names.map fun n => { name := n, affinity := .none }

/-- Columns of these names and affinities. -/
def typedColumns (columns : List (String × Affinity)) : List Column :=
  columns.map fun (n, a) => { name := n, affinity := a }

def TableFunction.columns : TableFunction → List Column
  | .jsonEach | .jsonTree =>
    plainColumns ["key", "value", "type", "atom", "id", "parent", "fullkey", "path"]
  | .tableInfo => plainColumns ["cid", "name", "type", "notnull", "dflt_value", "pk"]
  | .tableExtendedInfo =>
    plainColumns ["cid", "name", "type", "notnull", "dflt_value", "pk", "hidden"]
  | .indexList => plainColumns ["seq", "name", "unique", "origin", "partial"]
  | .indexInfo => plainColumns ["seqno", "cid", "name"]
  | .indexExtendedInfo => plainColumns ["seqno", "cid", "name", "desc", "coll", "key"]
  | .foreignKeyList =>
    plainColumns ["id", "seq", "table", "from", "to", "on_update", "on_delete", "match"]
  | .tableList => plainColumns ["schema", "name", "type", "ncol", "wr", "strict"]
  | .pragma p => plainColumns p.columnNames
  | .pageStatistics =>
    typedColumns [("name", .text), ("path", .text), ("pageno", .integer), ("pagetype", .text),
      ("ncell", .integer), ("payload", .integer), ("unused", .integer), ("mx_payload", .integer),
      ("pgoffset", .integer), ("pgsize", .integer)]
  | .statements =>
    typedColumns [("sql", .text), ("ncol", .integer), ("ro", .integer), ("busy", .integer),
      ("nscan", .integer), ("nsort", .integer), ("naidx", .integer), ("nstep", .integer),
      ("reprep", .integer), ("run", .integer), ("mem", .integer)]
  | .tokens => plainColumns ["input", "token", "start", "end", "position"]

/-- The hidden columns of a function, which take its arguments in order. -/
def TableFunction.hidden : TableFunction → List Column
  | .jsonEach | .jsonTree => plainColumns ["json", "root"]
  | .tableList => plainColumns ["arg"]
  | .pragma p => plainColumns p.hiddenNames
  | .pageStatistics => typedColumns [("schema", .text), ("aggregate", .numeric)]
  | .statements | .tokens => []
  | _ => plainColumns ["arg", "schema"]

/-- The source a function is read as: under its alias, if it has one. -/
def TableFunction.source (f : TableFunction) (asName : Option String) : Source :=
  { table := asName.getD f.name, columns := f.columns, hidden := f.hidden, rowid := .trailing }

/-! ## Walking a JSON document -/

mutual

/-- The number of nodes of a document, a member's name counting as one. -/
def JsonNode.size : JsonNode → Nat
  | .array items => 1 + itemsSize items
  | .object members => 1 + membersSize members
  | _ => 1

/-- The number of nodes of the items of an array. -/
def itemsSize : List (JsonNode × Bool) → Nat
  | [] => 0
  | (n, _) :: rest => n.size + itemsSize rest

/-- The number of nodes of the members of an object, their names included. -/
def membersSize : List (JsonKey × JsonNode × Bool) → Nat
  | [] => 0
  | (_, n, _) :: rest => 1 + n.size + membersSize rest

end

/-- The text of a member's name as written. -/
def JsonKey.text : JsonKey → List UInt8
  | .written t | .given t => t

/-- A member's name as the `key` column reads it: with its escapes decoded. -/
def JsonKey.keyValue (k : JsonKey) : SqlValue :=
  let t := k.text
  .text (if t.contains 92 then decodeEscapes t else t)

def isAsciiLetterByte (c : UInt8) : Bool := (65 ≤ c && c ≤ 90) || (97 ≤ c && c ≤ 122)

/-- Whether a member's name stands bare in a path: an ASCII letter, then letters and digits. -/
def isBareStepName : List UInt8 → Bool
  | c :: rest => isAsciiLetterByte c && rest.all fun d => isAsciiLetterByte d || (48 ≤ d && d ≤ 57)
  | [] => false

/-- The path step to a member: a dot and its name as written, quoted unless bare; a path-given
name as given. -/
def memberStep : JsonKey → List UInt8
  | .written t => 46 :: (if isBareStepName t then t else 34 :: t ++ [34])
  | .given t => 46 :: t

/-- The path step to an item: its position in brackets. -/
def itemStep (k : Nat) : List UInt8 := 91 :: bytesOf (toString k) ++ [93]

/-- A JSON walk row before its values: node, key, id, container's id, path, container's path. -/
structure JsonRow where
  node : JsonNode
  key : SqlValue
  id : Nat
  parent : Option Nat
  fullKey : List UInt8
  path : List UInt8

mutual

/-- The rows of a tree walk from a node on: the node, then everything below it in order. -/
def treeRows (node : JsonNode) (id : Nat) (key : SqlValue) (parent : Option Nat)
    (fullKey path : List UInt8) : List JsonRow :=
  ⟨node, key, id, parent, fullKey, path⟩ ::
    match node with
    | .array items => itemTreeRows id fullKey 0 (id + 1) items
    | .object members => memberTreeRows id fullKey (id + 1) members
    | _ => []

/-- The rows of a tree walk over the items of an array, from the `k`-th, whose id is `next`. -/
def itemTreeRows (container : Nat) (above : List UInt8) (k next : Nat) :
    List (JsonNode × Bool) → List JsonRow
  | [] => []
  | (n, _) :: rest =>
    treeRows n next (.integer k) (some container) (above ++ itemStep k) above ++
      itemTreeRows container above (k + 1) (next + n.size) rest

/-- The rows of a tree walk over the members of an object, the first one's name having id
`next`. -/
def memberTreeRows (container : Nat) (above : List UInt8) (next : Nat) :
    List (JsonKey × JsonNode × Bool) → List JsonRow
  | [] => []
  | (k, n, _) :: rest =>
    treeRows n (next + 1) k.keyValue (some container) (above ++ memberStep k) above ++
      memberTreeRows container above (next + 1 + n.size) rest

end

/-- `json_each` rows over array items from the `k`-th, ids from `next`, paths from `root`. -/
def itemEachRows (root : List UInt8) (k next : Nat) : List (JsonNode × Bool) → List JsonRow
  | [] => []
  | (n, _) :: rest =>
    ⟨n, .integer k, next, none, root ++ itemStep k, root⟩ :: itemEachRows root (k + 1) (next + n.size) rest

/-- `json_each` rows over object members, ids from `next`, paths from `root`. -/
def memberEachRows (root : List UInt8) (next : Nat) : List (JsonKey × JsonNode × Bool) → List JsonRow
  | [] => []
  | (k, n, _) :: rest =>
    ⟨n, k.keyValue, next + 1, none, root ++ memberStep k, root⟩ ::
      memberEachRows root (next + 1 + n.size) rest

/-- Where a path leads: node, id, member name, path as walked, and container's path. -/
structure JsonPlace where
  node : JsonNode
  id : Nat
  label : Option JsonKey
  fullKey : List UInt8
  path : List UInt8

/-- The first member of a name, names' ids from `next`: its name, value and name's id. -/
def memberNamed (name : List UInt8) (next : Nat) :
    List (JsonKey × JsonNode × Bool) → Option (JsonKey × JsonNode × Nat)
  | [] => none
  | (k, n, _) :: rest =>
    if k.text == name then some (k, n, next) else memberNamed name (next + 1 + n.size) rest

/-- The `k`-th item among items whose first has id `next`: the item and its id. -/
def itemNumbered (next : Nat) : Nat → List (JsonNode × Bool) → Option (JsonNode × Nat)
  | _, [] => none
  | 0, (n, _) :: _ => some (n, next)
  | k + 1, (n, _) :: rest => itemNumbered (next + n.size) k rest

/-- Where a path (after `$`) leads from a place, none if nowhere, or where the path goes
wrong. -/
def JsonPlace.follow : Nat → JsonPlace → List UInt8 → Except (List UInt8) (Option JsonPlace)
  | 0, _, _ => .ok none
  | fuel + 1, place, path =>
    match path, place.node with
    | [], _ => .ok (some place)
    | _, .given _ => .ok none
    | _, node => do
      match ← nextStep node path, node with
      | some (.key name rest), .object members =>
        match memberNamed name (place.id + 1) members with
        | some (k, v, labelId) =>
          JsonPlace.follow fuel
            ⟨v, labelId + 1, some k, place.fullKey ++ memberStep k, place.fullKey⟩ rest
        | none => .ok none
      | some (.index n rest), .array items =>
        match itemNumbered (place.id + 1) n items with
        | some (v, itemId) =>
          JsonPlace.follow fuel ⟨v, itemId, none, place.fullKey ++ itemStep 0, place.fullKey⟩ rest
        | none => .ok none
      | _, _ => .ok none

def JsonPlace.root (doc : JsonNode) : JsonPlace := ⟨doc, 0, none, [36], [36]⟩

/-- The rows of `json_each` at a place, whose paths start with `root`. -/
def eachRows (place : JsonPlace) (root : List UInt8) : List JsonRow :=
  match place.node with
  | .array items => itemEachRows root 0 (place.id + 1) items
  | .object members => memberEachRows root (place.id + 1) members
  | node => [⟨node, .null, place.id, none, root, root⟩]

/-- The rows of `json_tree` from a place. -/
def walkRows (place : JsonPlace) : List JsonRow :=
  let key := match place.label with
    | some k => k.keyValue
    | none => .null
  treeRows place.node place.id key none place.fullKey place.path

/-- The values of a row of a JSON walk, its hidden columns holding the document and the
root path. -/
def JsonRow.values (r : JsonRow) (json root : SqlValue) : Except SqlError (List Tagged) := do
  let value ← r.node.toValue
  let isContainer := match r.node with
    | .array _ | .object _ => true
    | _ => false
  let plainOf := fun (v : SqlValue) => (⟨v, false⟩ : Tagged)
  return [plainOf r.key, value, plainOf (.ofString r.node.typeName),
    if isContainer then plainOf .null else value, plainOf (.integer r.id),
    plainOf ((r.parent.map fun p => SqlValue.integer p).getD .null),
    plainOf (.text r.fullKey), plainOf (.text r.path), plainOf json, plainOf root]

/-- The rows of `json_each` (or `json_tree`, when `tree`) for its arguments. -/
def jsonTableRows (tree : Bool) (args : List SqlValue) : Except SqlError (List (List Tagged)) :=
  match args with
  | [] => .ok []
  | json :: rest =>
    match json.textBytes? with
    | none => .ok []
    | some text =>
      match JsonNode.parse? text with
      | none => .error .malformedJson
      | some doc => do
        let start ← match rest with
          | [] => .ok (some (JsonPlace.root doc, [36]))
          | rootArg :: _ =>
            match rootArg.textBytes? with
            | none => .ok none
            | some rootText =>
              match beforeNul rootText with
              | 36 :: steps =>
                match (JsonPlace.follow (steps.length + 1) (JsonPlace.root doc) steps).mapError pathError with
                | .ok (some place) => .ok (some (place, rootText))
                | .ok none => .ok none
                | .error e => .error e
              | other => .error (pathError other)
        match start with
        | none => .ok []
        | some (place, root) =>
          let rows := if tree then walkRows place else eachRows place root
          let text := SqlValue.text text
          rows.mapM (·.values text (.text root))

/-! ## Table information -/

/-- The rows of `pragma_table_info` (with `hidden` when `extended`) for its arguments. -/
def tableInfoRows (db : Database) (extended : Bool) (args : List SqlValue) :
    List (List Tagged) :=
  let plainOf := fun (v : SqlValue) => (⟨v, false⟩ : Tagged)
  match args with
  | [] => []
  | arg :: rest =>
    match arg.textBytes? with
    | none => []
    | some name =>
      match db.find? (stringOfBytes name) with
      | none => []
      | some t =>
        let schema := rest.headD .null
        t.declared.zipIdx.map fun (c, i) =>
          ([SqlValue.integer i, .ofString c.name, .ofString c.declaredType,
            .integer (if c.notNull then 1 else 0), (c.default.map SqlValue.ofString).getD .null,
            .integer c.primaryKey] ++ (if extended then [SqlValue.integer 0] else []) ++
            [arg, schema]).map plainOf

/-! ## Indexes, foreign keys and tables -/

/-- The definition of a table, by its name in any case. -/
def Database.defNamed? (db : Database) (name : String) : Option TableDef :=
  db.defs.find? (sameName ·.name name)

/-- A pragma's first argument's name, with hidden `arg` and `schema` values; none for `NULL` or
none. -/
def pragmaTarget? (args : List SqlValue) : Option (String × List SqlValue) :=
  match args with
  | [] => none
  | arg :: rest => arg.textBytes?.map fun bs => (stringOfBytes bs, [arg, rest.headD .null])

/-- Values without the JSON subtype. -/
def plainRow (vs : List SqlValue) : List Tagged := vs.map fun v => ⟨v, false⟩

def indexListRows (db : Database) (args : List SqlValue) : List (List Tagged) :=
  match pragmaTarget? args with
  | none => []
  | some (name, hidden) =>
    match db.defNamed? name with
    | none => []
    | some t =>
      t.allIndexes.reverse.zipIdx.map fun (i, k) =>
        plainRow ([.integer k, .ofString i.name, .integer (if i.unique then 1 else 0),
          .ofString i.origin, .integer 0] ++ hidden)

/-- The index of a name among the tables' indexes, with its table. -/
def Database.indexNamed? (db : Database) (name : String) : Option (TableDef × IndexInfo) :=
  db.defs.findSome? fun t => (t.allIndexes.find? (sameName ·.name name)).map (t, ·)

/-- The rows of `pragma_index_info`, or of `pragma_index_xinfo` when `extended`. -/
def indexInfoRows (db : Database) (extended : Bool) (args : List SqlValue) :
    List (List Tagged) :=
  match pragmaTarget? args with
  | none => []
  | some (name, hidden) =>
    match db.indexNamed? name with
    | none => []
    | some (t, i) =>
      let place := fun (c : String) => ((t.columns.findIdx? (sameName ·.name c)).getD 0 : Int)
      let keys := i.columns.zipIdx.map fun (c, k) =>
        [SqlValue.integer k, .integer (place c), .ofString c] ++
          (if extended then [.integer 0, .ofString "BINARY", .integer 1] else [])
      let rowid := [SqlValue.integer i.columns.length, .integer (-1), .null, .integer 0,
        .ofString "BINARY", .integer 0]
      (keys ++ (if extended then [rowid] else [])).map fun r => plainRow (r ++ hidden)

def foreignKeyRows (db : Database) (args : List SqlValue) : List (List Tagged) :=
  match pragmaTarget? args with
  | none => []
  | some (name, hidden) =>
    match db.defNamed? name with
    | none => []
    | some t =>
      let keys := t.constraints.filterMap fun
        | .foreignKey cs target rs => some (cs, target, rs)
        | _ => none
      keys.reverse.zipIdx.flatMap fun ((cs, target, rs), id) =>
        cs.zipIdx.map fun (c, k) =>
          plainRow ([.integer id, .integer k, .ofString target, .ofString c,
            ((rs.drop k).head?.map SqlValue.ofString).getD .null, .ofString "NO ACTION",
            .ofString "NO ACTION", .ofString "NONE"] ++ hidden)

/-- `pragma_table_list` rows: each table's schema, name and column count, unless another table
is named. -/
def tableListRows (db : Database) (args : List SqlValue) : List (List Tagged) :=
  let arg := args.headD .null
  let wanted := arg.textBytes?.map stringOfBytes
  let tables := db.defs.reverse.map (fun t => ("main", t.name, t.name, t.columns.length)) ++
    [("main", "sqlite_master", "sqlite_schema", 5), ("temp", "sqlite_temp_master", "sqlite_temp_schema", 5)]
  (tables.filter fun (_, n, _, _) => wanted.all (sameName · n)).map fun (schema, _, shown, ncol) =>
    plainRow [.ofString schema, .ofString shown, .ofString "table", .integer ncol, .integer 0,
      .integer 0, arg]

/-- The rows of a pragma's table for its arguments, each ending with its hidden columns. -/
def pragmaRows (db : Database) (p : Pragma) (args : List SqlValue) :
    Except SqlError (List (List Tagged)) := do
  let given := fun (k : Nat) => argumentText (args.getD k .null)
  let (arg, schema) :=
    if p.takesArgument then (given 0, given 1) else (SqlValue.null, given 0)
  let hidden := (if p.takesArgument then [arg] else []) ++ (if p.takesSchema then [schema] else [])
  let rows ← p.values db arg schema
  pure (rows.map fun r => plainRow (r ++ hidden))

/-- The rows of `dbstat` for its schema and whether it gives one row for each tree. -/
def pageStatisticsRows (db : Database) (args : List SqlValue) : List (List Tagged) :=
  let schema := args.headD .null
  let aggregate := ((args.getD 1 .null).truth?).getD false
  let known := match schema.textBytes? with
    | some bs => sameName (stringOfBytes bs) "main"
    | none => true
  if !known then []
  else
    db.treeStats.map fun t =>
      let size := SqlValue.integer pageSize
      plainRow (if aggregate then
        [.ofString t.name, .null, .integer 1, .null, .integer t.cells, .integer t.payload,
         .integer t.unused, .integer t.largest, .null, size, .ofString "main", .integer 1]
      else
        [.ofString t.name, .ofString "/", .integer t.page, .ofString "leaf", .integer t.cells,
         .integer t.payload, .integer t.unused, .integer t.largest,
         .integer ((t.page - 1) * pageSize), size, .ofString "main", .integer 0])

/-- A function's row id for row `i`: JSON walks from zero, `dbstat` its page, others from
one. -/
def TableFunction.rowidAt (f : TableFunction) (row : List Tagged) (i : Nat) : SqlValue :=
  match f with
  | .jsonEach | .jsonTree => .integer i
  | .pageStatistics => ((row.drop 2).head?.map (·.value)).getD .null
  | _ => .integer (i + 1)

def TableFunction.rows (db : Database) (f : TableFunction) (args : List SqlValue) :
    Except SqlError (List (List Tagged)) :=
  match f with
  | .jsonEach => jsonTableRows false args
  | .jsonTree => jsonTableRows true args
  | .tableInfo => .ok (tableInfoRows db false args)
  | .tableExtendedInfo => .ok (tableInfoRows db true args)
  | .indexList => .ok (indexListRows db args)
  | .indexInfo => .ok (indexInfoRows db false args)
  | .indexExtendedInfo => .ok (indexInfoRows db true args)
  | .foreignKeyList => .ok (foreignKeyRows db args)
  | .tableList => .ok (tableListRows db args)
  | .pragma p => pragmaRows db p args
  | .pageStatistics => .ok (pageStatisticsRows db args)
  | .statements =>
    .ok [plainRow [.null, .null, .integer 1, .integer 1, .null, .null, .null, .null, .null, .null, .null]]
  | .tokens => .ok []

/-- The rows a function gives for its arguments as a query reads them, each followed by its row
id. -/
def TableFunction.readRows (db : Database) (f : TableFunction) (args : List SqlValue) :
    Except SqlError (List (List Tagged)) := do
  let rows ← f.rows db args
  pure (rows.zipIdx.map fun (r, i) => r ++ [⟨f.rowidAt r i, false⟩])

end PackageRegistry.Sql
