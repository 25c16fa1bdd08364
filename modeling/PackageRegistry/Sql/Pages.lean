import PackageRegistry.Sql.Schema
/-!
# Pages of the database

Each table and index is a tree of 4096-byte pages. The registry's tables are small, so each tree
is one leaf page of records.
-/

namespace PackageRegistry.Sql

def pageSize : Nat := 4096

/-- The number of bytes a varint takes for a number: seven bits a byte, at most nine bytes. -/
def varintLength (n : Nat) : Nat :=
  (((List.range 8).find? fun k => n < Nat.pow 2 (7 * (k + 1))).map (· + 1)).getD 9

/-- The serial type of a value in a record, with the number of bytes it takes. -/
def serialType : SqlValue → Nat × Nat
  | .null => (0, 0)
  | .integer i =>
    if i == 0 then (8, 0)
    else if i == 1 then (9, 0)
    else if -128 ≤ i && i < 128 then (1, 1)
    else if -32768 ≤ i && i < 32768 then (2, 2)
    else if -8388608 ≤ i && i < 8388608 then (3, 3)
    else if -2147483648 ≤ i && i < 2147483648 then (4, 4)
    else if -140737488355328 ≤ i && i < 140737488355328 then (5, 6)
    else (6, 8)
  | .real _ => (7, 8)
  | .text bs => (2 * bs.length + 13, bs.length)
  | .blob bs => (2 * bs.length + 12, bs.length)

/-- The number of bytes of the record of these values: its header, which counts its own size,
and its body. -/
def recordSize (values : List SqlValue) : Nat :=
  let types := values.map serialType
  let body := types.foldl (fun n t => n + t.2) 0
  let inner := types.foldl (fun n t => n + varintLength t.1) 0
  let header :=
    if inner ≤ 126 then inner + 1
    else
      let own := varintLength inner
      inner + own + (if own < varintLength (inner + own) then 1 else 0)
  header + body

/-- A row id as the varint of its 64 bits: a negative one takes all nine bytes. -/
def rowidLength (rowid : Int) : Nat :=
  if rowid < 0 then 9 else varintLength rowid.toNat

/-- The statistics of one tree of pages. -/
structure TreeStats where
  name : String
  page : Nat
  cells : Nat
  /-- The bytes of the records its cells hold. -/
  payload : Nat
  /-- The bytes its page leaves unused. -/
  unused : Nat
  /-- The bytes of its largest record. -/
  largest : Nat
  deriving Repr

/-- Statistics of a tree on `page` whose cells hold these records, with each cell's other
bytes. -/
def leafStats (name : String) (page : Nat) (cells : List (Nat × Nat)) : TreeStats :=
  let header := if page == 1 then 108 else 8
  let used := cells.foldl (fun n (extra, size) => n + max 4 (extra + size)) 0
  { name, page, cells := cells.length,
    payload := cells.foldl (fun n c => n + c.2) 0,
    unused := pageSize - header - 2 * cells.length - used,
    largest := cells.foldl (fun n c => max n c.2) 0 }

/-- The position of the column of a table that is its row id, if one is. -/
def TableDef.rowidPlace (t : TableDef) : Option Nat :=
  let key := t.constraints.findSome? fun
    | .primaryKey cs => if t.isRowidKey cs then cs.head? else none
    | _ => none
  key.bind fun k => t.columns.findIdx? (sameName ·.name k)

/-- The row id of the row at position `i` of a table: its row id column, else its position from
one. -/
def rowidOf (place : Option Nat) (row : List SqlValue) (i : Nat) : Int :=
  match place.bind (row[·]?) with
  | some (.integer n) => n
  | _ => Int.ofNat (i + 1)

/-- The cells of a table's rows: each row's record, its row id column stored as `NULL`, with
the lengths of the record's size and of the row id. -/
def tableCells (t : TableDef) (rows : List (List SqlValue)) : List (Nat × Nat) :=
  let place := t.rowidPlace
  rows.zipIdx.map fun (row, i) =>
    let rowid := rowidOf place row i
    let stored := match place with
      | some p => row.set p .null
      | none => row
    let size := recordSize stored
    (varintLength size + rowidLength rowid, size)

/-- The cells of an index over these columns of a table's rows: the indexed values and the
row id. -/
def indexCells (t : TableDef) (columns : List String) (rows : List (List SqlValue)) :
    List (Nat × Nat) :=
  let places := columns.map fun c => t.columns.findIdx? (sameName ·.name c)
  rows.zipIdx.map fun (row, i) =>
    let rowid := rowidOf t.rowidPlace row i
    let values := places.map fun p => (p.bind (row[·]?)).getD .null
    let size := recordSize (values ++ [.integer rowid])
    (varintLength size, size)

/-- Every tree's statistics by name: the schema table's, then each table's and index's. -/
def Database.treeStats (db : Database) : List TreeStats :=
  let schemaRows := (schemaTable "sqlite_master" db.schema).rows
  let schemaCells := schemaRows.zipIdx.map fun (row, i) =>
    let size := recordSize row
    (varintLength size + rowidLength (i + 1), size)
  let entryStats := fun (e : SchemaEntry) =>
    match db.defs.find? (sameName ·.name e.tableName) with
    | none => leafStats e.name e.rootPage []
    | some t =>
      let rows := ((db.find? t.name).map (·.rows)).getD []
      if e.kind == "table" then leafStats e.name e.rootPage (tableCells t rows)
      else
        let columns := ((t.allIndexes.find? (sameName ·.name e.name)).map (·.columns)).getD []
        leafStats e.name e.rootPage (indexCells t columns rows)
  let trees := leafStats "sqlite_schema" 1 schemaCells ::
    (db.schema.filter (·.rootPage != 0)).map entryStats
  trees.mergeSort fun a b => decide (a.name ≤ b.name)

/-- The number of pages of the database: one for each tree. -/
def Database.pageCount (db : Database) : Nat := 1 + (db.schema.filter (·.rootPage != 0)).length

end PackageRegistry.Sql
