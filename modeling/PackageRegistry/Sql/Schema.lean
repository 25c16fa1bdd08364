import PackageRegistry.Sql.Syntax
/-!
# Tables and the sources a query reads

A database is a list of tables, with named columns of an affinity and rows in stored order, and
the schema table `sqlite_master` listing each table and index with its creating statement.
Names compare with ASCII letters folded.
-/

namespace PackageRegistry.Sql

/-- A column of a table or view: its name and the affinity of its values. -/
structure Column where
  name : String
  affinity : Affinity
  /-- The collation it compares by, none for `BINARY`. -/
  collation : Option String := none
  deriving Repr, BEq

/-- Where rows keep the row id read by `rowid`, `_rowid_`, `oid` when no column has the name:
nowhere, a column, after hidden columns, or `NULL`. -/
inductive RowidSlot where
  | absent
  | column (index : Nat)
  | trailing
  | null
  deriving Repr, BEq, DecidableEq

/-- What a query reads: the name it knows the table by, and the table's columns, with those
`*` leaves out last. -/
structure Source where
  table : String
  columns : List Column
  hidden : List Column := []
  /-- Whether it is a table the database stores, which a name with a schema may read. -/
  stored : Bool := false
  rowid : RowidSlot := .absent
  deriving Repr

/-- Values in a source's row: columns, hidden columns, and a row id kept after them. -/
def Source.width (src : Source) : Nat :=
  src.columns.length + src.hidden.length + (if src.rowid == .trailing then 1 else 0)

/-- Whether two names are the same, ignoring the case of ASCII letters. -/
def sameName (a b : String) : Bool := a.toLower == b.toLower

/-- Whether a name is one of the names of the row id, in any case. -/
def isRowidName (name : String) : Bool :=
  ["rowid", "_rowid_", "oid"].any (sameName name ·)

/-- The position of a column of a source, by its name and an optional table name. -/
def Source.indexOf? (src : Source) (table : Option String) (column : String) : Option Nat :=
  let all := src.columns ++ src.hidden
  match table with
  | some t => if sameName t src.table then all.findIdx? (sameName ·.name column) else none
  | none => all.findIdx? (sameName ·.name column)

/-- A declared column: name, written type, `NOT NULL`, written default, primary key place (from
1; 0 outside). -/
structure ColumnDecl where
  name : String
  declaredType : String
  notNull : Bool := false
  default : Option String := none
  primaryKey : Nat := 0
  deriving Repr

/-- The definition of a column in a `CREATE TABLE` statement. -/
def ColumnDecl.definition (c : ColumnDecl) : String :=
  c.name ++ " " ++ c.declaredType ++ ((c.default.map (" DEFAULT " ++ ·)).getD "") ++
    (if c.notNull then " NOT NULL" else "")

/-- An index created by its own statement: its name and the columns it covers. -/
structure IndexDef where
  name : String
  columns : List String
  deriving Repr

/-- A table constraint: primary key, uniqueness (maybe named), or a foreign key with its table
and columns. -/
inductive TableConstraint where
  | primaryKey (columns : List String)
  | unique (name : Option String) (columns : List String)
  | foreignKey (columns : List String) (table : String) (referenced : List String)
  deriving Repr

def TableConstraint.text : TableConstraint → String
  | .primaryKey cs => "PRIMARY KEY (" ++ ", ".intercalate cs ++ ")"
  | .unique none cs => "UNIQUE (" ++ ", ".intercalate cs ++ ")"
  | .unique (some n) cs => "CONSTRAINT " ++ n ++ " UNIQUE (" ++ ", ".intercalate cs ++ ")"
  | .foreignKey cs t rs =>
    "FOREIGN KEY(" ++ ", ".intercalate cs ++ ") REFERENCES " ++ t ++ " (" ++ ", ".intercalate rs ++ ")"

/-- A table's creation: name, columns, table constraints, own indexes in making order. -/
structure TableDef where
  name : String
  columns : List ColumnDecl
  constraints : List TableConstraint
  indexes : List IndexDef := []
  deriving Repr

/-- Whether a primary key over these columns is the table's row id: one column declared
`INTEGER`. -/
def TableDef.isRowidKey (t : TableDef) (columns : List String) : Bool :=
  match columns with
  | [c] => t.columns.any fun d => sameName d.name c && d.declaredType.toUpper == "INTEGER"
  | _ => false

/-- Indexes a table's constraints make, with columns and origin: `pk` unless the row id, `u` per
uniqueness. -/
def TableDef.constraintIndexes (t : TableDef) : List (List String × String) :=
  t.constraints.filterMap fun
    | .primaryKey cs => if t.isRowidKey cs then none else some (cs, "pk")
    | .unique _ cs => some (cs, "u")
    | .foreignKey .. => none

/-- The number of indexes a table's constraints make. -/
def TableDef.automatic (t : TableDef) : Nat := t.constraintIndexes.length

/-- An index: name, columns, uniqueness, origin (`pk`, `u`, or `c` for its own statement). -/
structure IndexInfo where
  name : String
  columns : List String
  unique : Bool
  origin : String
  deriving Repr

/-- A table's indexes in making order: its constraints', named `sqlite_autoindex_` with the
table and a number, then its own. -/
def TableDef.allIndexes (t : TableDef) : List IndexInfo :=
  t.constraintIndexes.zipIdx.map (fun ((cs, origin), k) =>
    { name := "sqlite_autoindex_" ++ t.name ++ "_" ++ toString (k + 1), columns := cs,
      unique := true, origin }) ++
  t.indexes.map fun i => { name := i.name, columns := i.columns, unique := false, origin := "c" }

def TableDef.statement (t : TableDef) : String :=
  "CREATE TABLE " ++ t.name ++ " (\n\t" ++
    ", \n\t".intercalate (t.columns.map (·.definition) ++ t.constraints.map (·.text)) ++ "\n)"

def IndexDef.statement (table : String) (i : IndexDef) : String :=
  "CREATE INDEX " ++ i.name ++ " ON " ++ table ++ " (" ++ ", ".intercalate i.columns ++ ")"

/-- A schema table entry: table or index, name, owning table, first page, creating statement. -/
structure SchemaEntry where
  kind : String
  name : String
  tableName : String
  rootPage : Nat
  statement : Option String
  deriving Repr

/-- The entries of a table and its indexes, the first on page `page`. -/
def TableDef.entries (t : TableDef) (page : Nat) : List SchemaEntry :=
  let own : SchemaEntry := ⟨"table", t.name, t.name, page, some t.statement⟩
  let automatic := (List.range t.automatic).map fun k =>
    SchemaEntry.mk "index" ("sqlite_autoindex_" ++ t.name ++ "_" ++ toString (k + 1)) t.name
      (page + 1 + k) none
  let indexes := t.indexes.zipIdx.map fun (i, k) =>
    SchemaEntry.mk "index" i.name t.name (page + 1 + t.automatic + k) (some (i.statement t.name))
  own :: automatic ++ indexes

/-- The entries of tables created in order, the first on page 2. -/
def schemaEntries : Nat → List TableDef → List SchemaEntry
  | _, [] => []
  | page, t :: rest => t.entries page ++ schemaEntries (page + 1 + t.automatic + t.indexes.length) rest

/-- A stored table: its name, its columns, its rows in their stored order, and its columns as
declared. -/
structure Table where
  name : String
  columns : List Column
  rows : List (List SqlValue)
  declared : List ColumnDecl := []
  deriving Repr

/-- Connection changes: rows changed by the last changing statement, all rows changed, last
inserted row id. -/
structure ChangeCounts where
  changes : Int := 0
  total : Int := 0
  lastRowid : Int := 0
  deriving Repr, BEq

/-- The counts after a statement that inserted one row with this row id. -/
def ChangeCounts.inserted (c : ChangeCounts) (rowid : Int) : ChangeCounts :=
  { changes := 1, total := c.total + 1, lastRowid := rowid }

/-- The counts after a statement that failed, changing nothing. -/
def ChangeCounts.failed (c : ChangeCounts) : ChangeCounts := { c with changes := 0 }

/-- Tables subqueries may read, schema table entries, table definitions, connection
counts. -/
structure Database where
  tables : List Table := []
  schema : List SchemaEntry := []
  defs : List TableDef := []
  counts : ChangeCounts := {}
  /-- The modules the connection has added for the pragma tables its queries named, in order. -/
  modules : List String := []
  deriving Repr

/-- The columns of the schema table as declared. -/
def schemaColumns : List ColumnDecl :=
  [{ name := "type", declaredType := "text" }, { name := "name", declaredType := "text" },
   { name := "tbl_name", declaredType := "text" }, { name := "rootpage", declaredType := "int" },
   { name := "sql", declaredType := "text" }]

/-- The schema table of a name, holding these entries. -/
def schemaTable (name : String) (entries : List SchemaEntry) : Table :=
  { name,
    columns := schemaColumns.map fun c => { name := c.name, affinity := Affinity.ofTypeName c.declaredType },
    rows := entries.map fun e =>
      [.ofString e.kind, .ofString e.name, .ofString e.tableName, .integer e.rootPage,
       (e.statement.map SqlValue.ofString).getD .null],
    declared := schemaColumns }

/-- The table of a name: a stored table, or a schema table. -/
def Database.find? (db : Database) (name : String) : Option Table :=
  match db.tables.find? (sameName ·.name name) with
  | some t => some t
  | none =>
    if sameName name "sqlite_master" || sameName name "sqlite_schema" then
      some (schemaTable "sqlite_master" db.schema)
    else if sameName name "sqlite_temp_master" || sameName name "sqlite_temp_schema" then
      some (schemaTable "sqlite_temp_master" [])
    else none

/-- A name's table in a schema: `main` the stored tables, `temp` an empty schema table; both
if none. -/
def Database.findIn? (db : Database) (schema : Option String) (name : String) : Option Table :=
  let mainTable := sameName name "sqlite_master" || sameName name "sqlite_schema"
  let tempTable := sameName name "sqlite_temp_master" || sameName name "sqlite_temp_schema"
  match schema with
  | none => db.find? name
  | some s =>
    if sameName s "main" then if tempTable then none else db.find? name
    else if sameName s "temp" then
      if mainTable || tempTable then some (schemaTable "sqlite_temp_master" []) else none
    else none

/-- A table's row id: its integer primary key (one `INTEGER` column), else its own numbering
from one. -/
def Table.rowidSlot (t : Table) : RowidSlot :=
  match t.declared.zipIdx.filter (·.1.primaryKey > 0) with
  | [(c, i)] => if c.declaredType.toUpper == "INTEGER" then .column i else .trailing
  | _ => .trailing

/-- A table's rows as read, each with its row id when kept in a value of its own. -/
def Table.storedRows (t : Table) : List (List SqlValue) :=
  if t.rowidSlot == .trailing then t.rows.zipIdx.map fun (r, i) => r ++ [.integer (i + 1)]
  else t.rows

/-- The number of values of a row of a table as a query reads it. -/
def Table.width (t : Table) : Nat :=
  t.columns.length + (if t.rowidSlot == .trailing then 1 else 0)

/-- The source a table is read as: under its alias, if it has one. -/
def Table.sourceAs (t : Table) (asName : Option String) : Source :=
  { table := asName.getD t.name, columns := t.columns, stored := true, rowid := t.rowidSlot }

end PackageRegistry.Sql
