import PackageRegistry.Sql.Build
import PackageRegistry.Sql.Pages
/-!
# Pragmas read as tables

A pragma reports a setting or fact of the connection; those returning rows may be read as
tables (`pragma_page_size`). The connection runs in memory with the build's defaults.
-/

namespace PackageRegistry.Sql

/-- A pragma the engine knows: name, returned column names, whether readable as a table, and
whether it takes an argument and a schema. -/
structure Pragma where
  name : String
  columns : List String := []
  readable : Bool := true
  takesArgument : Bool := false
  takesSchema : Bool := false
  deriving Repr, BEq, DecidableEq

/-- A pragma that returns one value and takes a schema. -/
def schemaPragma (name : String) : Pragma := { name, takesSchema := true }

/-- A pragma that returns rows for an argument and a schema. -/
def targetPragma (name : String) (columns : List String) : Pragma :=
  { name, columns, takesArgument := true, takesSchema := true }

/-- A pragma that returns no rows. -/
def silentPragma (name : String) : Pragma := { name, readable := false }

/-- Every pragma of the build, in order of name. -/
def pragmas : List Pragma :=
  [{ name := "analysis_limit" }, { name := "application_id" }, schemaPragma "auto_vacuum",
   { name := "automatic_index" }, { name := "busy_timeout", columns := ["timeout"] },
   schemaPragma "cache_size", schemaPragma "cache_spill", silentPragma "case_sensitive_like",
   { name := "cell_size_check" }, { name := "checkpoint_fullfsync" },
   { name := "collation_list", columns := ["seq", "name"] }, { name := "compile_options" },
   { name := "count_changes" }, { name := "data_version" },
   { name := "database_list", columns := ["seq", "name", "file"] },
   { schemaPragma "default_cache_size" with columns := ["cache_size"] },
   { name := "defer_foreign_keys" }, { name := "empty_result_callbacks" }, { name := "encoding" },
   targetPragma "foreign_key_check" ["table", "rowid", "parent", "fkid"],
   targetPragma "foreign_key_list"
     ["id", "seq", "table", "from", "to", "on_update", "on_delete", "match"],
   { name := "foreign_keys" }, { name := "freelist_count" }, { name := "full_column_names" },
   { name := "fullfsync" },
   { name := "function_list", columns := ["name", "builtin", "type", "enc", "narg", "flags"] },
   { name := "hard_heap_limit" }, { name := "ignore_check_constraints" },
   silentPragma "incremental_vacuum", targetPragma "index_info" ["seqno", "cid", "name"],
   targetPragma "index_list" ["seq", "name", "unique", "origin", "partial"],
   targetPragma "index_xinfo" ["seqno", "cid", "name", "desc", "coll", "key"],
   targetPragma "integrity_check" [], schemaPragma "journal_mode",
   schemaPragma "journal_size_limit", { name := "legacy_alter_table" },
   schemaPragma "locking_mode", schemaPragma "max_page_count", silentPragma "mmap_size",
   { name := "module_list", columns := ["name"] },
   { name := "optimize", takesArgument := true }, schemaPragma "page_count",
   schemaPragma "page_size", { name := "pragma_list", columns := ["name"] },
   { name := "query_only" }, targetPragma "quick_check" [], { name := "read_uncommitted" },
   { name := "recursive_triggers" }, { name := "reverse_unordered_selects" },
   { name := "schema_version" }, { name := "secure_delete" }, { name := "short_column_names" },
   silentPragma "shrink_memory", { name := "soft_heap_limit" }, schemaPragma "synchronous",
   targetPragma "table_info" ["cid", "name", "type", "notnull", "dflt_value", "pk"],
   { name := "table_list", columns := ["schema", "name", "type", "ncol", "wr", "strict"],
     takesArgument := true },
   targetPragma "table_xinfo" ["cid", "name", "type", "notnull", "dflt_value", "pk", "hidden"],
   { name := "temp_store" }, silentPragma "temp_store_directory", { name := "threads" },
   { name := "trusted_schema" }, { name := "user_version" }, silentPragma "wal_autocheckpoint",
   silentPragma "wal_checkpoint", { name := "writable_schema" }]

/-- The pragma of a name, compared without case. -/
def pragmaNamed? (name : String) : Option Pragma :=
  pragmas.find? (sameName ·.name name)

/-- The pragma a table name reads: `pragma_` (any case) and a row-returning pragma's name. -/
def pragmaOfTable? (table : String) : Option Pragma :=
  if (table.take 7).toString.toLower == "pragma_" then
    (pragmaNamed? (table.drop 7).toString).filter (·.readable)
  else none

/-- The names of a pragma's columns: those it returns, or its own name. -/
def Pragma.columnNames (p : Pragma) : List String :=
  if p.columns.isEmpty then [p.name] else p.columns

/-- The names of a pragma's hidden columns: `arg` for its argument, `schema` for its schema. -/
def Pragma.hiddenNames (p : Pragma) : List String :=
  (if p.takesArgument then ["arg"] else []) ++ (if p.takesSchema then ["schema"] else [])

/-! ## Values -/

/-- The value of a pragma that reports one setting, none for a pragma of another kind. -/
def settingValue (db : Database) (name : String) : Option SqlValue :=
  match name with
  | "analysis_limit" | "application_id" | "auto_vacuum" | "cell_size_check"
  | "checkpoint_fullfsync" | "count_changes" | "defer_foreign_keys" | "empty_result_callbacks"
  | "foreign_keys" | "freelist_count" | "full_column_names" | "fullfsync" | "hard_heap_limit"
  | "ignore_check_constraints" | "legacy_alter_table" | "query_only" | "read_uncommitted"
  | "recursive_triggers" | "reverse_unordered_selects" | "soft_heap_limit" | "temp_store"
  | "threads" | "user_version" | "writable_schema" => some (.integer 0)
  | "automatic_index" | "data_version" | "secure_delete" | "short_column_names"
  | "trusted_schema" => some (.integer 1)
  | "busy_timeout" => some (.integer 5000)
  | "cache_size" | "default_cache_size" => some (.integer (-2000))
  | "cache_spill" => some (.integer 483)
  | "encoding" => some (.ofString "UTF-8")
  | "journal_mode" => some (.ofString "memory")
  | "journal_size_limit" => some (.integer (-1))
  | "locking_mode" => some (.ofString "normal")
  | "max_page_count" => some (.integer 1073741823)
  | "page_count" => some (.integer db.pageCount)
  | "page_size" => some (.integer pageSize)
  | "schema_version" => some (.integer (db.schema.filter (·.statement.isSome)).length)
  | "synchronous" => some (.integer 2)
  | _ => none

/-- The text of a pragma's argument, as its hidden column holds it. -/
def argumentText (v : SqlValue) : SqlValue :=
  match v.textBytes? with
  | some bs => .text bs
  | none => .null

/-- Whether an argument reads as a 32-bit integer: optional sign, then digits. -/
def isCountArgument (bs : List UInt8) : Bool :=
  let digits := match bs with
    | 45 :: rest | 43 :: rest => rest
    | _ => bs
  !digits.isEmpty && digits.all (fun b => 48 ≤ b && b ≤ 57) && digits.length ≤ 10 &&
    (digits.foldl (fun n b => 10 * n + (b.toNat - 48)) 0) ≤ 2147483647

/-- The rows of a pragma's table for its argument and schema (`NULL` when not given), without
its hidden columns; fails as the pragma does. -/
def Pragma.values (db : Database) (p : Pragma) (arg schema : SqlValue) :
    Except SqlError (List (List SqlValue)) := do
  let schemaName := schema.textBytes?.map stringOfBytes
  if let some s := schemaName then
    unless sameName s "main" || sameName s "temp" do throw (.unknownDatabase s)
  let target := fun (name : String) => do
    if (db.findIn? schemaName name).isNone then
      throw (.noSuchTable ((schemaName.map (· ++ ".")).getD "" ++ name))
  match p.name with
  | "collation_list" =>
    pure [[.integer 0, .ofString "RTRIM"], [.integer 1, .ofString "NOCASE"],
      [.integer 2, .ofString "BINARY"]]
  | "compile_options" => pure (compileOptions.map fun o => [.ofString o])
  | "database_list" =>
    pure [[.integer 0, .ofString "main", .ofString ""], [.integer 1, .ofString "temp", .ofString ""]]
  | "function_list" =>
    pure (functionEntries.map fun f =>
      [.ofString f.name, .integer (if f.builtin then 1 else 0), .ofString f.kind.toString,
       .ofString "utf8", .integer f.arguments, .integer f.flags])
  | "module_list" => pure ((moduleTable db.modules).names.map fun n => [.ofString n])
  | "pragma_list" => pure (pragmas.map fun q => [.ofString q.name])
  | "integrity_check" | "quick_check" =>
    if let some bs := arg.textBytes? then
      unless isCountArgument bs do target (stringOfBytes bs)
    pure [[.ofString "ok"]]
  | "foreign_key_check" =>
    if let some bs := arg.textBytes? then target (stringOfBytes bs)
    pure []
  | "optimize" => pure []
  | name => pure ((settingValue db name).toList.map fun v => [v])

end PackageRegistry.Sql
