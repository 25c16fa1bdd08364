import PackageRegistry.Sql.Value
/-!
# What the engine is built with

Data of the one build the registry runs on: its compile options, the functions a query may call
(kind, argument count, flags), and the virtual table modules.
-/

namespace PackageRegistry.Sql

/-! ## Compile options -/

/-- The options the engine was compiled with, in the order it lists them. -/
def compileOptions : List String :=
  ["ATOMIC_INTRINSICS=1", "COMPILER=gcc-12.2.0", "DEFAULT_AUTOVACUUM", "DEFAULT_CACHE_SIZE=-2000",
  "DEFAULT_FILE_FORMAT=4", "DEFAULT_JOURNAL_SIZE_LIMIT=-1", "DEFAULT_MMAP_SIZE=0",
  "DEFAULT_PAGE_SIZE=4096", "DEFAULT_PCACHE_INITSZ=20", "DEFAULT_RECURSIVE_TRIGGERS",
  "DEFAULT_SECTOR_SIZE=4096", "DEFAULT_SYNCHRONOUS=2", "DEFAULT_WAL_AUTOCHECKPOINT=1000",
  "DEFAULT_WAL_SYNCHRONOUS=2", "DEFAULT_WORKER_THREADS=0", "DIRECT_OVERFLOW_READ",
  "ENABLE_COLUMN_METADATA", "ENABLE_DBSTAT_VTAB", "ENABLE_FTS3", "ENABLE_FTS3_PARENTHESIS",
  "ENABLE_FTS3_TOKENIZER", "ENABLE_FTS5", "ENABLE_LOAD_EXTENSION", "ENABLE_MATH_FUNCTIONS",
  "ENABLE_PREUPDATE_HOOK", "ENABLE_RTREE", "ENABLE_SESSION", "ENABLE_STMTVTAB",
  "ENABLE_UNLOCK_NOTIFY", "ENABLE_UPDATE_DELETE_LIMIT", "HAVE_ISNAN", "LIKE_DOESNT_MATCH_BLOBS",
  "MALLOC_SOFT_LIMIT=1024", "MAX_ATTACHED=10", "MAX_COLUMN=2000", "MAX_COMPOUND_SELECT=500",
  "MAX_DEFAULT_PAGE_SIZE=32768", "MAX_EXPR_DEPTH=1000", "MAX_FUNCTION_ARG=127",
  "MAX_LENGTH=1000000000", "MAX_LIKE_PATTERN_LENGTH=50000", "MAX_MMAP_SIZE=0x7fff0000",
  "MAX_PAGE_COUNT=1073741823", "MAX_PAGE_SIZE=65536", "MAX_SCHEMA_RETRY=25",
  "MAX_SQL_LENGTH=1000000000", "MAX_TRIGGER_DEPTH=1000", "MAX_VARIABLE_NUMBER=250000",
  "MAX_VDBE_OP=250000000", "MAX_WORKER_THREADS=8", "MUTEX_PTHREADS", "OMIT_LOOKASIDE",
  "SECURE_DELETE", "SOUNDEX", "SYSTEM_MALLOC", "TEMP_STORE=1", "THREADSAFE=1", "USE_URI"]

/-- Whether a byte may stand in a name: an ASCII letter or digit, `_`, `$`, or any byte of a
character beyond ASCII. -/
def isNameByte (b : UInt8) : Bool :=
  (48 ≤ b && b ≤ 57) || (65 ≤ b && b ≤ 90) || (97 ≤ b && b ≤ 122) || b == 95 || b == 36 ||
    b ≥ 128

def upperAscii (b : UInt8) : UInt8 := if 97 ≤ b && b ≤ 122 then b - 32 else b

def compileOptionUsed (name : List UInt8) : Bool :=
  let prefixed := (name.take 7).map upperAscii == "SQLITE_".toUTF8.toList
  let name := if prefixed then name.drop 7 else name
  let name := name.takeWhile (· != 0)
  compileOptions.any fun o =>
    let bs := o.toUTF8.toList
    (bs.take name.length).map upperAscii == name.map upperAscii && name.length ≤ bs.length &&
      !((bs.drop name.length).head?.any isNameByte)

/-- The option at a position, from `0`. -/
def compileOptionAt? (n : Int) : Option String :=
  if n < 0 then none else compileOptions[n.toNat]?

/-! ## Functions -/

/-- A definition of a function as the engine lists it. -/
structure FunctionEntry where
  name : String
  builtin : Bool
  /-- `s` scalar, `w` window-capable, `a` aggregate only. -/
  kind : Char
  /-- The number of arguments it takes, `-1` for any number. -/
  arguments : Int
  flags : Nat
  deriving Repr

/-- The definitions of functions, in the order the engine lists them. -/
def functionEntries : List FunctionEntry := [
  ⟨"pow", true, 's', 2, 2099200⟩,
  ⟨"group_concat", true, 'w', 1, 2097152⟩,
  ⟨"group_concat", true, 'w', 2, 2097152⟩,
  ⟨"json_type", true, 's', 1, 2099200⟩,
  ⟨"json_type", true, 's', 2, 2099200⟩,
  ⟨"julianday", true, 's', -1, 2099200⟩,
  ⟨"ntile", true, 'w', 1, 2097152⟩,
  ⟨"nullif", true, 's', 2, 2099200⟩,
  ⟨"sqlite_compileoption_get", true, 's', 1, 2097152⟩,
  ⟨"json_valid", true, 's', 1, 2099200⟩,
  ⟨"json_quote", true, 's', 1, 2099200⟩,
  ⟨"json_patch", true, 's', 2, 2099200⟩,
  ⟨"->", true, 's', 2, 2099200⟩,
  ⟨"json_array", true, 's', -1, 2099200⟩,
  ⟨"current_timestamp", true, 's', 0, 2097152⟩,
  ⟨"power", true, 's', 2, 2099200⟩,
  ⟨"sqlite_compileoption_used", true, 's', 1, 2097152⟩,
  ⟨"json_remove", true, 's', -1, 2099200⟩,
  ⟨"json_object", true, 's', -1, 2099200⟩,
  ⟨"json_insert", true, 's', -1, 2099200⟩,
  ⟨"->>", true, 's', 2, 2099200⟩,
  ⟨"sin", true, 's', 1, 2099200⟩,
  ⟨"sum", true, 'w', 1, 2097152⟩,
  ⟨"quote", true, 's', 1, 2099200⟩,
  ⟨"printf", true, 's', -1, 2099200⟩,
  ⟨"likelihood", true, 's', 2, 2099200⟩,
  ⟨"json_replace", true, 's', -1, 2099200⟩,
  ⟨"json_extract", true, 's', -1, 2099200⟩,
  ⟨"last_value", true, 'w', 1, 2097152⟩,
  ⟨"rank", true, 'w', 0, 2097152⟩,
  ⟨"sign", true, 's', 1, 2099200⟩,
  ⟨"sqrt", true, 's', 1, 2099200⟩,
  ⟨"sinh", true, 's', 1, 2099200⟩,
  ⟨"tan", true, 's', 1, 2099200⟩,
  ⟨"round", true, 's', 1, 2099200⟩,
  ⟨"round", true, 's', 2, 2099200⟩,
  ⟨"rtrim", true, 's', 1, 2099200⟩,
  ⟨"rtrim", true, 's', 2, 2099200⟩,
  ⟨"nth_value", true, 'w', 2, 2097152⟩,
  ⟨"tanh", true, 's', 1, 2099200⟩,
  ⟨"random", true, 's', 0, 2097152⟩,
  ⟨"trim", true, 's', 1, 2099200⟩,
  ⟨"trim", true, 's', 2, 2099200⟩,
  ⟨"time", true, 's', -1, 2099200⟩,
  ⟨"radians", true, 's', 1, 2099200⟩,
  ⟨"trunc", true, 's', 1, 2099200⟩,
  ⟨"total", true, 'w', 1, 2097152⟩,
  ⟨"substr", true, 's', 2, 2099200⟩,
  ⟨"substr", true, 's', 3, 2099200⟩,
  ⟨"replace", true, 's', 3, 2099200⟩,
  ⟨"upper", true, 's', 1, 2099200⟩,
  ⟨"subtype", true, 's', 1, 2099200⟩,
  ⟨"typeof", true, 's', 1, 2099200⟩,
  ⟨"load_extension", true, 's', 1, 2621440⟩,
  ⟨"load_extension", true, 's', 2, 2621440⟩,
  ⟨"soundex", true, 's', 1, 2099200⟩,
  ⟨"json_group_array", true, 'w', 1, 3147776⟩,
  ⟨"avg", true, 'w', 1, 2097152⟩,
  ⟨"abs", true, 's', 1, 2099200⟩,
  ⟨"json_group_object", true, 'w', 2, 3147776⟩,
  ⟨"json_array_length", true, 's', 1, 2099200⟩,
  ⟨"json_array_length", true, 's', 2, 2099200⟩,
  ⟨"strftime", true, 's', -1, 2099200⟩,
  ⟨"atan", true, 's', 1, 2099200⟩,
  ⟨"asin", true, 's', 1, 2099200⟩,
  ⟨"acos", true, 's', 1, 2099200⟩,
  ⟨"substring", true, 's', 2, 2099200⟩,
  ⟨"substring", true, 's', 3, 2099200⟩,
  ⟨"randomblob", true, 's', 1, 2097152⟩,
  ⟨"unicode", true, 's', 1, 2099200⟩,
  ⟨"percent_rank", true, 'w', 0, 2097152⟩,
  ⟨"row_number", true, 'w', 0, 2097152⟩,
  ⟨"atanh", true, 's', 1, 2099200⟩,
  ⟨"asinh", true, 's', 1, 2099200⟩,
  ⟨"acosh", true, 's', 1, 2099200⟩,
  ⟨"cos", true, 's', 1, 2099200⟩,
  ⟨"atan2", true, 's', 2, 2099200⟩,
  ⟨"last_insert_rowid", true, 's', 0, 2097152⟩,
  ⟨"sqlite_log", true, 's', 2, 2099200⟩,
  ⟨"unlikely", true, 's', 1, 2099200⟩,
  ⟨"cosh", true, 's', 1, 2099200⟩,
  ⟨"ceil", true, 's', 1, 2099200⟩,
  ⟨"char", true, 's', -1, 2099200⟩,
  ⟨"unixepoch", true, 's', -1, 2099200⟩,
  ⟨"exp", true, 's', 1, 2099200⟩,
  ⟨"count", true, 'w', 0, 2097152⟩,
  ⟨"count", true, 'w', 1, 2097152⟩,
  ⟨"date", true, 's', -1, 2099200⟩,
  ⟨"ceiling", true, 's', 1, 2099200⟩,
  ⟨"total_changes", true, 's', 0, 2097152⟩,
  ⟨"changes", true, 's', 0, 2097152⟩,
  ⟨"sqlite_version", true, 's', 0, 2097152⟩,
  ⟨"degrees", true, 's', 1, 2099200⟩,
  ⟨"floor", true, 's', 1, 2099200⟩,
  ⟨"coalesce", true, 's', -1, 2099200⟩,
  ⟨"glob", true, 's', 2, 2099200⟩,
  ⟨"zeroblob", true, 's', 1, 2099200⟩,
  ⟨"hex", true, 's', 1, 2099200⟩,
  ⟨"iif", true, 's', 3, 2099200⟩,
  ⟨"sqlite_source_id", true, 's', 0, 2097152⟩,
  ⟨"format", true, 's', -1, 2099200⟩,
  ⟨"datetime", true, 's', -1, 2099200⟩,
  ⟨"cume_dist", true, 'w', 0, 2097152⟩,
  ⟨"ln", true, 's', 1, 2099200⟩,
  ⟨"instr", true, 's', 2, 2099200⟩,
  ⟨"json", true, 's', 1, 2099200⟩,
  ⟨"dense_rank", true, 'w', 0, 2097152⟩,
  ⟨"log", true, 's', 1, 2099200⟩,
  ⟨"log", true, 's', 2, 2099200⟩,
  ⟨"ifnull", true, 's', 2, 2099200⟩,
  ⟨"current_date", true, 's', 0, 2097152⟩,
  ⟨"current_time", true, 's', 0, 2097152⟩,
  ⟨"lag", true, 'w', 1, 2097152⟩,
  ⟨"lag", true, 'w', 3, 2097152⟩,
  ⟨"lag", true, 'w', 2, 2097152⟩,
  ⟨"mod", true, 's', 2, 2099200⟩,
  ⟨"log2", true, 's', 1, 2099200⟩,
  ⟨"like", true, 's', 2, 2099200⟩,
  ⟨"like", true, 's', 3, 2099200⟩,
  ⟨"max", true, 's', -1, 2099200⟩,
  ⟨"max", true, 'w', 1, 2097152⟩,
  ⟨"min", true, 's', -1, 2099200⟩,
  ⟨"min", true, 'w', 1, 2097152⟩,
  ⟨"lead", true, 'w', 1, 2097152⟩,
  ⟨"lead", true, 'w', 3, 2097152⟩,
  ⟨"lead", true, 'w', 2, 2097152⟩,
  ⟨"log10", true, 's', 1, 2099200⟩,
  ⟨"lower", true, 's', 1, 2099200⟩,
  ⟨"ltrim", true, 's', 1, 2099200⟩,
  ⟨"ltrim", true, 's', 2, 2099200⟩,
  ⟨"first_value", true, 'w', 1, 2097152⟩,
  ⟨"pi", true, 's', 0, 2099200⟩,
  ⟨"length", true, 's', 1, 2099200⟩,
  ⟨"likely", true, 's', 1, 2099200⟩,
  ⟨"json_set", true, 's', -1, 2099200⟩,
  ⟨"floor", false, 's', 1, 2099200⟩,
  ⟨"regexp", false, 's', 2, 2099200⟩,
  ⟨"rtreedepth", false, 's', 1, 2097152⟩,
  ⟨"match", false, 's', 2, 2097152⟩,
  ⟨"snippet", false, 's', -1, 2097152⟩,
  ⟨"fts5_source_id", false, 's', 0, 2048⟩,
  ⟨"offsets", false, 's', 1, 2097152⟩,
  ⟨"matchinfo", false, 's', 2, 2097152⟩,
  ⟨"matchinfo", false, 's', 1, 2097152⟩,
  ⟨"optimize", false, 's', 1, 2097152⟩,
  ⟨"rtreecheck", false, 's', -1, 2097152⟩,
  ⟨"rtreenode", false, 's', 2, 2097152⟩,
  ⟨"highlight", false, 's', -1, 2097152⟩,
  ⟨"bm25", false, 's', -1, 2097152⟩,
  ⟨"fts3_tokenizer", false, 's', 2, 2621440⟩,
  ⟨"fts3_tokenizer", false, 's', 1, 2621440⟩,
  ⟨"fts5", false, 's', 1, 2097152⟩
]

/-! ## Tables of names -/

/-- The hash of a name in the engine's name tables: per byte, ASCII lowered, added then the sum
multiplied by `0x9e3779b1`, in 32 bits. -/
def nameHash (name : String) : Nat :=
  name.toUTF8.toList.foldl (fun h b =>
    let c := if 65 ≤ b.toNat && b.toNat ≤ 90 then b.toNat + 32 else b.toNat
    ((h + c) % 4294967296) * 2654435761 % 4294967296) 0

/-- A table of names: the names in order, and its buckets, each with its count and front name. -/
structure NameTable where
  names : List String := []
  buckets : Option (List (Nat × Option String)) := none
  deriving Repr

/-- Puts a name into a table's list before the front of its bucket's run, or at the front; the
bucket counts it, at the front of its run. -/
def NameTable.place (t : NameTable) (name : String) : NameTable :=
  match t.buckets with
  | none => { t with names := name :: t.names }
  | some bs =>
    let k := nameHash name % bs.length
    let (count, head) := bs.getD k (0, none)
    let names := match head with
      | some h =>
        if count > 0 then
          let i := t.names.idxOf h
          t.names.take i ++ name :: t.names.drop i
        else name :: t.names
      | none => name :: t.names
    { names, buckets := some (bs.set k (count + 1, some name)) }

/-- Buckets of a names table grown to this many names: twice as many, at most 64. -/
def bucketCount (count : Nat) : Nat := min (2 * count) 64

/-- Adds a name unless one like it (without case) is there; at ten names and over twice the
buckets, it is first rebuilt with more buckets. -/
def NameTable.add (t : NameTable) (name : String) : NameTable :=
  if t.names.any (fun n => n.toLower == name.toLower) then t
  else
    let count := t.names.length + 1
    let size := (t.buckets.map (·.length)).getD 0
    let t := if count ≥ 10 && count > 2 * size then
        t.names.foldl (fun acc n => acc.place n)
          { names := [], buckets := some (List.replicate (bucketCount count) (0, none)) }
      else t
    t.place name

/-- The modules a connection starts with, in the order they are made. -/
def startingModules : List String :=
  ["fts4aux", "fts3", "fts4", "fts3tokenize", "fts5", "fts5vocab", "rtree", "rtree_i32",
   "dbstat", "json_each", "json_tree", "sqlite_stmt"]

/-- The table of modules of a connection that has added these pragma modules, in order. -/
def moduleTable (pragmaModules : List String) : NameTable :=
  (startingModules ++ pragmaModules).foldl NameTable.add {}

end PackageRegistry.Sql
