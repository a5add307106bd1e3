import Rollup.Store.Query

namespace Rollup.Store.BuiltIn

/-- The names under which the database itself lists its tables. -/
def catalogs : List String :=
  ["sqlite_master", "sqlite_schema", "sqlite_temp_master", "sqlite_temp_schema"]

/-- The columns of tables that stand for functions. -/
def functions : List (String × List String) :=
  let parts := ["key", "value", "type", "atom", "id", "parent", "fullkey", "path"]
  [("json_each", parts), ("json_tree", parts),
    ("dbstat", ["name", "path", "pageno", "pagetype", "ncell", "payload", "unused", "mx_payload",
      "pgoffset", "pgsize"]),
    ("fts3tokenize", ["token", "start", "end", "position"])]

/-- A table that cannot be used without arguments. -/
def argumentsNeeded : String := "fts4aux"

/-- What the name of a table for a setting begins with. -/
def settingPrefix : String := "pragma_"

/-- Settings whose table has one column, named like the setting. -/
def plainSettings : List String :=
  ["analysis_limit", "application_id", "auto_vacuum", "automatic_index", "cache_size",
    "cache_spill", "cell_size_check", "checkpoint_fullfsync", "compile_options", "count_changes",
    "data_version", "defer_foreign_keys", "empty_result_callbacks", "encoding", "foreign_keys",
    "freelist_count", "full_column_names", "fullfsync", "hard_heap_limit",
    "ignore_check_constraints", "integrity_check", "journal_mode", "journal_size_limit",
    "legacy_alter_table", "locking_mode", "max_page_count", "optimize", "page_count", "page_size",
    "query_only", "quick_check", "read_uncommitted", "recursive_triggers",
    "reverse_unordered_selects", "schema_version", "secure_delete", "short_column_names",
    "soft_heap_limit", "synchronous", "temp_store", "threads", "trusted_schema", "user_version",
    "writable_schema"]

def otherSettings : List (String × List String) :=
  [("busy_timeout", ["timeout"]), ("collation_list", ["seq", "name"]),
    ("database_list", ["seq", "name", "file"]), ("default_cache_size", ["cache_size"]),
    ("foreign_key_check", ["table", "rowid", "parent", "fkid"]),
    ("foreign_key_list",
      ["id", "seq", "table", "from", "to", "on_update", "on_delete", "match"]),
    ("function_list", ["name", "builtin", "type", "enc", "narg", "flags"]),
    ("index_info", ["seqno", "cid", "name"]),
    ("index_list", ["seq", "name", "unique", "origin", "partial"]),
    ("index_xinfo", ["seqno", "cid", "name", "desc", "coll", "key"]), ("module_list", ["name"]),
    ("pragma_list", ["name"]),
    ("table_info", ["cid", "name", "type", "notnull", "dflt_value", "pk"]),
    ("table_list", ["schema", "name", "type", "ncol", "wr", "strict"]),
    ("table_xinfo", ["cid", "name", "type", "notnull", "dflt_value", "pk", "hidden"])]

/-- The columns of every such table. -/
def columns : List (String × List String) :=
  let settings := plainSettings.map (fun name => (name, [name])) ++ otherSettings
  catalogs.map (fun name => (name, ["type", "name", "tbl_name", "rootpage", "sql"])) ++
    functions ++ settings.map fun (name, columns) => (settingPrefix ++ name, columns)

/-- The table with a name, as a query for map data finds it. -/
def table (name : String) : Queried Table :=
  if SameName argumentsNeeded name then .error (.argumentsNeeded argumentsNeeded)
  else
    match columns.find? fun entry => SameName entry.1 name with
    | some (_, columns) => .ok ⟨columns, []⟩
    | none => .error (.noSuchTable name)

end Rollup.Store.BuiltIn

namespace Rollup.Store

/-- Tables under their names. -/
structure Database where
  tables : List (String × Table) := []

/-- The table with a name. Those of the database itself come first. -/
def Database.table (database : Database) (name : String) : Queried Table :=
  match database.tables.find? fun entry => SameName entry.1 name with
  | some (_, table) => .ok table
  | none => BuiltIn.table name

/-- The words of the query language that cannot name a table. -/
def reservedWords : List String :=
  ["add", "all", "alter", "and", "as", "autoincrement", "between", "case", "check", "collate",
    "commit", "constraint", "create", "default", "deferrable", "delete", "distinct", "drop", "else",
    "escape", "except", "exists", "foreign", "from", "group", "having", "in", "index", "insert",
    "intersect", "into", "is", "isnull", "join", "limit", "not", "nothing", "notnull", "null", "on",
    "or", "order", "primary", "references", "returning", "select", "set", "table", "then", "to",
    "transaction", "union", "unique", "update", "using", "values", "when", "where"]

/-- Whether a name is a word of the language of queries, and so no name in one. -/
def isReserved (name : String) : Bool := reservedWords.contains name.toLower

/-- What there is to ask: a database, or something that cannot be read as one. -/
inductive Content where
  | database (database : Database)
  | unreadable (cause : StorageFault)

/-- The table that a statement names last. Its name is looked at before the database is. -/
def Content.table (content : Content) (statement name : String) : Queried Table :=
  if isReserved name then
    .error (.misplacedWord name statement (statement.utf8ByteSize - name.utf8ByteSize))
  else
    match content with
    | .unreadable cause => .error (.storage cause)
    | .database found => found.table name

/-- The column of a table that a statement names first at an offset. -/
def Table.column (table : Table) (statement name : String) (offset : Nat) : Queried Nat :=
  match columnIndex? table.columns name with
  | some index => .ok index
  | none => .error (.noSuchColumn name statement offset)

/-- The distinct values of a column of a table, all of which must be integers. -/
def Content.distinct (content : Content) (column name : String) : Queried (List Int) := do
  let statement := "SELECT DISTINCT " ++ column ++ " FROM " ++ name
  let table ← content.table statement name
  let index ← table.column statement column "SELECT DISTINCT ".utf8ByteSize
  distinctIntegers (table.columns[index]?.getD column) [] (table.cellsAt index)

/-- All rows of a table. -/
def Content.rows (content : Content) (name : String) : Queried (List Row) := do
  let table ← content.table ("SELECT * FROM " ++ name) name
  .ok table.toRows

end Rollup.Store
