import Rollup.Kind
import Rollup.Row.Basic

namespace Rollup

/-- A row by its columns, each under its exact name. -/
structure MemoryRow where
  columns : List (String × Value) := []
deriving DecidableEq, Repr, Inhabited

namespace MemoryRow

def erase (row : MemoryRow) (column : String) : MemoryRow :=
  ⟨row.columns.filter fun entry => entry.1 ≠ column⟩

/-- The row with a value put into a column, whatever was there before. -/
def set (row : MemoryRow) (column : String) (value : Value) : MemoryRow :=
  ⟨(row.erase column).columns ++ [(column, value)]⟩

def setText (row : MemoryRow) (column text : String) : MemoryRow := row.set column (.text text)

def setInteger (row : MemoryRow) (column : String) (n : Int) : MemoryRow :=
  row.set column (.integer n)

/-- Truth values are stored as 0 and 1. -/
def setBoolean (row : MemoryRow) (column : String) (b : Bool) : MemoryRow :=
  row.setInteger column (if b then 1 else 0)

def setNull (row : MemoryRow) (column : String) : MemoryRow := row.set column .null

def ofList (columns : List (String × Value)) : MemoryRow :=
  columns.foldl (fun row entry => row.set entry.1 entry.2) {}

/-- The row as it is read. -/
def toRow (row : MemoryRow) : Row := fun column =>
  match row.columns.lookup column with
  | some value => .ok value
  | none => .error (.missingColumn column)

/-- An array literal without elements. -/
def emptyArray : String := "\x7bNULL\x7d"

/-- A first version of an element, without tags. -/
def element (id changeset : Int) : MemoryRow :=
  .ofList [("id", .integer id), ("version", .integer 1),
    ("timestamp", .text "2024-01-01T00:00:00Z"), ("changeset_id", .integer changeset),
    ("visible", .integer 1), ("tag_k", .text emptyArray), ("tag_v", .text emptyArray)]

def node (id changeset : Int) : MemoryRow :=
  ((element id changeset).setInteger "longitude" 0).setInteger "latitude" 0

def way (id changeset : Int) : MemoryRow := (element id changeset).setText "node_ids" emptyArray

def relation (id changeset : Int) : MemoryRow :=
  (((element id changeset).setText "member_types" emptyArray).setText "member_ids"
    emptyArray).setText "member_roles" emptyArray

/-- A changeset that was open for an hour and changed nothing. -/
def changeset (id : Int) : MemoryRow :=
  .ofList [("id", .integer id), ("created_at", .text "2024-01-01T00:00:00Z"),
    ("closed_at", .text "2024-01-01T01:00:00Z"), ("min_lat", .null), ("max_lat", .null),
    ("min_lon", .null), ("max_lon", .null), ("num_changes", .integer 0),
    ("tag_k", .text emptyArray), ("tag_v", .text emptyArray), ("comment_id", .text emptyArray),
    ("comment_author_id", .text emptyArray), ("comment_display_name", .text emptyArray),
    ("comment_body", .text emptyArray), ("comment_created_at", .text emptyArray)]

/-- A plain row of a kind; a changeset's row takes no other changeset. -/
def plain (id changeset : Int) : RecordKind → MemoryRow
  | .element .node => node id changeset
  | .element .way => way id changeset
  | .element .relation => relation id changeset
  | .changeset => .changeset id

end MemoryRow

end Rollup
