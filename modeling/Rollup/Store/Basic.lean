import Rollup.Row.Basic
import Rollup.Text.Bytes

namespace Rollup.Store

/-- What a cell holds, whatever column it is in. Text is only known to be bytes. -/
inductive Cell where
  | null
  | integer (n : Int)
  | real (x : Float)
  | text (bytes : ByteArray)
  | blob (bytes : ByteArray)

def Cell.type : Cell → StoredType
  | .null => .null
  | .integer _ => .integer
  | .real _ => .real
  | .text _ => .text
  | .blob _ => .blob

/-- Whether two names are the same but for the case of ASCII letters. -/
def SameName (a b : String) : Prop := a.toLower = b.toLower

instance (a b : String) : Decidable (SameName a b) := inferInstanceAs (Decidable (_ = _))

/-- Named columns and rows in storage order. -/
structure Table where
  columns : List String
  rows : List (List Cell)

/-- The place of a column. Names ignore the case of ASCII letters. -/
def columnIndex? (columns : List String) (column : String) : Option Nat :=
  columns.findIdx? fun name => SameName name column

/-- The cell in a column of a row. -/
def cell? (columns : List String) (cells : List Cell) (column : String) : Option Cell :=
  (columnIndex? columns column).bind fun index => cells[index]?

/-- A cell as the value it holds for a column; real numbers and blobs are none. -/
def Cell.value (column : String) : Cell → Except RowFault Value
  | .null => .ok .null
  | .integer n => .ok (.integer n)
  | .text bytes =>
    match String.fromUTF8? bytes with
    | some content => .ok (.text content)
    | none => .error (.malformedText column)
  | cell => .error (.typeMismatch column .value cell.type)

/-- A stored row read by the names of its table's columns. -/
def storedRow (columns : List String) (cells : List Cell) : Row := fun column =>
  match cell? columns cells column with
  | some cell => cell.value column
  | none => .error (.missingColumn column)

namespace Table

/-- The rows of a table as they are read. -/
def toRows (table : Table) : List Row := table.rows.map (storedRow table.columns)

end Table

end Rollup.Store
