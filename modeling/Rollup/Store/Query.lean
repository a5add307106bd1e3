import Rollup.Decimal.Shortest
import Rollup.Store.Basic

namespace Rollup.Store

/-- Why nothing can be read from where a database is stored. -/
inductive StorageFault where
  | cannotOpen
  | notADatabase
  /-- What should be a database contradicts itself. -/
  | malformed
  | unsupportedFormat
  /-- A change that was broken off would have to be undone, but nothing may be written. -/
  | needsWriting
  | inputOutput
deriving DecidableEq, Repr

def StorageFault.message : StorageFault → String
  | .cannotOpen => "unable to open database file"
  | .notADatabase => "file is not a database"
  | .malformed => "database disk image is malformed"
  | .unsupportedFormat => "unsupported file format"
  | .needsWriting => "attempt to write a readonly database"
  | .inputOutput => "disk I/O error"

/-- Why a query fails. -/
inductive QueryFault where
  | storage (cause : StorageFault)
  | noSuchTable (table : String)
  /-- A table stands for something that must be given arguments. -/
  | argumentsNeeded (table : String)
  /-- A column named at a byte offset of a statement is not in the table. -/
  | noSuchColumn (column statement : String) (offset : Nat)
  /-- A word cannot stand where it stands in a statement. -/
  | misplacedWord (word statement : String) (offset : Nat)
  /-- A column of the result, counted from zero, holds a value of a type not asked for. -/
  | invalidType (found : StoredType) (index : Nat) (column : String)
  /-- The text in a column of the result is not UTF-8. -/
  | malformedText (index : Nat) (cause : Text.Utf8Fault)
deriving DecidableEq, Repr

/-- A fault with the place in the statement where it lies. -/
def located (message statement : String) (offset : Nat) : String :=
  message ++ " in " ++ statement ++ " at offset " ++ toString offset

def typeTitle : StoredType → String
  | .null => "Null"
  | .integer => "Integer"
  | .real => "Real"
  | .text => "Text"
  | .blob => "Blob"

def QueryFault.message : QueryFault → String
  | .storage cause => cause.message
  | .noSuchTable table => s!"no such table: {table}"
  | .argumentsNeeded table => s!"invalid arguments to {table} constructor"
  | .noSuchColumn column statement offset =>
    located ("no such column: " ++ column) statement offset
  | .misplacedWord word statement offset =>
    located ("near \"" ++ word ++ "\": syntax error") statement offset
  | .invalidType found index column =>
    "Invalid column type " ++ typeTitle found ++ s!" at index: {index}, name: {column}"
  | .malformedText index cause =>
    s!"Conversion error from type Text at index: {index}, " ++ cause.message

/-- What a query yields unless it fails. -/
abbrev Queried (α : Type) := Except QueryFault α

namespace Cell

/-- Whether a cell and an integer are the same number. -/
def isNumber (n : Int) : Cell → Bool
  | .integer m => m == n
  | .real x => Decimal.isInteger x n
  | _ => false

/-- The integer in a cell of the result. -/
def integerAt (index : Nat) (column : String) : Cell → Queried Int
  | .integer n => .ok n
  | cell => .error (.invalidType cell.type index column)

def textAt (index : Nat) (column : String) : Cell → Queried String
  | .text bytes => (Text.decodeUtf8 bytes).mapError (.malformedText index)
  | cell => .error (.invalidType cell.type index column)

end Cell

/-- The distinct values of a column in storage order, all of which must be integers, when the values
`seen` came before. A number that came before is left out, whatever its type. -/
def distinctIntegers (column : String) (seen : List Int) : List Cell → Queried (List Int)
  | [] => .ok []
  | cell :: rest =>
    if seen.any fun n => cell.isNumber n then distinctIntegers column seen rest
    else do
      let n ← cell.integerAt 0 column
      .ok (n :: (← distinctIntegers column (n :: seen) rest))

namespace Table

/-- The cells of a column by its place among the columns; a cell that is not there is null. -/
def cellsAt (table : Table) (index : Nat) : List Cell :=
  table.rows.map fun cells => cells[index]?.getD .null

end Table

end Rollup.Store
