namespace Rollup

/-- What a column of a row holds. -/
inductive Value where
  | null
  | integer (n : Int)
  | text (text : String)
deriving DecidableEq, Repr, Inhabited

/-- The types of stored values, those included that no column of a row can hold. -/
inductive StoredType where
  | null
  | integer
  | real
  | text
  | blob
deriving DecidableEq, Repr

def StoredType.name : StoredType → String
  | .null => "null"
  | .integer => "integer"
  | .real => "real"
  | .text => "text"
  | .blob => "blob"

def Value.type : Value → StoredType
  | .null => .null
  | .integer _ => .integer
  | .text _ => .text

/-- What a column was asked for. -/
inductive Demand where
  | text
  | integer
  | boolean
  /-- Either of the two types that a value can have. -/
  | value
deriving DecidableEq, Repr

def Demand.name : Demand → String
  | .text => "text"
  | .integer => "integer"
  | .boolean => "boolean"
  | .value => "integer or text"

/-- Why a column, or the next row, cannot be read. -/
inductive RowFault where
  | missingColumn (column : String)
  | unexpectedNull (column : String)
  | typeMismatch (column : String) (expected : Demand) (found : StoredType)
  | malformedText (column : String)
  /-- There is no telling whether another row follows. -/
  | fetch (cause : String)
deriving DecidableEq, Repr

def RowFault.message : RowFault → String
  | .missingColumn column => s!"column {column} is missing from the row"
  | .unexpectedNull column => s!"column {column} must not be null"
  | .typeMismatch column expected found =>
    "column " ++ column ++ " holds " ++ found.name ++ ", expected " ++ expected.name
  | .malformedText column => s!"column {column} is not valid UTF-8"
  | .fetch cause => s!"failed to fetch the next row: {cause}"

/-- A row answers for each column that it is asked for. -/
abbrev Row := String → Except RowFault Value

namespace Row

/-- The text in a column, unless it is null. -/
def text (row : Row) (column : String) : Except RowFault (Option String) := do
  match ← row column with
  | .null => .ok none
  | .text text => .ok (some text)
  | other => .error (.typeMismatch column .text other.type)

def integer (row : Row) (column : String) : Except RowFault (Option Int) := do
  match ← row column with
  | .null => .ok none
  | .integer n => .ok (some n)
  | other => .error (.typeMismatch column .integer other.type)

/-- The truth value that a column spells as a number, a letter or a word; none for any other
value. -/
def truthOf? : Value → Option Bool
  | .integer 0 => some false
  | .integer 1 => some true
  | .text "f" | .text "false" => some false
  | .text "t" | .text "true" => some true
  | _ => none

/-- The truth value in a column, unless it is null. -/
def boolean (row : Row) (column : String) : Except RowFault (Option Bool) := do
  match ← row column with
  | .null => .ok none
  | value =>
    match truthOf? value with
    | some b => .ok (some b)
    | none => .error (.typeMismatch column .boolean value.type)

/-- A reading that must not be null. -/
def notNull {α : Type} (column : String) (reading : Except RowFault (Option α)) :
    Except RowFault α := do
  match ← reading with
  | some x => .ok x
  | none => .error (.unexpectedNull column)

def requireText (row : Row) (column : String) : Except RowFault String :=
  notNull column (row.text column)

def requireInteger (row : Row) (column : String) : Except RowFault Int :=
  notNull column (row.integer column)

def requireBoolean (row : Row) (column : String) : Except RowFault Bool :=
  notNull column (row.boolean column)

end Row

/-- Rows in the order in which they are fetched, and the cause for which the fetch after the last of
them fails, if it does not find the end. -/
structure RowFeed where
  rows : List Row
  failure : Option String := none

/-- The rows up to the fetch that fails, which is the one after `count` rows. -/
def RowFeed.failingAfter (rows : List Row) (count : Nat) (cause : String) : RowFeed :=
  if count ≤ rows.length then ⟨rows.take count, some cause⟩ else ⟨rows, none⟩

end Rollup
