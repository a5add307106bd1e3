import Rollup.Store.Database
import Rollup.Store.Image.Tree

namespace Rollup.Store.Image

/-- The tokens of a statement. -/
inductive Token where
  | word (text : String)
  | quoted (text : String)
  | mark (c : Char)
deriving DecidableEq, Repr

/-- Whether a character goes on with a word. -/
def isWordChar (c : Char) : Bool := c.isAlphanum || c = '_' || c = '$' || 0x80 ≤ c.toNat

/-- What closes a quotation that a character opens. -/
def closing? (c : Char) : Option Char :=
  if c = '"' || c = '\'' || c.toNat = 0x60 then some c else if c = '[' then some ']' else none

/-- A quoted text after its opening mark, and what follows. A closing mark written twice stands for
itself. -/
def quotedText (mark : Char) : List Char → List Char × List Char
  | [] => ([], [])
  | [c] => if c = mark then ([], []) else ([c], [])
  | c :: d :: rest =>
    if c = mark then
      if d = mark ∧ mark ≠ ']' then
        let (text, rest) := quotedText mark rest
        (mark :: text, rest)
      else ([], d :: rest)
    else
      let (text, rest) := quotedText mark (d :: rest)
      (c :: text, rest)

/-- What follows the end of a comment between slashes and stars. -/
def skipComment : List Char → List Char
  | [] => []
  | '*' :: '/' :: rest => rest
  | _ :: rest => skipComment rest

/-- The pieces of a statement, of which there are at most `count`. -/
def tokens (text : List Char) : Nat → List Token
  | 0 => []
  | count + 1 =>
    match text with
    | [] => []
    | '-' :: '-' :: rest => tokens (rest.dropWhile (· ≠ '\n')) count
    | '/' :: '*' :: rest => tokens (skipComment rest) count
    | c :: rest =>
      match closing? c with
      | some mark =>
        let (text, rest) := quotedText mark rest
        .quoted (String.ofList text) :: tokens rest count
      | none =>
        if isWordChar c then
          .word (String.ofList (text.takeWhile isWordChar)) ::
            tokens (text.dropWhile isWordChar) count
        else if c.isWhitespace then tokens rest count
        else .mark c :: tokens rest count

/-- The definitions in a statement after the opening parenthesis, and what follows the closing one.
`depth` counts the parentheses open within the definition being read. -/
def definitions (depth : Nat) : List Token → List (List Token) × List Token
  | [] => ([[]], [])
  | token :: rest =>
    let add := fun (parsed : List (List Token) × List Token) =>
      match parsed with
      | (first :: others, rest) => ((token :: first) :: others, rest)
      | ([], rest) => ([[token]], rest)
    match token, depth with
    | .mark ')', 0 => ([[]], rest)
    | .mark ',', 0 =>
      let (others, rest) := definitions 0 rest
      ([] :: others, rest)
    | .mark '(', depth => add (definitions (depth + 1) rest)
    | .mark ')', depth + 1 => add (definitions depth rest)
    | _, depth => add (definitions depth rest)

/-- A column as a statement describes it. -/
structure Column where
  name : String
  /-- Whether the column is the number of the row, which is not stored in it. -/
  isRowNumber : Bool := false
  /-- Whether the column turns integers into real numbers. -/
  isReal : Bool := false
deriving DecidableEq, Repr

/-- The words among tokens, in lower case. -/
def words (tokens : List Token) : List String :=
  tokens.filterMap fun token =>
    match token with
    | .word text => some text.toLower
    | _ => none

/-- The words that a constraint on a table begins with. -/
def tableConstraints : List String := ["constraint", "primary", "unique", "check", "foreign"]

/-- The words that end the type of a column. -/
def columnConstraints : List String :=
  ["constraint", "primary", "not", "null", "unique", "check", "default", "collate", "references",
    "generated", "as"]

/-- Whether a text has a part somewhere in it. -/
def holds (text part : String) : Bool := 1 < (text.splitOn part).length

/-- Whether a type makes real numbers of integers. -/
def isRealType (type : String) : Bool :=
  let others := ["int", "char", "clob", "text", "blob"]
  ["real", "floa", "doub"].any (holds type) && !others.any (holds type)

/-- The column that a definition makes, unless it is a constraint on the table. -/
def column? : List Token → Option Column
  | .quoted name :: rest => some (ofWords name (words rest))
  | .word name :: rest =>
    if tableConstraints.contains name.toLower then none else some (ofWords name (words rest))
  | _ => none
where
  /-- The column with a name and the words after it. -/
  ofWords (name : String) (words : List String) : Column :=
    let type := words.takeWhile fun word => !columnConstraints.contains word
    let rest := words.dropWhile (· ≠ "primary")
    { name
      isRowNumber := type = ["integer"] ∧ rest.take 2 = ["primary", "key"] ∧ rest[2]? ≠ some "desc"
      isReal := isRealType (" ".intercalate type) }

/-- The column that alone is the key of a table by a constraint on the table. -/
def keyColumn? (definition : List Token) : Option String :=
  match definition with
  | [.word primary, .word key, .mark '(', name, .mark ')'] =>
    if primary.toLower = "primary" ∧ key.toLower = "key" then
      match name with
      | .word text | .quoted text => some text
      | .mark _ => none
    else none
  | _ => none

/-- The columns of the table that a statement makes; none if the table keeps its rows in another
order than that of their numbers. -/
def columns? (statement : String) : Option (List Column) :=
  let tokens := tokens statement.toList statement.length
  let (definitions, rest) := definitions 0 ((tokens.dropWhile (· ≠ .mark '(')).drop 1)
  if (words rest).contains "without" then none
  else
    let key? := definitions.findSome? keyColumn?
    let isKey := fun (name : String) => key?.any fun key => SameName key name
    some (definitions.filterMap fun definition => (column? definition).map fun column =>
      if isKey column.name ∧ (words definition).drop 1 = ["integer"] then
        { column with isRowNumber := true }
      else column)

/-- A cell as the column has it. -/
def Column.cell (column : Column) (number : Int) (cell : Cell) : Cell :=
  if column.isRowNumber then .integer number
  else
    match cell with
    | .integer n => if column.isReal then .real (Float.ofInt n) else .integer n
    | cell => cell

/-- The row with a number in a table of these columns. Columns that the row lacks are null. -/
def row? (image : Image) (columns : List Column) (number : Int) (bytes : ByteArray) :
    Option (List Cell) := do
  let cells ← image.record? bytes
  let padded := cells ++ List.replicate (columns.length - cells.length) .null
  some ((columns.zip padded).map fun (column, cell) => column.cell number cell)

/-- The table that an entry of the catalog describes, unless it describes something else. -/
def tableOf? (image : Image) (entry : List Cell) : Option (String × Table) := do
  match entry with
  | [.text type, .text name, _, .integer root, .text statement] =>
    let type ← String.fromUTF8? type
    let name ← String.fromUTF8? name
    let columns ← columns? (← String.fromUTF8? statement)
    if type ≠ "table" then none
    else
      let stored ← image.rows? root.toNat heightLimit
      let rows ← stored.mapM fun (number, bytes) => row? image columns number bytes
      some (name, ⟨columns.map Column.name, rows⟩)
  | _ => none

/-- The tables of an image, if what describes them can be read. -/
def tables? (image : Image) : Option (List (String × Table)) := do
  let stored ← image.rows? 1 heightLimit
  let entries ← stored.mapM fun (_, bytes) => image.record? bytes
  some (entries.filterMap image.tableOf?)

end Rollup.Store.Image

namespace Rollup.Store

/-- What bytes are when read as a database. -/
def Content.ofBytes (bytes : ByteArray) : Content :=
  match Image.ofBytes bytes with
  | .error cause => .unreadable cause
  | .ok image =>
    match image.tables? with
    | some tables => .database { tables }
    | none => .unreadable .malformed

end Rollup.Store
