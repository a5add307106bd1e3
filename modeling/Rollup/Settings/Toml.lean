import Rollup.Settings.Toml.Scalar
import Rollup.Settings.Toml.Table
import Rollup.Settings.Toml.Text

namespace Rollup.Toml

/-- How many lists and tables may lie within one another, and how many parts a key may have. -/
def nestingLimit : Nat := 79

/-- Whether a character may stand in a key without quotes. -/
def isBareKeyChar (c : Char) : Bool := c.isAlphanum || c = '_' || c = '-'

/-- A key without points, and what follows it. -/
def simpleKey? (text : List Char) : Option (String × List Char) :=
  match text with
  | '"' :: rest => (basic? rest.length rest).map fun (key, rest) => (String.ofList key, rest)
  | '\'' :: rest => (literal? rest).map fun (key, rest) => (String.ofList key, rest)
  | text =>
    let key := text.takeWhile isBareKeyChar
    if key = [] then none else some (String.ofList key, text.dropWhile isBareKeyChar)

/-- A key of at most `count + 1` parts with points between them, and blanks around it left out. -/
def key? (count : Nat) (text : List Char) : Option (List String × List Char) := do
  let (part, rest) ← simpleKey? (skipBlanks text)
  match count, skipBlanks rest with
  | count + 1, '.' :: rest =>
    let (parts, rest) ← key? count rest
    some (part :: parts, rest)
  | _, rest => some ([part], rest)

mutual

/-- A value, and what follows it; lists and tables lie at most `depth` deep within one another. -/
def value? (depth : Nat) (text : List Char) : Option (Datum × List Char) :=
  match depth, text with
  | _, '"' :: _ | _, '\'' :: _ => (string? text).map fun (text, rest) => (.text text, rest)
  | depth + 1, '[' :: rest =>
    (items? depth rest.length rest).map fun (items, rest) => (.list items, rest)
  | depth + 1, '\x7b' :: rest =>
    match skipBlanks rest with
    | '\x7d' :: rest => some (.table [], rest)
    | rest =>
      (entries? depth rest.length [] rest).map fun (entries, rest) =>
        (.table (layerOf entries), rest)
  | _, text => scalarStep? text
termination_by (depth, 0)

/-- The items of a list after its opening bracket, at most `count` of them. -/
def items? (depth count : Nat) (text : List Char) : Option (List Datum × List Char) :=
  match count, skipLines text.length text with
  | _, ']' :: rest => some ([], rest)
  | 0, _ => none
  | count + 1, text => do
    let (item, rest) ← value? depth text
    match skipLines rest.length rest with
    | ']' :: rest => some ([item], rest)
    | ',' :: rest =>
      let (items, rest) ← items? depth count rest
      some (item :: items, rest)
    | _ => none
termination_by (depth, count + 1)

/-- The entries of a table in braces after those read already, at most `count` of them. -/
def entries? (depth count : Nat) (entries : Entries Item) (text : List Char) :
    Option (Entries Item × List Char) :=
  match count with
  | 0 => none
  | count + 1 => do
    let (key, rest) ← key? (nestingLimit - 1) text
    match rest with
    | '=' :: rest =>
      let (datum, rest) ← value? depth (skipBlanks rest)
      let entries ← insert? key datum .declared entries
      match skipBlanks rest with
      | '\x7d' :: rest => some (entries, rest)
      | ',' :: rest => entries? depth count entries rest
      | _ => none
    | _ => none
termination_by (depth, count + 1)

end

/-- What a line of a file says. -/
inductive Statement where
  | entry (key : List String) (datum : Datum)
  /-- What follows belongs to the table at this path. -/
  | header (path : List String)
  /-- What follows belongs to a further table in the list at this path. -/
  | element (path : List String)

/-- A line that says something, without its end. -/
def statement? (text : List Char) : Option (Statement × List Char) :=
  match text with
  | '[' :: '[' :: rest => do
    match ← key? (nestingLimit - 1) rest with
    | (path, ']' :: ']' :: rest) => some (.element path, rest)
    | _ => none
  | '[' :: rest => do
    match ← key? (nestingLimit - 1) rest with
    | (path, ']' :: rest) => some (.header path, rest)
    | _ => none
  | text => do
    match ← key? (nestingLimit - 1) text with
    | (key, '=' :: rest) =>
      let (datum, rest) ← value? nestingLimit (skipBlanks rest)
      some (.entry key datum, rest)
    | _ => none

/-- The statements of a file of at most `count` lines. -/
def statements? (count : Nat) (text : List Char) : Option (List Statement) :=
  match count, skipLines text.length text with
  | _, [] => some []
  | 0, _ => none
  | count + 1, text => do
    let (statement, rest) ← statement? text
    let rest ← endLine? rest
    some (statement :: (← statements? count rest))

/-- A file read so far: all its tables, and the path of the one that entries go to. -/
structure Reading where
  root : Entries Item := []
  path : List String := []

/-- The file as read so far with one more statement, if that may follow. -/
def Reading.step? (reading : Reading) : Statement → Option Reading
  | .entry key datum => do
    let root ← editAt? .passed (insert? key datum) .declared reading.root reading.path
    some { reading with root }
  | .header path => (editHeader? declare? path reading.root).map fun root => { root, path }
  | .element path => (editHeader? extend? path reading.root).map fun root => { root, path }

/-- A file's text without the mark of its byte order, which may stand before all else. -/
def dropByteOrderMark : List Char → List Char
  | '\ufeff' :: rest => rest
  | text => text

/-- The entries of a file, unless it is malformed. -/
def read? (text : String) : Option Layer := do
  let statements ← statements? text.length (dropByteOrderMark text.toList)
  let reading ← statements.foldlM Reading.step? {}
  some (layerOf reading.root)

end Rollup.Toml
