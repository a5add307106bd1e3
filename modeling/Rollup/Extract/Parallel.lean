import Rollup.ArrayLiteral.Scanner
import Rollup.Extract.Fault

/-!
Parallel columns: each holds an array literal, and the elements at one position belong together. All
columns are read before any is scanned, and all are scanned before their lengths are compared. They
can also be walked from position to position, each column with a scanner of its own.
-/

namespace Rollup.Parallel

open ArrayLiteral (Item items)

variable {n : Nat}

/-- The literals of the columns; a null is as good as an empty text. -/
def literals (row : Row) (columns : Vector String n) : Extracted (Vector String n) :=
  columns.mapM fun column => Extracted.ofRow ((row.text column).map fun literal => literal.getD "")

/-- The elements of the literal in a column. -/
def elements (column literal : String) : Extracted (List Item) :=
  (items literal .keep).mapError (.malformedArray column)

/-- The elements at each position, once for every position of the first column. -/
def transpose (lists : Vector (List Item) n) (length : Nat) : List (Vector Item n) :=
  match length with
  | 0 => []
  | length + 1 =>
    lists.map (fun list => list.headD .absent) :: transpose (lists.map List.tail) length

/-- The elements of parallel columns position by position. -/
def read (row : Row) (columns : Vector String n) : Extracted (List (Vector Item n)) := do
  let literals ← literals row columns
  let lists ← (columns.zip literals).mapM fun (column, literal) => elements column literal
  let lengths := lists.toList.map List.length
  let length := lengths.headD 0
  if lengths.all (· = length) then .ok (transpose lists length)
  else .error (.unequalLengths columns.toList lengths)

open ArrayLiteral (Item Scanner)

variable {n : Nat}

/-- How many elements there are in a column. -/
def count (column literal : String) : Extracted Nat := (elements column literal).map List.length

/-- Parallel columns, walked as far as their scanners have come. -/
structure Walk (n : Nat) where
  columns : Vector String n
  scanners : Vector Scanner n

namespace Walk

/-- Whether each number equals the next one. -/
def agree (lengths : List Nat) : Bool := (lengths.zip lengths.tail).all fun (a, b) => a == b

/-- A walk that stands before the first position. -/
def start (row : Row) (columns : Vector String n) : Extracted (Walk n) := do
  let literals ← literals row columns
  let lengths ← (columns.zip literals).mapM fun (column, literal) => count column literal
  if agree lengths.toList then
    .ok { columns, scanners := literals.map fun literal => { input := literal } }
  else .error (.unequalLengths columns.toList lengths.toList)

/-- The next element of a column, if it has not ended, and the scanner after it. -/
def advance (column : String) (scanner : Scanner) : Extracted (Option Item × Scanner) :=
  match scanner.next with
  | (none, rest) => .ok (none, rest)
  | (some (.ok item), rest) => .ok (some item, rest)
  | (some (.error cause), _) => .error (.malformedArray column cause)

/-- The elements at the next position, unless some column has ended, and the walk after them. -/
def next (walk : Walk n) : Extracted (Option (Vector Item n) × Walk n) := do
  let steps ← (walk.columns.zip walk.scanners).mapM fun (column, scanner) => advance column scanner
  let items? :=
    if steps.any fun step => step.1.isNone then none
    else some (steps.map fun step => step.1.getD .absent)
  .ok (items?, { walk with scanners := steps.map Prod.snd })

/-- What a walk comes to after so many steps. -/
def nextAfter (walk : Walk n) : Nat → Extracted (Option (Vector Item n))
  | 0 => do
    let (items?, _) ← walk.next
    .ok items?
  | steps + 1 => do
    let (_, rest) ← walk.next
    rest.nextAfter steps

end Walk

end Rollup.Parallel
