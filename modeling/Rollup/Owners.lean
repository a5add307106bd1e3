import Rollup.Attribution
import Rollup.Store.Database

namespace Rollup.Owners

open Store (Cell Content QueryFault Queried Table)

/-- Why the owners of changesets cannot be loaded. -/
inductive OwnersFault where
  | query (cause : QueryFault)
  /-- A row for a changeset has a negative number for its owner. -/
  | invalidUserId (changeset userId : Int)
deriving DecidableEq, Repr

def OwnersFault.message : OwnersFault → String
  | .query cause => "failed to load changeset owners: " ++ cause.message
  | .invalidUserId changeset userId => s!"changeset {changeset} has invalid owner id {userId}"

/-- How many changesets one query asks for at most. -/
def chunkSize : Nat := 999

/-- A list cut into pieces of one size, and a shorter last one if need be. -/
def chunks {α : Type} (size : Nat) : List α → List (List α)
  | [] => []
  | x :: rest => (x :: rest.take (size - 1)) :: chunks size (rest.drop (size - 1))
termination_by list => list.length

def tableName : String := "changeset_owners"

/-- The columns of a row for a changeset, in the order in which they are read. -/
def columns : List String := ["changeset_id", "user_id", "display_name", "data_public"]

/-- The text of the query for so many changesets. -/
def statement (count : Nat) : String :=
  "SELECT " ++ ", ".intercalate columns ++ " FROM " ++ tableName ++ " WHERE changeset_id IN (" ++
    ", ".intercalate (List.replicate count "?") ++ ")"

/-- Finds columns from left to right, the first of them being named at an offset of a statement. -/
def findColumns (table : Table) (statement : String) (offset : Nat) :
    List String → Queried (List Nat)
  | [] => .ok []
  | name :: rest => do
    let index ← table.column statement name offset
    .ok (index :: (← findColumns table statement (offset + name.utf8ByteSize + 2) rest))

/-- A row for a changeset, its columns read from left to right. Only then is the number of the owner
looked at. -/
def readRow (names : List String) (cells : List Cell) : Except OwnersFault (Int × Owner) := do
  let name := fun index => names[index]?.getD ""
  let cell := fun index => cells[index]?.getD Cell.null
  let changeset ← ((cell 0).integerAt 0 (name 0)).mapError .query
  let userId ← ((cell 1).integerAt 1 (name 1)).mapError .query
  let displayName ← ((cell 2).textAt 2 (name 2)).mapError .query
  let isPublic ← ((cell 3).integerAt 3 (name 3)).mapError .query
  if userId < 0 then .error (.invalidUserId changeset userId)
  else .ok (changeset, ⟨⟨userId.toNat, displayName⟩, isPublic != 0⟩)

/-- Whether a row belongs to one of some changesets. -/
def isAmong (ids : List Int) (cells : List Cell) : Bool :=
  match cells.head? with
  | some cell => ids.any fun id => cell.isNumber id
  | none => false

/-- The owners of some changesets, later rows after earlier ones. -/
def loadChunk (content : Content) (ids : List Int) : Except OwnersFault (List (Int × Owner)) := do
  let statement := statement ids.length
  let table ← (content.table statement tableName).mapError .query
  let indexes ← (findColumns table statement "SELECT ".utf8ByteSize columns).mapError .query
  let names := indexes.map fun index => table.columns[index]?.getD ""
  let picked := table.rows.map fun cells => indexes.map fun index => cells[index]?.getD Cell.null
  (picked.filter (isAmong ids)).mapM (readRow names)

/-- The distinct changesets in ascending order. -/
def ascending (changesets : List Int) : List Int := (Std.TreeSet.ofList changesets).toList

/-- The owners of changesets. Each piece of the changesets is a question of its own, which meets the
rows of the table in storage order; the last row for a changeset counts. -/
def load (content : Content) (changesets : List Int) : Except OwnersFault OwnerCache := do
  let loaded ← (chunks chunkSize (ascending changesets)).mapM (loadChunk content)
  .ok (OwnerCache.ofList loaded.flatten)

end Rollup.Owners
