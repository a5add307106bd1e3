import Rollup.ArrayLiteral.Texts
import Rollup.Extract.Parallel
import Rollup.Record

namespace Rollup

open ArrayLiteral (Item)

/-- A number of a column that must not be negative. -/
def unsigned (column : String) (n : Int) : Extracted Nat :=
  if n < 0 then .error (.badIdentifier column (toString n)) else .ok n.toNat

def requireUnsigned (row : Row) (column : String) : Extracted Nat := do
  unsigned column (← Extracted.ofRow (row.requireInteger column))

/-- The identifier that the raw text of an element spells; an absent one spells none. -/
def itemId (column : String) (item : Item) : Extracted Nat :=
  let text := item.text?.getD ""
  match readId? text with
  | some id => .ok id
  | none => .error (.badIdentifier column text)

namespace Tags

def columns : Vector String 2 := #v["tag_k", "tag_v"]

/-- The tag at a position, unless its key is absent. -/
def ofItems? (items : Vector Item 2) : Option (String × String) :=
  items[0].resolved?.map fun key => (key, items[1].resolved)

def read (row : Row) : Extracted Tags := do
  let positions ← Parallel.read row columns
  .ok (positions.filterMap ofItems?)

end Tags

namespace Member

def columns : Vector String 3 := #v["member_types", "member_ids", "member_roles"]

/-- Whether neither a type nor an identifier stands at a position. -/
def isVacant (items : Vector Item 3) : Bool := items[0].isAbsent && items[1].isAbsent

/-- The kind of a member by its code. -/
def kindOf (item : Item) : Extracted ElementKind :=
  match ElementKind.ofMemberCode? item.resolved with
  | some kind => .ok kind
  | none => .error (.unknownMemberCode item.resolved)

/-- The member at a position. Its type is read before its identifier. -/
def ofItems (items : Vector Item 3) : Extracted Member := do
  let kind ← kindOf items[0]
  let id ← itemId "member_ids" items[1]
  .ok { kind, id, role := items[2].resolved }

/-- The members of a relation, vacant positions left out. -/
def read (row : Row) : Extracted (List Member) := do
  let positions ← Parallel.read row columns
  (positions.filter fun items => !isVacant items).mapM ofItems

end Member

namespace Comment

def columns : Vector String 5 :=
  #v["comment_id", "comment_author_id", "comment_display_name", "comment_body",
    "comment_created_at"]

/-- The comment at a position. The columns are read from left to right. -/
def ofItems (items : Vector Item 5) : Extracted Comment := do
  let id ← itemId "comment_id" items[0]
  let authorId ← itemId "comment_author_id" items[1]
  .ok
    { id, authorId, body := items[3].resolved, createdAt := items[4].resolved
      authorDisplayName := items[2].resolved }

/-- The comments on a changeset, positions without an identifier left out. -/
def read (row : Row) : Extracted (List Comment) := do
  let positions ← Parallel.read row columns
  (positions.filter fun items => !items[0].isAbsent).mapM ofItems

end Comment

/-- The nodes of a way, of which there are none if the column is null. -/
def readNodes (row : Row) : Extracted (List Nat) := do
  let literal ← Extracted.ofRow (row.text "node_ids")
  match ArrayLiteral.decodeIds .unsigned64 (literal.getD "") with
  | .ok ids => .ok (ids.map Int.toNat)
  | .error (.malformed cause) => .error (.malformedArray "node_ids" cause)
  | .error (.conversion value) => .error (.badIdentifier "node_ids" value)

end Rollup
