import Rollup.Json.Basic
import Rollup.Json.Reader
import Rollup.Output.JsonLines

/-!
JSON lines read back. What a line tells of its record are all fields of the record that are written;
coordinates stay as they are written.
-/

namespace Rollup.JsonLines

/-- The corners of a rectangle as they are written. -/
structure BoxReading where
  minLon : Json
  minLat : Json
  maxLon : Json
  maxLat : Json

/-- What a line tells of a body. -/
inductive BodyReading where
  | node (lon lat : Json)
  | way (nodes : List Nat)
  | relation (members : List Member)

/-- What a line tells of a changeset. -/
structure ChangesetReading where
  id : Int
  createdAt : String
  closedAt : String
  uid? : Option Nat
  displayName? : Option String
  boundingBox? : Option BoxReading
  numChanges : Nat
  commentsCount : Nat
  isOpen : Bool
  discussion? : Option (List Comment)

/-- What a line tells. -/
inductive Reading where
  | element (element : Element) (body : BodyReading) (tags : Tags)
  | changeset (changeset : ChangesetReading) (tags : Tags)

/-- What is written of a bounding box. -/
def BoxReading.ofBox (box : BoundingBox) : BoxReading :=
  ⟨ofFloat box.min.lon, ofFloat box.min.lat, ofFloat box.max.lon, ofFloat box.max.lat⟩

/-- What is written of a body. -/
def BodyReading.ofBody : Body → BodyReading
  | .node location => .node (ofFloat location.lon) (ofFloat location.lat)
  | .way nodes => .way nodes
  | .relation members => .relation members

/-- What is written of a changeset at an instant. -/
def ChangesetReading.of (changeset : Changeset) (comments? : Option (List Comment))
    (now : Instant) : ChangesetReading :=
  { changeset with
    boundingBox? := changeset.boundingBox?.map .ofBox
    isOpen := changeset.isOpenAt now
    discussion? := comments? }

/-- What the line of a record tells. -/
def Reading.ofRecord : Record → Reading
  | .element head body tags => .element head (.ofBody body) tags
  | .changeset head tags withDiscussion comments now =>
    .changeset (.of head (if withDiscussion then some comments else none) now) tags

def readMember? (json : Json) : Option Member := do
  let kind ← json.field? "type" Json.string?
  return {
    kind := ← ElementKind.ofName? kind
    id := ← json.field? "ref" Json.nat?
    role := ← json.field? "role" Json.string? }

def readComment? (json : Json) : Option Comment := do
  return {
    id := ← json.field? "id" Json.nat?
    authorId := ← json.field? "author_id" Json.nat?
    body := ← json.field? "body" Json.string?
    createdAt := ← json.field? "created_at" Json.string?
    authorDisplayName := ← json.field? "author_display_name" Json.string? }

def readBox? (json : Json) : Option BoxReading := do
  let least ← json.value? "min"
  let greatest ← json.value? "max"
  return ⟨← least.value? "x", ← least.value? "y", ← greatest.value? "x", ← greatest.value? "y"⟩

def readTags? (json : Json) : Option Tags := json.field? "tags" (Json.members? Json.string?)

/-- The shared fields of the element that an object tells of. -/
def readElement? (json : Json) : Option Element := do
  return {
    id := ← json.field? "id" Json.nat?
    version := ← json.field? "version" Json.nat?
    timestamp := ← json.field? "timestamp" Json.string?
    changeset := ← json.field? "changeset" Json.int?
    visible := ← json.field? "visible" Json.bool?
    uid? := ← json.optionalField? "uid" Json.nat?
    displayName? := ← json.optionalField? "display_name" Json.string? }

/-- The body of the element of a kind that an object tells of. -/
def readBody? (kind : ElementKind) (json : Json) : Option BodyReading :=
  match kind with
  | .node => do return .node (← json.value? "lon") (← json.value? "lat")
  | .way => (json.field? "nodes" (Json.items? Json.nat?)).map .way
  | .relation => (json.field? "members" (Json.items? readMember?)).map .relation

def readChangeset? (json : Json) : Option ChangesetReading := do
  return {
    id := ← json.field? "id" Json.int?
    createdAt := ← json.field? "created_at" Json.string?
    closedAt := ← json.field? "closed_at" Json.string?
    uid? := ← json.optionalField? "uid" Json.nat?
    displayName? := ← json.optionalField? "display_name" Json.string?
    boundingBox? := ← json.optionalField? "bounding_box" readBox?
    numChanges := ← json.field? "num_changes" Json.nat?
    commentsCount := ← json.field? "comments_count" Json.nat?
    isOpen := ← json.field? "open" Json.bool?
    discussion? := ← json.optionalField? "discussion" (Json.items? readComment?) }

/-- What an object tells of the record that it was written for. -/
def Reading.ofJson? (json : Json) : Option Reading := do
  let kind ← json.field? "type" Json.string?
  if kind = RecordKind.changeset.name then
    return .changeset (← readChangeset? json) (← readTags? json)
  else
    let kind ← ElementKind.ofName? kind
    return .element (← readElement? json) (← readBody? kind json) (← readTags? json)

def newline : UInt8 := 0x0A

/-- What stands before, between and after the newlines in bytes. -/
def splitLines (bytes : ByteArray) : List ByteArray :=
  (bytes.data.toList.splitOn newline).map List.toByteArray

/-- What a line tells, given without its end. -/
def readLine? (line : ByteArray) : Option Reading := do
  let json ← Json.read? (← String.fromUTF8? line)
  Reading.ofJson? json

end Rollup.JsonLines
