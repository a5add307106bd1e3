import Rollup.Decimal.Numeral
import Rollup.Json.Basic
import Rollup.Output.Formatter

namespace Rollup

namespace JsonLines

open Json (ofNat ofInt optional)

/-- A number, which JSON has for the finite ones only. -/
def ofFloat (x : Float) : Json := if x.isFinite then .number (Decimal.numeral x) else .null

/-- Tags as an object with a member for each of them. -/
def ofTags (tags : Tags) : Json := .object (tags.map fun (key, value) => (key, .string value))

/-- The members that name a user, none of them if nobody may be named. -/
def userMembers (uid? : Option Nat) (displayName? : Option String) : List (String × Json) :=
  optional "uid" ofNat uid? ++ optional "display_name" .string displayName?

/-- The members that all elements share. -/
def elementMembers (element : Element) : List (String × Json) :=
  [("id", ofNat element.id), ("version", ofNat element.version),
    ("timestamp", .string element.timestamp), ("changeset", ofInt element.changeset),
    ("visible", .bool element.visible)] ++ userMembers element.uid? element.displayName?

def ofMember (member : Member) : Json :=
  .object [("type", .string member.kind.name), ("ref", ofNat member.id),
    ("role", .string member.role)]

/-- The members that are particular to a kind of elements. -/
def bodyMembers : Body → List (String × Json)
  | .node location => [("lon", ofFloat location.lon), ("lat", ofFloat location.lat)]
  | .way nodes => [("nodes", .array (nodes.map ofNat))]
  | .relation members => [("members", .array (members.map ofMember))]

def ofLocation (location : Location) : Json :=
  .object [("x", ofFloat location.lon), ("y", ofFloat location.lat)]

def ofBoundingBox (box : BoundingBox) : Json :=
  .object [("min", ofLocation box.min), ("max", ofLocation box.max)]

def ofComment (comment : Comment) : Json :=
  .object [("id", ofNat comment.id), ("author_id", ofNat comment.authorId),
    ("body", .string comment.body), ("created_at", .string comment.createdAt),
    ("author_display_name", .string comment.authorDisplayName)]

/-- The members of a changeset but for its tags and its discussion. -/
def changesetMembers (changeset : Changeset) : List (String × Json) :=
  [("id", ofInt changeset.id), ("created_at", .string changeset.createdAt),
    ("closed_at", .string changeset.closedAt)] ++
    userMembers changeset.uid? changeset.displayName? ++
    optional "bounding_box" ofBoundingBox changeset.boundingBox? ++
    [("num_changes", ofNat changeset.numChanges),
      ("comments_count", ofNat changeset.commentsCount)]

/-- The members that a record has besides its type. -/
def recordMembers : Record → List (String × Json)
  | .element element body tags =>
    elementMembers element ++ bodyMembers body ++ [("tags", ofTags tags)]
  | .changeset changeset tags withDiscussion comments now =>
    changesetMembers changeset ++
      [("open", .bool (changeset.isOpenAt now)), ("tags", ofTags tags)] ++
      optional "discussion" (fun comments => .array (comments.map ofComment))
        (if withDiscussion then some comments else none)

/-- A record as an object, its kind first. -/
def ofRecord (record : Record) : Json :=
  .object (("type", .string record.kind.name) :: recordMembers record)

/-- The pieces that a record's line is written in, the line's end being the last. -/
def linePieces (record : Record) : List String := (ofRecord record).pieces ++ ["\n"]

/-- The line of a record, its newline included. -/
def line (record : Record) : String := String.join (linePieces record)

/-- Writes pieces one after another up to the first one that fails. -/
def writePieces {σ : Type} [Sink σ] (sink : σ) : List String → σ × Option String
  | [] => (sink, none)
  | piece :: rest =>
    match Sink.write sink piece.toUTF8 with
    | (sink, none) => writePieces sink rest
    | failed => failed

def formatter {σ : Type} [Sink σ] : Formatter σ := fun sink record =>
  let (sink, cause) := writePieces sink (linePieces record)
  (sink, cause.map .write)

/-- Brings out what the sink may hold back. -/
def finish {σ : Type} [Sink σ] (sink : σ) : σ × Option FormatFault :=
  let (sink, cause) := Sink.flush sink
  (sink, cause.map .write)

end JsonLines

end Rollup
