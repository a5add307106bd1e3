import Rollup.Extract.Children

namespace Rollup

/-- What the one who asks for an extraction may choose. -/
structure Options where
  scale : Scale := .standard
  withDiscussions : Bool := false
  /-- The instant at which changesets are open or closed. -/
  now : Instant := ⟨0, 0⟩

/-- A row read up to the look-up of its changeset. -/
structure Draft where
  changeset : Int
  /-- The record, given the number and the name of the user so far as they may be shown. -/
  finish : Option Nat → Option String → Extracted Record

/-- The columns that elements of all kinds have, the tags apart. -/
structure ElementHead where
  id : Nat
  version : Nat
  timestamp : String
  changeset : Int
  visible : Bool
deriving DecidableEq, Repr

namespace ElementHead

/-- The fields that all elements share but the user, read in this order. -/
def read (row : Row) : Extracted ElementHead := do
  let id ← requireUnsigned row "id"
  let version ← requireUnsigned row "version"
  let timestamp ← Extracted.ofRow (row.requireText "timestamp")
  let changeset ← Extracted.ofRow (row.requireInteger "changeset_id")
  let visible ← Extracted.ofRow (row.requireBoolean "visible")
  .ok { id, version, timestamp, changeset, visible }

/-- The shared fields of an element, of a user if one may be named. -/
def withUser (head : ElementHead) (uid? : Option Nat) (displayName? : Option String) : Element :=
  { head with uid?, displayName? }

end ElementHead

/-- What is particular to a kind of elements. -/
def Body.read (scale : Scale) (row : Row) : ElementKind → Extracted Body
  | .node => do
    let lon ← Extracted.ofRow (row.requireInteger "longitude")
    let lat ← Extracted.ofRow (row.requireInteger "latitude")
    .ok (.node (scale.location lon lat))
  | .way => do .ok (.way (← readNodes row))
  | .relation => do .ok (.relation (← Member.read row))

/-- An element is looked up as soon as the columns common to all kinds are read. -/
def draftElement (options : Options) (kind : ElementKind) (row : Row) : Extracted Draft := do
  let head ← ElementHead.read row
  .ok
    { changeset := head.changeset
      finish := fun uid? displayName? => do
        let tags ← Tags.read row
        let body ← Body.read options.scale row kind
        .ok (.element (head.withUser uid? displayName?) body tags) }

namespace BoundingBox

def columns : List String := ["min_lon", "min_lat", "max_lon", "max_lat"]

/-- The rectangle that four bounds span, if there are any; there must not be only some. -/
def ofBounds (scale : Scale) (changeset : Int) (bounds : List (Option Int)) :
    Extracted (Option BoundingBox) :=
  match bounds with
  | [some minLon, some minLat, some maxLon, some maxLat] =>
    .ok (some (scale.boundingBox minLon minLat maxLon maxLat))
  | _ =>
    if bounds.all Option.isNone then .ok none
    else
      let missing := (columns.zip bounds).filter fun (_, bound) => bound.isNone
      .error (.partialBoundingBox changeset (missing.map Prod.fst))

def read (scale : Scale) (changeset : Int) (row : Row) : Extracted (Option BoundingBox) := do
  let bounds ← columns.mapM fun column => Extracted.ofRow (row.integer column)
  ofBounds scale changeset bounds

end BoundingBox

/-- A changeset is looked up when all of its row has been read. -/
def draftChangeset (options : Options) (row : Row) : Extracted Draft := do
  let id ← Extracted.ofRow (row.requireInteger "id")
  let createdAt ← Extracted.ofRow (row.requireText "created_at")
  let closedAt ← Extracted.ofRow (row.requireText "closed_at")
  let numChanges ← requireUnsigned row "num_changes"
  let boundingBox? ← BoundingBox.read options.scale id row
  let tags ← Tags.read row
  let comments ← Comment.read row
  .ok
    { changeset := id
      finish := fun uid? displayName? =>
        let changeset : Changeset :=
          { id, createdAt, closedAt, uid?, displayName?, boundingBox?, numChanges
            commentsCount := comments.length }
        .ok (.changeset changeset tags options.withDiscussions comments options.now) }

def Draft.read (options : Options) (kind : RecordKind) (row : Row) : Extracted Draft :=
  match kind with
  | .element kind => draftElement options kind row
  | .changeset => draftChangeset options row

end Rollup
