import Rollup.Attribution
import Rollup.Kind
import Rollup.Timestamp

namespace Rollup

/-- The number of stored units in a degree. -/
structure Scale where
  factor : Nat
  factor_pos : 0 < factor := by decide

namespace Scale

/-- Seven decimal places, as coordinates are stored unless told otherwise. -/
def standard : Scale := { factor := 10000000 }

instance : Inhabited Scale := ⟨standard⟩

/-- The scale of a factor, which must not be zero. -/
def ofFactor? (factor : Nat) : Option Scale :=
  if h : 0 < factor then some ⟨factor, h⟩ else none

def zeroMessage : String := "coordinate scale must be greater than zero"

/-- A stored coordinate in degrees: the nearest double, divided by the factor. -/
def degrees (scale : Scale) (stored : Int) : Float :=
  Float.ofInt stored / Float.ofNat scale.factor

end Scale

/-- A place, its longitude first. -/
structure Location where
  lon : Float
  lat : Float

/-- The corners of a rectangle, the lesser coordinates in `min`. -/
structure BoundingBox where
  min : Location
  max : Location

def ascending (a b : Float) : Float × Float := if a < b then (a, b) else (b, a)

/-- The rectangle between two corners, each axis ordered by itself. -/
def BoundingBox.between (corner opposite : Location) : BoundingBox :=
  let lon := ascending corner.lon opposite.lon
  let lat := ascending corner.lat opposite.lat
  ⟨⟨lon.1, lat.1⟩, ⟨lon.2, lat.2⟩⟩

namespace Scale

def location (scale : Scale) (lon lat : Int) : Location := ⟨scale.degrees lon, scale.degrees lat⟩

def boundingBox (scale : Scale) (minLon minLat maxLon maxLat : Int) : BoundingBox :=
  .between (scale.location minLon minLat) (scale.location maxLon maxLat)

end Scale

/-- Keys and values in order; a key may come again. -/
abbrev Tags := List (String × String)

/-- What all elements share. -/
structure Element where
  id : Nat
  version : Nat
  timestamp : String
  changeset : Int
  visible : Bool
  uid? : Option Nat
  displayName? : Option String
deriving DecidableEq, Repr

structure Member where
  kind : ElementKind
  id : Nat
  role : String
deriving DecidableEq, Repr

/-- What is particular to a kind of elements. -/
inductive Body where
  | node (location : Location)
  | way (nodes : List Nat)
  | relation (members : List Member)

def Body.kind : Body → ElementKind
  | .node _ => .node
  | .way _ => .way
  | .relation _ => .relation

/-- A comment of the discussion on a changeset. -/
structure Comment where
  id : Nat
  authorId : Nat
  body : String
  createdAt : String
  authorDisplayName : String
deriving DecidableEq, Repr

/-- A changeset, but for its discussion. -/
structure Changeset where
  id : Int
  createdAt : String
  closedAt : String
  uid? : Option Nat
  displayName? : Option String
  boundingBox? : Option BoundingBox
  numChanges : Nat
  commentsCount : Nat

/-- Whether something is open at an instant: its closing time can be read and is later. -/
def isOpenAt (closedAt : String) (now : Instant) : Bool :=
  match Timestamp.read? closedAt with
  | some closing => now < closing
  | none => false

/-- Whether a changeset is still open at an instant, as far as its closing time can be read. -/
def Changeset.isOpenAt (changeset : Changeset) (now : Instant) : Bool :=
  Rollup.isOpenAt changeset.closedAt now

/-- A map element or a changeset, as it is extracted from a row. -/
inductive Record where
  | element (element : Element) (body : Body) (tags : Tags)
  /-- A changeset as of an instant, its comments, and whether they are wanted in the output. -/
  | changeset (changeset : Changeset) (tags : Tags) (withDiscussion : Bool)
    (comments : List Comment) (now : Instant)

def Record.kind : Record → RecordKind
  | .element _ body _ => .element body.kind
  | .changeset .. => .changeset

end Rollup
