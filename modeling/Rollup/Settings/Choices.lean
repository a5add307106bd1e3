import Rollup.Kind
import Rollup.Numeral
import Rollup.Settings.Layer

namespace Rollup

/-- What has been chosen, setting by setting. -/
structure Choices where
  database : Option String := none
  kind : Option RecordKind := none
  table : Option String := none
  factor : Option Nat := none
  includeDiscussions : Option Bool := none
  asOf : Option String := none
  logLevel : Option String := none
deriving DecidableEq, Repr

namespace Choices

/-- Reads a setting that may be left out or null; anything else must be of its type. -/
def read {α : Type} (layer : Layer) (name : String) (typed : Datum → Option α) :
    Option (Option α) :=
  match layer.get? name with
  | none | some .null => some none
  | some datum => (typed datum).map some

def text? : Datum → Option String
  | .text text => some text
  | _ => none

def bool? : Datum → Option Bool
  | .bool b => some b
  | _ => none

/-- A kind of records by its plural name, which may also stand over nothing in a table. -/
def kind? : Datum → Option RecordKind
  | .text name | .table [(name, .null)] => RecordKind.ofPluralName? name
  | _ => none

/-- A scale's factor is an unsigned number of 32 bits. -/
def factor? : Datum → Option Nat
  | .integer n => if IntegerType.unsigned32.Holds n then some n.toNat else none
  | _ => none

/-- The choices that a layer makes; none if a setting is not of its type. What is no setting is
ignored. -/
def ofLayer? (layer : Layer) : Option Choices := do
  let database ← read layer "database" text?
  let kind ← read layer "kind" kind?
  let table ← read layer "table" text?
  let factor ← read layer "scale" factor?
  let includeDiscussions ← read layer "include_discussions" bool?
  let asOf ← read layer "as_of" text?
  let logLevel ← read layer "log_level" text?
  some { database, kind, table, factor, includeDiscussions, asOf, logLevel }

/-- The choices that several layers make together, if any of them says anything. -/
def ofLayers? (layers : List Layer) : Option Choices :=
  if layers.all List.isEmpty then none else ofLayer? (Layer.merge layers)

end Choices

end Rollup
