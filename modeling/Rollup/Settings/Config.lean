import Rollup.Record
import Rollup.Log
import Rollup.Settings.Choices
import Rollup.Text.Quoted
import Rollup.Timestamp

namespace Rollup

/-- A configuration that a run can be started with. -/
structure Config where
  database : String
  kind : RecordKind
  table : String
  scale : Scale
  includeDiscussions : Bool
  /-- The instant at which changesets are open or closed, if not that of the run. -/
  asOf : Option Instant
  verbosity : Verbosity

/-- Why choices make no configuration. -/
inductive ConfigFault where
  /-- A setting that must be chosen is not; the environment variable for it is told too. -/
  | missing (setting envName : String)
  | badTable (table : String)
  | zeroScale
  | badTimestamp (setting value : String)
  | badLogLevel (value : String)
deriving DecidableEq, Repr

def ConfigFault.message : ConfigFault → String
  | .missing setting envName => s!"missing {setting} (set --{setting} or {envName})"
  | .badTable table => "table " ++ Text.quoted table ++ " is not a plain identifier"
  | .zeroScale => "invalid coordinate scale: " ++ Scale.zeroMessage
  | .badTimestamp setting value =>
    setting ++ " value " ++ Text.quoted value ++ " is not a YYYY-MM-DDTHH:MM:SSZ timestamp"
  | .badLogLevel value => "unknown log level " ++ Text.quoted value

/-- Whether a name is a letter or an underscore and then letters, digits and underscores, all of
them ASCII. -/
def isIdentifier (name : String) : Bool :=
  match name.toList with
  | [] => false
  | first :: rest => (first.isAlpha || first = '_') && rest.all fun c => c.isAlphanum || c = '_'

namespace Config

/-- A choice that must have been made. -/
def require {α : Type} (setting envName : String) (choice : Option α) : Except ConfigFault α :=
  match choice with
  | some x => .ok x
  | none => .error (.missing setting envName)

def traverse {α β : Type} (choice : Option α) (read : α → Except ConfigFault β) :
    Except ConfigFault (Option β) :=
  match choice with
  | some x => (read x).map some
  | none => .ok none

/-- The name of a table, which must be an identifier. -/
def readTable (table : String) : Except ConfigFault String :=
  if isIdentifier table then .ok table else .error (.badTable table)

def readScale (factor : Nat) : Except ConfigFault Scale :=
  match Scale.ofFactor? factor with
  | some scale => .ok scale
  | none => .error .zeroScale

def readAsOf (value : String) : Except ConfigFault Instant :=
  match Timestamp.read? value with
  | some instant => .ok instant
  | none => .error (.badTimestamp "as-of" value)

def readVerbosity (value : String) : Except ConfigFault Verbosity :=
  match Verbosity.read? value with
  | some verbosity => .ok verbosity
  | none => .error (.badLogLevel value)

/-- Checks choices one after another and completes them. -/
def ofChoices (choices : Choices) : Except ConfigFault Config := do
  let database ← require "database" "MAPFEED_CMDS_EXTRACT_DATABASE" choices.database
  let kind ← require "kind" "MAPFEED_CMDS_EXTRACT_KIND" choices.kind
  let table ← readTable (choices.table.getD kind.defaultTable)
  let scale ← traverse choices.factor readScale
  let asOf ← traverse choices.asOf readAsOf
  let verbosity ← traverse choices.logLevel readVerbosity
  .ok
    { database, kind, table, asOf
      scale := scale.getD .standard
      includeDiscussions := choices.includeDiscussions.getD false
      verbosity := verbosity.getD (.upTo .warn) }

end Config

end Rollup
