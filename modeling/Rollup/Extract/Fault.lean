import Rollup.ArrayLiteral.Ids
import Rollup.Output.Formatter
import Rollup.Row.Basic

namespace Rollup

open ArrayLiteral (ArrayFault)

/-- Why a row does not decode into a record, or why an extraction cannot go on. -/
inductive ExtractFault where
  /-- Columns that should be parallel hold these numbers of elements. -/
  | unequalLengths (columns : List String) (lengths : List Nat)
  | badIdentifier (column value : String)
  | unknownMemberCode (code : String)
  | malformedArray (column : String) (cause : ArrayFault)
  /-- Some bounds of a changeset are null and others are not. -/
  | partialBoundingBox (changeset : Int) (missing : List String)
  | row (cause : RowFault)
  | format (cause : FormatFault)
deriving DecidableEq, Repr

namespace ExtractFault

def message : ExtractFault → String
  | .unequalLengths columns lengths =>
    "parallel columns " ++ Text.bracketed (columns.map Text.quoted) ++ " have different lengths " ++
      Text.bracketed (lengths.map toString)
  | .badIdentifier column value =>
    "column " ++ column ++ " holds " ++ Text.quoted value ++ ", which is not a valid identifier"
  | .unknownMemberCode code => "unknown relation member type code " ++ Text.quoted code
  | .malformedArray column cause =>
    "column " ++ column ++ " holds a malformed array literal: " ++ cause.message
  | .partialBoundingBox changeset missing =>
    s!"changeset {changeset} has a partial bounding box (null: " ++
      Text.bracketed (missing.map Text.quoted) ++ ")"
  | .row cause => cause.message
  | .format cause => cause.message

end ExtractFault

abbrev Extracted (α : Type) := Except ExtractFault α

namespace Extracted

variable {α : Type}

/-- A reading of a column as a part of an extraction. -/
def ofRow (reading : Except RowFault α) : Extracted α := reading.mapError .row

end Extracted

end Rollup
