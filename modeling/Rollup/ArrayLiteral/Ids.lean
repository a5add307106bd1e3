import Rollup.Numeral
import Rollup.ArrayLiteral.Basic

namespace Rollup.ArrayLiteral

/-- Why a text is no array of numbers of a type. -/
inductive IdFault where
  | malformed (cause : ArrayFault)
  /-- The text of an element is no number of the type. -/
  | conversion (value : String)
deriving DecidableEq, Repr

def IdFault.message : IdFault → String
  | .malformed cause => cause.message
  | .conversion value => "cannot convert " ++ Text.quoted value ++ " to an integer"

/-- The pieces of a text between its commas, one more than there are commas. -/
def spans : List Char → List (List Char)
  | [] => [[]]
  | c :: rest =>
    match spans rest with
    | [] => [[]]
    | first :: others => if c = ',' then [] :: first :: others else (c :: first) :: others

/-- What stands between the outer braces, which must both be there. -/
def bracedBody (literal : List Char) : Except ArrayFault (List Char) :=
  match literal with
  | '\x7b' :: rest =>
    if rest.getLast? = some '\x7d' then .ok rest.dropLast else .error .missingClosingBrace
  | _ => .error .missingOpeningBrace

/-- The numbers of the pieces, or the first piece that is none. -/
def readSpans (type : IntegerType) : List (List Char) → Except IdFault (List Int)
  | [] => .ok []
  | span :: others =>
    match type.read? span with
    | none => .error (.conversion (String.ofList span))
    | some n => (readSpans type others).map (n :: ·)

/-- The numbers of an array; there are none in the empty text, in empty braces and in braces around
the word `NULL`. -/
def decodeIds (type : IntegerType) (literal : String) : Except IdFault (List Int) :=
  if literal = "" ∨ literal = "\x7b\x7d" ∨ literal = "\x7bNULL\x7d" then .ok []
  else
    match bracedBody literal.toList with
    | .error fault => .error (.malformed fault)
    | .ok body => readSpans type (spans body)

def encodeIds (numbers : List Int) : String :=
  "\x7b" ++ ",".intercalate (numbers.map toString) ++ "\x7d"

end Rollup.ArrayLiteral
