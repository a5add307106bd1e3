import Rollup.Text.Quoted

/-!
Array literals: a list of texts written between braces, such as `{highway,"a \"b\"",NULL}`. An
element is absent when it is written bare and is empty or the word `NULL`.
-/

namespace Rollup.ArrayLiteral

/-- What becomes of absent elements. -/
inductive Absence where
  /-- They stay apart from empty texts. -/
  | keep
  /-- They read as empty texts, and an array of nothing but `NULL` reads as the empty array. -/
  | collapse
deriving DecidableEq, Repr

/-- An element of an array, its escapes still in place. -/
inductive Item where
  | absent
  /-- The text between the delimiters, and whether backslashes in it are escapes. -/
  | present (text : String) (escaped : Bool)
deriving DecidableEq, Repr, Inhabited

/-- Why a text is no array literal. -/
inductive ArrayFault where
  | missingOpeningBrace
  | missingClosingBrace
  /-- The text ends within a quoted element, whose opening quote is at this byte. -/
  | unterminatedQuote (offset : Nat)
  /-- The character after a closing quote is no delimiter; it is found at this byte. -/
  | unexpectedAfterQuote (offset : Nat) (found : Char)
deriving DecidableEq, Repr

def ArrayFault.message : ArrayFault → String
  | .missingOpeningBrace => "array literal does not start with '\x7b'"
  | .missingClosingBrace => "array literal does not end with '\x7d'"
  | .unterminatedQuote offset => s!"quoted element opened at byte {offset} is never closed"
  | .unexpectedAfterQuote offset found =>
    "unexpected " ++ Text.quotedChar found ++ s!" at byte {offset} after a closing quote"

/-- The word that an absent element is written as. -/
def nullWord : String := "NULL"

/-- The element that bare text between two delimiters makes. -/
def Item.ofBare (absence : Absence) (text : String) : Item :=
  if text = "" ∨ text = nullWord then
    match absence with
    | .keep => .absent
    | .collapse => .present "" false
  else .present text false

/-- The text of an element, escapes still in place. -/
def Item.text? : Item → Option String
  | .absent => none
  | .present text _ => some text

/-- Whether backslashes in the text of an element are escapes. -/
def Item.escaped : Item → Bool
  | .absent => false
  | .present _ escaped => escaped

def Item.isAbsent : Item → Bool
  | .absent => true
  | .present .. => false

end Rollup.ArrayLiteral
