import Rollup.ArrayLiteral.Basic
import Rollup.ArrayLiteral.Scanner

namespace Rollup.ArrayLiteral

/-- Each backslash dropped and the character after it kept; a last lone backslash is dropped too. -/
def unescape : List Char → List Char
  | [] => []
  | ['\\'] => []
  | '\\' :: c :: rest => c :: unescape rest
  | c :: rest => c :: unescape rest

/-- A backslash before each quote and each backslash. -/
def escape : List Char → List Char
  | [] => []
  | c :: rest => if c = '"' ∨ c = '\\' then '\\' :: c :: escape rest else c :: escape rest

/-- The text an element stands for: its own unless it holds escapes. -/
def resolve (text : String) (escaped : Bool) : String :=
  if escaped then String.ofList (unescape text.toList) else text

def quote (text : String) : String :=
  String.ofList ('"' :: escape text.toList ++ ['"'])

/-- The text that an element stands for, unless it is absent. -/
def Item.resolved? : Item → Option String
  | .absent => none
  | .present text escaped => some (resolve text escaped)

/-- The text that an element stands for, and the empty text for an absent one. -/
def Item.resolved (item : Item) : String := item.resolved?.getD ""

theorem unescape_escape (text : List Char) : unescape (escape text) = text := by
  induction text with
  | nil => rfl
  | cons c rest ih =>
    by_cases h : c = '"' ∨ c = '\\'
    · simp [escape, h, unescape, ih]
    · have hb : c ≠ '\\' := fun hc => h (Or.inr hc)
      simp only [escape, if_neg h]
      unfold unescape
      split <;> simp_all

/-- The texts of an array, with empty ones for absent elements. -/
def decodeTexts (literal : String) : Except ArrayFault (List String) :=
  (items literal .collapse).map fun elements => elements.map Item.resolved

/-- Texts as an array, each of them in quotes. -/
def encodeTexts (texts : List String) : String :=
  "\x7b" ++ ",".intercalate (texts.map quote) ++ "\x7d"

end Rollup.ArrayLiteral
