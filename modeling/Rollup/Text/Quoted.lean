import Rollup.Text.Characters

namespace Rollup.Text

/-- The digits of a number in base sixteen, lower case. -/
def hex (n : Nat) : List Char := Nat.toDigits 16 n

/-- Whether a character is spelled out by its code point. -/
def needsCodePoint (c : Char) : Bool :=
  if c.toNat < 0x80 then c.toNat < 0x20 || c.toNat == 0x7F else unprintables.has c

/-- A character inside quotation marks of the kind `mark`. -/
def quoteChar (mark c : Char) : List Char :=
  if c = '\x00' then ['\\', '0']
  else if c = '\t' then ['\\', 't']
  else if c = '\r' then ['\\', 'r']
  else if c = '\n' then ['\\', 'n']
  else if c = '\\' then ['\\', '\\']
  else if c = mark then ['\\', c]
  else if needsCodePoint c then ['\\', 'u', '\x7b'] ++ hex c.toNat ++ ['\x7d']
  else [c]

/-- A text in double quotes. -/
def quoted (text : String) : String :=
  String.ofList ('"' :: text.toList.flatMap (quoteChar '"') ++ ['"'])

def quotedChar (c : Char) : String :=
  String.ofList ('\'' :: quoteChar '\'' c ++ ['\''])

/-- A list of values already rendered, in brackets. -/
def bracketed (items : List String) : String := "[" ++ ", ".intercalate items ++ "]"

end Rollup.Text

namespace Rollup.Text.Escape

/-- The value of a digit of base sixteen. -/
def hexDigit? (c : Char) : Option Nat :=
  if c.isDigit then some (c.toNat - '0'.toNat)
  else if 'a' ≤ c ∧ c ≤ 'f' then some (c.toNat - 'a'.toNat + 10)
  else if 'A' ≤ c ∧ c ≤ 'F' then some (c.toNat - 'A'.toNat + 10)
  else none

/-- The character whose code point is written in so many digits of base sixteen, and the rest. -/
def codePoint? (count : Nat) (text : List Char) : Option (Char × List Char) := do
  let digits ← (text.take count).mapM hexDigit?
  let n := digits.foldl (fun n digit => 16 * n + digit) 0
  if digits.length = count ∧ n.isValidChar then some (Char.ofNat n, text.drop count) else none

/-- The character that what follows a backslash stands for, and what follows that. -/
def read? : List Char → Option (Char × List Char)
  | 'b' :: rest => some ('\x08', rest)
  | 't' :: rest => some ('\t', rest)
  | 'n' :: rest => some ('\n', rest)
  | 'f' :: rest => some ('\x0c', rest)
  | 'r' :: rest => some ('\r', rest)
  | '"' :: rest => some ('"', rest)
  | '\\' :: rest => some ('\\', rest)
  | 'u' :: rest => codePoint? 4 rest
  | 'U' :: rest => codePoint? 8 rest
  | _ => none

/-- Whether a character may stand by itself in quotes. -/
def isPlain (c : Char) : Bool := c = '\t' || 0x20 ≤ c.toNat && c.toNat ≠ 0x7F

end Rollup.Text.Escape
