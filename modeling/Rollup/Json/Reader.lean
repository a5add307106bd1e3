import Rollup.Json.Basic
import Rollup.Text.Quoted
import Rollup.Text.Bytes

namespace Rollup.Json

/-- The value that a word stands for. -/
def ofWord? (word : List Char) : Option Json :=
  if word = ['n', 'u', 'l', 'l'] then some .null
  else if word = ['t', 'r', 'u', 'e'] then some (.bool true)
  else if word = ['f', 'a', 'l', 's', 'e'] then some (.bool false)
  else (Numeral.ofChars? word).map .number

/-- The unit of UTF-16 that digits of base sixteen write. -/
def unit? (digits : List Char) : Option Nat :=
  (digits.mapM Text.Escape.hexDigit?).map fun values =>
    values.foldl (fun n digit => 16 * n + digit) 0

/-- Whether a unit is the first of the two that a character takes. -/
def isLeading (unit : Nat) : Bool := 0xD800 ≤ unit && unit < 0xDC00

/-- Whether a unit of two bytes is the second one of a pair. -/
def isTrailing (unit : Nat) : Bool := 0xDC00 ≤ unit && unit < 0xE000

/-- The character that a backslash and another character stand for. -/
def escaped? (c : Char) : Option Char :=
  if c = '"' ∨ c = '\\' ∨ c = '/' then some c
  else if c = 'b' then some '\x08'
  else if c = 'f' then some '\x0c'
  else if c = 'n' then some '\n'
  else if c = 'r' then some '\r'
  else if c = 't' then some '\t'
  else none

/-- The characters that the inside of a string stands for. -/
def unescape? : List Char → Option (List Char)
  | [] => some []
  | '\\' :: 'u' :: a :: b :: c :: d :: rest =>
    match unit? [a, b, c, d] with
    | none => none
    | some first =>
      if isTrailing first then none
      else if isLeading first then
        match rest with
        | '\\' :: 'u' :: a :: b :: c :: d :: rest =>
          match (unit? [a, b, c, d]).filter isTrailing with
          | none => none
          | some second => (unescape? rest).map (Text.pairedChar first second :: ·)
        | _ => none
      else (unescape? rest).map (Char.ofNat first :: ·)
  | '\\' :: c :: rest =>
    match escaped? c with
    | none => none
    | some meant => (unescape? rest).map (meant :: ·)
  | c :: rest => if c = '\\' ∨ c.toNat < 0x20 then none else (unescape? rest).map (c :: ·)

/-- The tokens of JSON text. -/
inductive Token where
  | openArray
  | closeArray
  | openObject
  | closeObject
  | comma
  | colon
  | string (text : String)
  | word (value : Json)

/-- The token that a mark is by itself. -/
def Token.ofMark? (c : Char) : Option Token :=
  if c = '[' then some .openArray
  else if c = ']' then some .closeArray
  else if c = '\x7b' then some .openObject
  else if c = '\x7d' then some .closeObject
  else if c = ',' then some .comma
  else if c = ':' then some .colon
  else none

/-- The token that is begun, with its characters so far in reverse. -/
inductive Begun where
  | nothing
  | word (read : List Char)
  /-- A string, and whether a backslash was the last character. -/
  | string (afterBackslash : Bool) (read : List Char)

/-- Whether a character may stand between tokens. -/
def isBlank (c : Char) : Bool := c = ' ' || c = '\t' || c = '\n' || c = '\r'

/-- Whether a character goes on with a word, such as a number or `null`. -/
def inWord (c : Char) : Bool := c.isAlphanum || c = '-' || c = '+' || c = '.'

/-- A character between tokens: the token that it is, if so, and the token that it begins. -/
def begin? (c : Char) : Option (List Token × Begun) :=
  match Token.ofMark? c with
  | some mark => some ([mark], .nothing)
  | none =>
    if isBlank c then some ([], .nothing)
    else if c = '"' then some ([], .string false [])
    else if inWord c then some ([], .word [c])
    else none

/-- The token that ends with a text, if one was begun and may end there. -/
def end? : Begun → Option (List Token)
  | .nothing => some []
  | .word read => (ofWord? read.reverse).map fun value => [.word value]
  | .string .. => none

/-- The tokens that end with a character, and the one that is begun after it. -/
def next? (begun : Begun) (c : Char) : Option (List Token × Begun) :=
  match begun with
  | .nothing => begin? c
  | .word read =>
    if inWord c then some ([], .word (c :: read))
    else
      match end? begun, begin? c with
      | some ended, some (tokens, begun) => some (ended ++ tokens, begun)
      | _, _ => none
  | .string true read => some ([], .string false (c :: read))
  | .string false read =>
    if c = '"' then
      (unescape? read.reverse).map fun text => ([.string (String.ofList text)], .nothing)
    else some ([], .string (c = '\\') (c :: read))

/-- The tokens of a text after what has been begun. -/
def tokens? (begun : Begun) : List Char → Option (List Token)
  | [] => end? begun
  | c :: rest =>
    match next? begun c with
    | none => none
    | some (ended, begun) => (tokens? begun rest).map (ended ++ ·)

/-- An array or object within which a value is read. What it holds so far stands in reverse. -/
inductive Outer where
  | array (items : List Json)
  /-- An object, and the name of the value within it. -/
  | object (members : List (String × Json)) (name : String)

/-- What has been read of a text. -/
inductive Progress where
  /-- A value may follow. -/
  | atValue (outer : List Outer)
  /-- A name may follow in an object with these members so far. -/
  | atName (members : List (String × Json)) (outer : List Outer)
  | afterName (members : List (String × Json)) (name : String) (outer : List Outer)
  | afterValue (value : Json) (outer : List Outer)

/-- Takes one token. Only an array or object that holds nothing yet may be closed where a value or a
name may follow. -/
def Progress.take? : Progress → Token → Option Progress
  | .atValue outer, .word value => some (.afterValue value outer)
  | .atValue outer, .string text => some (.afterValue (.string text) outer)
  | .atValue outer, .openArray => some (.atValue (.array [] :: outer))
  | .atValue outer, .openObject => some (.atName [] outer)
  | .atValue (.array [] :: outer), .closeArray => some (.afterValue (.array []) outer)
  | .atName members outer, .string name => some (.afterName members name outer)
  | .atName [] outer, .closeObject => some (.afterValue (.object []) outer)
  | .afterName members name outer, .colon => some (.atValue (.object members name :: outer))
  | .afterValue value (.array items :: outer), .comma =>
    some (.atValue (.array (value :: items) :: outer))
  | .afterValue value (.array items :: outer), .closeArray =>
    some (.afterValue (.array (value :: items).reverse) outer)
  | .afterValue value (.object members name :: outer), .comma =>
    some (.atName ((name, value) :: members) outer)
  | .afterValue value (.object members name :: outer), .closeObject =>
    some (.afterValue (.object ((name, value) :: members).reverse) outer)
  | _, _ => none

/-- The value that is read when nothing is left open. -/
def Progress.value? : Progress → Option Json
  | .afterValue value [] => some value
  | _ => none

/-- The value that a text holds, if it holds one and nothing else. Members keep their order and may
be repeated. -/
def read? (text : String) : Option Json :=
  (tokens? .nothing text.toList).bind fun tokens =>
    (tokens.foldlM Progress.take? (.atValue [])).bind Progress.value?

example : (read? "\t[\"\\ud83d\\ude00\\/\" , \x7b\"k\":1, \"k\":-0.5e3\x7d ]\n").map render =
    some "[\"😀/\",\x7b\"k\":1,\"k\":-0.5e3\x7d]" := by decide +kernel

example : ["[1,]", "[1 2]", "\x7b\"k\"\x7d", "01", "\"\\ud83d\"", "\"a\nb\"", "[", "1]"].all
    (fun text => (read? text).isNone) := by decide +kernel

end Rollup.Json
