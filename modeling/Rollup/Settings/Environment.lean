import Rollup.Numeral
import Rollup.Settings.Layer
import Rollup.Text.Characters
import Rollup.Text.Quoted

namespace Rollup.Environment

/-- What the names of variables for settings begin with. -/
def namePrefix : String := "MAPFEED_CMDS_MAPFEED_CLI_"

/-- White space of ASCII, which may stand around values. -/
def isSpace (c : Char) : Bool :=
  c = ' ' || c = '\t' || c = '\n' || c = '\r' || c = '\x0c'

/-- Whether a character parts the values of lists and tables. -/
def isSeparator (c : Char) : Bool :=
  c = ',' || c = '\x7b' || c = '\x7d' || c = '[' || c = ']'

/-- Whether a text is a number written with a point. Digits must stand on one side of the point at
least, and an exponent may follow. -/
def isDecimal (text : List Char) : Bool :=
  let unsigned := dropSign text
  let whole := unsigned.takeWhile Char.isDigit
  match unsigned.dropWhile Char.isDigit with
  | '.' :: rest =>
    let fraction := rest.takeWhile Char.isDigit
    !(whole ++ fraction).isEmpty &&
      match rest.dropWhile Char.isDigit with
      | [] => true
      | c :: exponent => (c = 'e' || c = 'E') && IsDigits (dropSign exponent)
  | _ => false

/-- A whole number in digits, which may have a sign; it must be in the 64 bits, unsigned or
signed. -/
def integer? (text : List Char) : Option Int :=
  let n := digitsValue (dropSign text)
  if !IsDigits (dropSign text) then none
  else if text.head? = some '-' then
    (some (-(n : Int))).filter fun n => IntegerType.signed64.Holds n
  else (some (n : Int)).filter fun n => IntegerType.unsigned64.Holds n

/-- A word as the value it spells. -/
def ofWord (word : List Char) : Datum :=
  if isDecimal word then .other
  else
    match integer? word with
    | some n => .integer n
    | none => .text (String.ofList word)

/-- The text between quotes up to the closing one, and what follows it; a quote after a backslash
closes nothing. -/
def quotation? : List Char → Option (List Char × List Char)
  | [] => none
  | '"' :: rest => some ([], rest)
  | '\\' :: c :: rest => (quotation? rest).map fun (text, rest) => ('\\' :: c :: text, rest)
  | c :: rest => (quotation? rest).map fun (text, rest) => (c :: text, rest)

/-- A text of at most `count` characters with its escapes resolved. -/
def unescape? (count : Nat) (text : List Char) : Option (List Char) :=
  match count, text with
  | _, [] => some []
  | count + 1, '\\' :: rest => do
    let (c, rest) ← Text.Escape.read? rest
    some (c :: (← unescape? count rest))
  | count + 1, c :: rest =>
    if Text.Escape.isPlain c then (unescape? count rest).map (c :: ·) else none
  | 0, _ => none

def quoted? (text : List Char) : Option (String × List Char) := do
  let (inner, rest) ← quotation? text
  some (String.ofList (← unescape? inner.length inner), rest)

/-- The name of an entry in a table. -/
def name? (text : List Char) : Option (String × List Char) :=
  let isNameChar := fun (c : Char) => c.isAlphanum || c = '_' || c = '-'
  match text.dropWhile isSpace with
  | '"' :: rest => quoted? rest
  | text =>
    let name := text.takeWhile isNameChar
    if name = [] then none else some (String.ofList name, text.dropWhile isNameChar)

mutual

/-- A value, space around it left out, and what follows; none is nested deeper than `depth`. -/
def value? (depth : Nat) (text : List Char) : Option (Datum × List Char) :=
  match depth with
  | 0 => none
  | depth + 1 => do
    let (datum, rest) ←
      match text.dropWhile isSpace with
      | 't' :: 'r' :: 'u' :: 'e' :: rest => some (.bool true, rest)
      | 'f' :: 'a' :: 'l' :: 's' :: 'e' :: rest => some (.bool false, rest)
      | '[' :: rest => (items? depth rest.length rest).map fun (items, rest) => (.list items, rest)
      | '\x7b' :: rest =>
        (entries? depth rest.length rest).map fun (entries, rest) => (.table entries, rest)
      | '"' :: rest => (quoted? rest).map fun (text, rest) => (.text text, rest)
      | '\'' :: c :: '\'' :: rest => some (.text (String.singleton c), rest)
      | '\'' :: _ => none
      | text =>
        some (ofWord (Text.trim (text.takeWhile (!isSeparator ·))), text.dropWhile (!isSeparator ·))
    some (datum, rest.dropWhile isSpace)
termination_by (depth, 0)

/-- The items of a list after its opening bracket, at most `count` of them. -/
def items? (depth count : Nat) (text : List Char) : Option (List Datum × List Char) :=
  match count, text with
  | _, ']' :: rest => some ([], rest)
  | 0, _ => none
  | count + 1, text => do
    match ← value? depth text with
    | (item, ']' :: rest) => some ([item], rest)
    | (item, ',' :: rest) =>
      let (items, rest) ← items? depth count rest
      some (item :: items, rest)
    | _ => none
termination_by (depth, count + 1)

/-- The entries of a table after its opening brace, at most `count` of them. -/
def entries? (depth count : Nat) (text : List Char) : Option (Layer × List Char) :=
  match count, text with
  | _, '\x7d' :: rest => some ([], rest)
  | 0, _ => none
  | count + 1, text => do
    let (name, rest) ← name? text
    match rest.dropWhile isSpace with
    | '=' :: rest =>
      match ← value? depth rest with
      | (datum, '\x7d' :: rest) => some ([(name, datum)], rest)
      | (datum, ',' :: rest) =>
        let (entries, rest) ← entries? depth count rest
        some ((name, datum) :: entries, rest)
      | _ => none
    | _ => none
termination_by (depth, count + 1)

end

/-- The value of a variable. Its text is read as a truth value, a number, a list, a table or a
quoted text where it is one to its very end, and stands for itself otherwise. -/
def datum (text : String) : Datum :=
  match value? (text.length + 1) text.toList with
  | some (datum, []) => datum
  | _ => .text text

def trimmed (name : String) : String := String.ofList (Text.trim name.toList)

/-- The path of names that a variable is for, if it is for one; they stand with points or two
underscores between them, and none is empty. The case of letters makes no difference, nor does white
space before and after. -/
def path? (variableName : String) : Option (List String) :=
  let given := (trimmed variableName).toLower.toList
  let before := namePrefix.toLower.toList
  if before.isPrefixOf given then
    let joined := (String.ofList (given.drop before.length)).replace "__" "."
    let names := (trimmed joined).splitOn "."
    if names.contains "" then none else some names
  else none

/-- The layer of settings that a variable makes, empty if it is for none. -/
def setting (variableName text : String) : Layer :=
  match path? variableName with
  | some (name :: inner) => [(name, (datum text).nest inner)]
  | _ => []

/-- The settings that the variables of an environment make together. -/
def layer (environment : List (String × String)) : Layer :=
  Layer.merge (environment.map fun (variableName, text) => setting variableName text)

end Rollup.Environment
