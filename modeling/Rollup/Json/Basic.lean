import Rollup.Json.Numeral

/-!
JSON values with the order and repetition of their members kept, and their compact text. The text
is made piece by piece, as it is handed to a writer: marks, runs of plain characters and escapes
each on their own.
-/

namespace Rollup

inductive Json where
  | null
  | bool (b : Bool)
  | number (numeral : Json.Numeral)
  | string (text : String)
  | array (items : List Json)
  | object (members : List (String × Json))

namespace Json

/-- A code point below 256 as two digits in base sixteen. -/
def twoHexDigits (n : Nat) : List Char := [Nat.digitChar (n / 16 % 16), Nat.digitChar (n % 16)]

/-- What is written for a character that may not stand for itself. -/
def escape? (c : Char) : Option (List Char) :=
  if c = '"' then some ['\\', '"']
  else if c = '\\' then some ['\\', '\\']
  else if c = '\x08' then some ['\\', 'b']
  else if c = '\t' then some ['\\', 't']
  else if c = '\n' then some ['\\', 'n']
  else if c = '\x0c' then some ['\\', 'f']
  else if c = '\r' then some ['\\', 'r']
  else if c.toNat < 0x20 then some (['\\', 'u', '0', '0'] ++ twoHexDigits c.toNat)
  else none

/-- The pieces of a text after the plain characters of `run`, which stands in reverse. -/
def contents (run : List Char) : List Char → List (List Char)
  | [] => [run.reverse]
  | c :: rest =>
    match escape? c with
    | some escape => run.reverse :: escape :: contents [] rest
    | none => contents (c :: run) rest

def quotedPieces (text : String) : List String :=
  "\"" :: (contents [] text.toList).map String.ofList ++ ["\""]

mutual

/-- The pieces of a value's text, some of which may be empty. -/
def pieces : Json → List String
  | .null => ["null"]
  | .bool b => [if b then "true" else "false"]
  | .number numeral => [numeral.text]
  | .string text => quotedPieces text
  | .array [] => ["[", "]"]
  | .array (item :: rest) => "[" :: item.pieces ++ furtherItems rest
  | .object [] => ["\x7b", "\x7d"]
  | .object (member :: rest) => "\x7b" :: memberPieces member ++ furtherMembers rest
termination_by structural json => json

/-- The items after the first, and the end of the array. -/
def furtherItems : List Json → List String
  | [] => ["]"]
  | item :: rest => "," :: item.pieces ++ furtherItems rest
termination_by structural items => items

/-- The members after the first, and the end of the object. -/
def furtherMembers : List (String × Json) → List String
  | [] => ["\x7d"]
  | member :: rest => "," :: memberPieces member ++ furtherMembers rest
termination_by structural members => members

/-- The pieces of a member: its name, a colon and its value. -/
def memberPieces : String × Json → List String
  | (name, value) => quotedPieces name ++ ":" :: value.pieces
termination_by structural member => member

end

def render (json : Json) : String := String.join json.pieces

def ofInt (n : Int) : Json := .number (.ofInt n)

def ofNat (n : Nat) : Json := ofInt n

/-- A member that is left out if there is no value for it. -/
def optional {α : Type} (name : String) (value : α → Json) : Option α → List (String × Json)
  | some x => [(name, value x)]
  | none => []

end Json

end Rollup

namespace Rollup.Json

variable {α : Type}

def bool? : Json → Option Bool
  | .bool b => some b
  | _ => none

def string? : Json → Option String
  | .string text => some text
  | _ => none

/-- The integer that a value is, if its numeral is one of an integer. -/
def int? : Json → Option Int
  | .number numeral =>
    match numeral.text.toList with
    | '-' :: digits => if IsDigits digits then some (-digitsValue digits) else none
    | digits => if IsDigits digits then some (digitsValue digits) else none
  | _ => none

def nat? (json : Json) : Option Nat := json.int?.bind Int.toNat?

/-- The items of an array, each of them read. -/
def items? (read? : Json → Option α) : Json → Option (List α)
  | .array items => items.mapM read?
  | _ => none

/-- The members of an object, the value of each of them read. -/
def members? (read? : Json → Option α) : Json → Option (List (String × α))
  | .object members => members.mapM fun (name, value) => (read? value).map (name, ·)
  | _ => none

/-- The value of the first member with a name. -/
def value? (name : String) : Json → Option Json
  | .object members => members.lookup name
  | _ => none

/-- The value under a name, read. -/
def field? (name : String) (read? : Json → Option α) (json : Json) : Option α :=
  (json.value? name).bind read?

/-- What is read from a member that may be left out. -/
def optionalField? (name : String) (read? : Json → Option α) (json : Json) : Option (Option α) :=
  match json.value? name with
  | none => some none
  | some value => (read? value).map some

end Rollup.Json
