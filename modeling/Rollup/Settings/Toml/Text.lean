import Rollup.Text.Quoted

namespace Rollup.Toml

/-- Whether a character is a blank, which an end of a line is not. -/
def isBlank (c : Char) : Bool := c = ' ' || c = '\t'

def skipBlanks (text : List Char) : List Char := text.dropWhile isBlank

/-- What follows a comment, if one begins here. -/
def skipComment : List Char → List Char
  | '#' :: rest => rest.dropWhile Text.Escape.isPlain
  | text => text

/-- What follows the end of a line; blanks and a comment may come before it. -/
def endLine? (text : List Char) : Option (List Char) :=
  match skipComment (skipBlanks text) with
  | [] => some []
  | '\n' :: rest | '\r' :: '\n' :: rest => some rest
  | _ => none

/-- What follows blanks, comments and ends of lines, of which there are at most `count`. -/
def skipLines (count : Nat) (text : List Char) : List Char :=
  match count, skipComment (skipBlanks text) with
  | _, [] => []
  | count + 1, '\n' :: rest | count + 1, '\r' :: '\n' :: rest => skipLines count rest
  | _, _ => skipBlanks text

/-- A string of at most `count` characters on one line, after its opening quote. -/
def basic? (count : Nat) (text : List Char) : Option (List Char × List Char) :=
  match count, text with
  | _, '"' :: rest => some ([], rest)
  | count + 1, '\\' :: rest => do
    let (c, rest) ← Text.Escape.read? rest
    let (text, rest) ← basic? count rest
    some (c :: text, rest)
  | count + 1, c :: rest =>
    if Text.Escape.isPlain c then (basic? count rest).map fun (text, rest) => (c :: text, rest)
    else none
  | _, _ => none

/-- A string without escapes on one line, after its opening quote. -/
def literal? : List Char → Option (List Char × List Char)
  | [] => none
  | '\'' :: rest => some ([], rest)
  | c :: rest =>
    if Text.Escape.isPlain c then (literal? rest).map fun (text, rest) => (c :: text, rest)
    else none

/-- What follows the end of a line, if the text begins with one. -/
def lineEnd? : List Char → Option (List Char)
  | '\n' :: rest | '\r' :: '\n' :: rest => some rest
  | _ => none

/-- What follows the blanks and the ends of lines that the text begins with, of which there are at
most `count`. -/
def skipBlankLines (count : Nat) (text : List Char) : List Char :=
  match count, lineEnd? (skipBlanks text) with
  | count + 1, some rest => skipBlankLines count rest
  | _, _ => skipBlanks text

/-- What follows the part that a backslash at the end of a line leaves out: the end of the line, and
the blanks and ends of lines after it. -/
def skipLineEnd? (text : List Char) : Option (List Char) :=
  (lineEnd? (skipBlanks text)).map fun rest => skipBlankLines rest.length rest

/-- A string of several lines after its opening quotes, which are three of `mark`; escapes count
if `escapes` says so. An end of a line reads as a line feed. Up to two marks may stand directly
before the closing ones. -/
def multiline? (mark : Char) (escapes : Bool) (count : Nat) (text : List Char) :
    Option (List Char × List Char) :=
  match count with
  | 0 => none
  | count + 1 =>
    let onward := fun (c : Char) (rest : List Char) =>
      (multiline? mark escapes count rest).map fun (text, rest) => (c :: text, rest)
    let marks := (text.takeWhile (· = mark)).length
    if 3 ≤ marks then
      if 5 < marks then none else some (List.replicate (marks - 3) mark, text.drop marks)
    else
      match lineEnd? text, text with
      | some rest, _ => onward '\n' rest
      | none, [] => none
      | none, c :: rest =>
        if escapes && c = '\\' then
          match skipLineEnd? rest with
          | some rest => multiline? mark escapes count rest
          | none => do
            let (c, rest) ← Text.Escape.read? rest
            onward c rest
        else if Text.Escape.isPlain c then onward c rest
        else none

/-- A string of any of the four kinds. -/
def string? (text : List Char) : Option (String × List Char) :=
  let found : Option (List Char × List Char) :=
    match text with
    | '"' :: '"' :: '"' :: rest => multiline? '"' true text.length ((lineEnd? rest).getD rest)
    | '\'' :: '\'' :: '\'' :: rest =>
      multiline? '\'' false text.length ((lineEnd? rest).getD rest)
    | '"' :: rest => basic? rest.length rest
    | '\'' :: rest => literal? rest
    | _ => none
  found.map fun (text, rest) => (String.ofList text, rest)

end Rollup.Toml
