import Rollup.Instant
import Rollup.Numeral
import Rollup.Text.Characters

namespace Rollup.Timestamp

/-- At most `most` digits off the front of a text, and at least one. -/
def digits? (most : Nat) (text : List Char) : Option (Nat × List Char) :=
  let digits := (text.take most).takeWhile Char.isDigit
  if digits = [] then none else some (digitsValue digits, text.drop digits.length)

/-- A number of one or two digits, white space before it left out. -/
def field? (text : List Char) : Option (Nat × List Char) := digits? 2 (Text.trimStart text)

/-- A year: one to four digits, or a sign and any number of them. -/
def year? (text : List Char) : Option (Int × List Char) :=
  match Text.trimStart text with
  | '-' :: rest => (digits? rest.length rest).map fun (n, rest) => (-(n : Int), rest)
  | '+' :: rest => (digits? rest.length rest).map fun (n, rest) => ((n : Int), rest)
  | rest => (digits? 4 rest).map fun (n, rest) => ((n : Int), rest)

/-- What follows a mark. -/
def mark? (c : Char) : List Char → Option (List Char)
  | [] => none
  | d :: rest => if d = c then some rest else none

/-- The fields of a timestamp, with nothing after them. -/
def fields? (text : List Char) : Option Calendar.DateTime := do
  let (year, text) ← year? text
  let text ← mark? '-' text
  let (month, text) ← field? text
  let text ← mark? '-' text
  let (day, text) ← field? text
  let text ← mark? 'T' text
  let (hour, text) ← field? text
  let text ← mark? ':' text
  let (minute, text) ← field? text
  let text ← mark? ':' text
  let (second, text) ← field? text
  let text ← mark? 'Z' text
  if text = [] then some { year, month, day, hour, minute, second } else none

/-- The instant a timestamp names, unless it is malformed or there is no such date or time. White
space may stand before each number, leading zeros may be left out, and a year with a sign may have
any number of digits. -/
def read? (text : String) : Option Instant :=
  ((fields? text.toList).filter fun t => t.Exists).map Calendar.DateTime.instant

open Rollup.Text

/-- The text writes the fields of the timestamp between its marks, each in the way given for it. -/
inductive SetOut (Year : List Char → Int → Prop) (Field : List Char → Nat → Prop) :
    List Char → Calendar.DateTime → Prop where
  | intro {year month day hour minute second : List Char} {t : Calendar.DateTime}
      (hyear : Year year t.year) (hmonth : Field month t.month) (hday : Field day t.day)
      (hhour : Field hour t.hour) (hminute : Field minute t.minute)
      (hsecond : Field second t.second) :
      SetOut Year Field
        (year ++ '-' :: (month ++ '-' :: (day ++ 'T' :: (hour ++ ':' :: (minute ++ ':' ::
          (second ++ ['Z'])))))) t

/-- Exactly so many digits. -/
structure IsPadded (width : Nat) (text : List Char) (n : Nat) : Prop where
  digits : IsDigits text
  length : text.length = width
  value : digitsValue text = n

/-- How a year of the stored layout is written. -/
inductive IsPaddedYear : List Char → Int → Prop where
  | intro {text : List Char} {n : Nat} (h : IsPadded 4 text n) : IsPaddedYear text n

/-- The layout `YYYY-MM-DDTHH:MM:SSZ`. -/
def IsStored (text : String) (t : Calendar.DateTime) : Prop :=
  SetOut IsPaddedYear (IsPadded 2) text.toList t

def IsBlank (text : List Char) : Prop := ∀ c ∈ text, isBlank c

/-- At most two digits, with white space before them. -/
inductive IsField : List Char → Nat → Prop where
  | intro {blank digits : List Char} (hblank : IsBlank blank) (hdigits : IsDigits digits)
      (hlength : digits.length ≤ 2) : IsField (blank ++ digits) (digitsValue digits)

/-- At most four digits, or a sign and any number of them, with white space before. -/
inductive IsYear : List Char → Int → Prop where
  | plain {blank digits : List Char} (hblank : IsBlank blank) (hdigits : IsDigits digits)
      (hlength : digits.length ≤ 4) : IsYear (blank ++ digits) (digitsValue digits)
  | plus {blank digits : List Char} (hblank : IsBlank blank) (hdigits : IsDigits digits) :
      IsYear (blank ++ '+' :: digits) (digitsValue digits)
  | minus {blank digits : List Char} (hblank : IsBlank blank) (hdigits : IsDigits digits) :
      IsYear (blank ++ '-' :: digits) (-digitsValue digits)

/-- Every layout that is read. -/
def IsSpelled (text : String) (t : Calendar.DateTime) : Prop :=
  SetOut IsYear IsField text.toList t

end Rollup.Timestamp
