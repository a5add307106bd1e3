import Rollup.Instant
import Rollup.Numeral
import Rollup.Settings.Layer
import Rollup.Text.Quoted

namespace Rollup.Toml

/-- Whether groups of digits stand with single underscores between them. -/
def isGrouped (isDigit : Char → Bool) (text : List Char) : Bool :=
  let groups := (String.ofList text).splitOn "_"
  groups.all fun group => group ≠ "" && group.toList.all isDigit

/-- Whether a text is a whole number without needless zeros. -/
def isWhole (text : List Char) : Bool :=
  isGrouped Char.isDigit text && (text.length ≤ 1 || text.head? ≠ some '0')

def withoutUnderscores (text : List Char) : List Char := text.filter (· ≠ '_')

/-- The digits of a base, given by the letter that marks it. -/
def baseOf? : Char → Option Nat
  | 'x' => some 16
  | 'o' => some 8
  | 'b' => some 2
  | _ => none

/-- A whole number of 64 bits. -/
def integer? (text : List Char) : Option Int := do
  let n ←
    match text with
    | '0' :: letter :: digits => do
      let base ← baseOf? letter
      let isDigit := fun c => (Text.Escape.hexDigit? c).any (· < base)
      if isGrouped isDigit digits then
        let values := (withoutUnderscores digits).filterMap Text.Escape.hexDigit?
        let n : Nat := values.foldl (fun n digit => base * n + digit) 0
        some (n : Int)
      else none
    | '-' :: digits =>
      if isWhole digits then some (-(digitsValue (withoutUnderscores digits) : Int)) else none
    | '+' :: digits =>
      if isWhole digits then some (digitsValue (withoutUnderscores digits) : Int) else none
    | digits =>
      if isWhole digits then some (digitsValue (withoutUnderscores digits) : Int) else none
  if IntegerType.signed64.Holds n then some n else none

/-- A number with a fraction or an exponent, taken apart into its digits without the point and the
power of ten that they are to be multiplied with. -/
def decimal? (text : List Char) : Option (List Char × Int) :=
  let isNumeral := fun (c : Char) => c.isDigit || c = '_'
  let unsigned := dropSign text
  let whole := unsigned.takeWhile isNumeral
  let (fraction, rest) :=
    match unsigned.dropWhile isNumeral with
    | '.' :: rest => (some (rest.takeWhile isNumeral), rest.dropWhile isNumeral)
    | rest => (none, rest)
  let exponent : Option (Option Int) :=
    match rest with
    | [] => if fraction.isSome then some none else none
    | c :: rest =>
      let digits := dropSign rest
      if (c = 'e' || c = 'E') && isGrouped Char.isDigit digits then
        let n : Int := digitsValue (withoutUnderscores digits)
        some (some (if rest.head? = some '-' then -n else n))
      else none
  exponent.bind fun exponent =>
    if isWhole whole && fraction.all (isGrouped Char.isDigit) then
      let decimals := withoutUnderscores (fraction.getD [])
      some (withoutUnderscores whole ++ decimals, exponent.getD 0 - decimals.length)
    else none

/-- The least number that is rounded to infinity when it is made a binary one of 64 bits. -/
def overflow : Nat := Nat.pow 2 1024 - Nat.pow 2 970

/-- Whether digits times a power of ten are too great for a binary number of 64 bits. -/
def isTooGreat (digits : List Char) (exponent : Int) : Bool :=
  let digits := digits.dropWhile (· = '0')
  let magnitude : Int := digits.length + exponent
  !digits.isEmpty &&
    (310 < magnitude ||
      308 < magnitude && overflow * Nat.pow 10 (-exponent).toNat ≤
        digitsValue digits * Nat.pow 10 exponent.toNat)

/-- Whether a text is a number with a fraction or an exponent that is not too great, or one of those
that are not finite. -/
def isDecimal (text : List Char) : Bool :=
  let unsigned := dropSign text
  let negative := text.head? = some '-'
  unsigned = ['i', 'n', 'f'] || unsigned = ['n', 'a', 'n'] ||
    (decimal? text).any fun (digits, exponent) => negative || !isTooGreat digits exponent

/-- Whether a text has the shape of a pattern, in which `0` stands for any digit. -/
def hasShape (pattern text : List Char) : Bool :=
  pattern.length == text.length &&
    (pattern.zip text).all fun (p, c) => if p = '0' then c.isDigit else p = c

/-- Whether two digits write a number between two others. -/
def isWithin (least greatest : Nat) (digits : List Char) : Bool :=
  let n := digitsValue digits
  least ≤ n && n ≤ greatest

/-- Whether a text is a date that there is. -/
def isDate (text : List Char) : Bool :=
  let year := digitsValue (text.take 4)
  let month := digitsValue ((text.drop 5).take 2)
  hasShape "0000-00-00".toList text && 1 ≤ month && month ≤ 12 &&
    isWithin 1 (Calendar.daysInMonth year month) (text.drop 8)

/-- Whether a text is an hour and a minute of a day. -/
def isHourAndMinute (text : List Char) : Bool :=
  hasShape "00:00".toList text && isWithin 0 23 (text.take 2) && isWithin 0 59 (text.drop 3)

/-- Whether a text is a time of day, perhaps with a fraction of a second; a minute may have a leap
second. -/
def isTime (text : List Char) : Bool :=
  isHourAndMinute (text.take 5) && hasShape ":00".toList ((text.drop 5).take 3) &&
    isWithin 0 60 ((text.drop 6).take 2) &&
    match text.drop 8 with
    | [] => true
    | '.' :: fraction => IsDigits fraction
    | _ => false

/-- A time of day without the offset it may end with. -/
def dropOffset (text : List Char) : List Char :=
  match text.reverse with
  | 'Z' :: rest | 'z' :: rest => rest.reverse
  | _ =>
    let offset := text.drop (text.length - 6)
    if (offset.head? = some '+' || offset.head? = some '-') && isHourAndMinute (offset.drop 1) then
      text.take (text.length - 6)
    else text

/-- Whether a text is a date, a time of day, or both. -/
def isMoment (text : List Char) : Bool :=
  isDate text || isTime text ||
    isDate (text.take 10) && isTime (dropOffset (text.drop 11)) &&
      (text[10]?.any fun c => c = 'T' || c = 't' || c = ' ')

/-- The scalar that a text is. Integers must fit into 64 bits, and dates be of the calendar. -/
def scalar? (text : List Char) : Option Datum :=
  if text = "true".toList then some (.bool true)
  else if text = "false".toList then some (.bool false)
  else
    match integer? text with
    | some n => some (.integer n)
    | none => if isDecimal text || isMoment text then some .other else none

/-- Whether a character goes on with a scalar. -/
def isScalarChar (c : Char) : Bool :=
  c.isAlphanum || c = '+' || c = '-' || c = '_' || c = '.' || c = ':'

/-- A value that is no string, list or table. One blank may stand between a date and a time. -/
def scalarStep? (text : List Char) : Option (Datum × List Char) :=
  let word := text.takeWhile isScalarChar
  let rest := text.dropWhile isScalarChar
  let (word, rest) :=
    match rest with
    | ' ' :: c :: more =>
      if isDate word && c.isDigit then
        (word ++ ' ' :: (c :: more).takeWhile isScalarChar, (c :: more).dropWhile isScalarChar)
      else (word, rest)
    | _ => (word, rest)
  (scalar? word).map fun datum => (datum, rest)

end Rollup.Toml
