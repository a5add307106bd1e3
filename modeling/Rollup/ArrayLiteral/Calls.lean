import Rollup.ArrayLiteral.Texts
import Rollup.ArrayLiteral.Scanner

namespace Rollup.ArrayLiteral

open Rollup.Text

/-- How the scan of an element ends. -/
inductive Ending where
  /-- There is no element. -/
  | nothing
  /-- Bare text from one offset to the other is cut out, and reading goes on at the cursor. -/
  | bare (start stop : Nat) (cursor : Cursor)
  /-- The text between two quotes is cut out. -/
  | quoted (opening closing : Nat) (escaped : Bool)
  | unclosed (opening : Nat)
deriving DecidableEq, Repr

/-- How the scan ends that goes on in `mode` from byte `offset`. -/
def ending (input : String) (mode : Mode) (offset : Nat) : Ending :=
  if h : offset < input.utf8ByteSize then
    let b := byteAt input offset h
    match mode with
    | .bare start =>
      if b = quoteByte then ending input (.quoted offset false) (offset + 1)
      else if b = commaByte then .bare start offset (.inside (offset + 1))
      else if b = closeByte then .bare start offset .ended
      else ending input (.bare start) (offset + 1)
    | .quoted opening escaped =>
      if b = quoteByte then .quoted opening offset escaped
      else if b = backslashByte then ending input (.backslash opening) (offset + 1)
      else ending input (.quoted opening escaped) (offset + 1)
    | .backslash opening => ending input (.quoted opening true) (offset + 1)
  else
    match mode with
    | .bare start => if start < offset then .bare start offset .ended else .nothing
    | .quoted opening _ | .backslash opening => .unclosed opening
termination_by input.utf8ByteSize - offset

namespace Ending

/-- The offsets that text is cut out between. -/
def cut? : Ending → Option (Nat × Nat)
  | .bare start stop _ => some (start, stop)
  | .quoted opening closing _ => some (opening + 1, closing)
  | .nothing | .unclosed _ => none

def isBare : Ending → Bool
  | .bare .. => true
  | _ => false

/-- What is made of the end of a scan. -/
def reading (input : String) (absence : Absence) : Ending → Reading
  | .nothing => (none, .ended)
  | .bare start stop cursor => (some (.ok (.ofBare absence (slice input start stop))), cursor)
  | .quoted opening closing escaped => closeQuote input opening closing escaped
  | .unclosed opening => (some (.error (.unterminatedQuote opening)), .ended)

end Ending

/-- The text between two offsets that are character boundaries of a literal, in order. -/
structure IsCut (input : String) (start stop : Nat) (between : String) : Prop where
  ordered : start ≤ stop
  within : stop ≤ input.utf8ByteSize
  validStart : String.Pos.Raw.IsValid input ⟨start⟩
  validStop : String.Pos.Raw.IsValid input ⟨stop⟩
  split : ∃ before after, input = before ++ between ++ after ∧ before.utf8ByteSize = start ∧
    (before ++ between).utf8ByteSize = stop

namespace Scanner

/-- The reader of a literal before the call of this number, counted from 0. -/
def before (literal : String) (absence : Absence) : Nat → Scanner
  | 0 => { input := literal, absence }
  | calls + 1 => (before literal absence calls).next.2

/-- What the call of this number returns. -/
def returned (literal : String) (absence : Absence) (call : Nat) :
    Option (Except ArrayFault Item) :=
  (before literal absence call).next.1

/-- Where the next call begins to scan an element, unless it returns before. -/
def start? (s : Scanner) : Option Nat :=
  match s.cursor with
  | .unopened =>
    if s.input = "" ∨ s.absence = .collapse ∧ s.input = "\x7bNULL\x7d" then none
    else if byteAt? s.input 0 ≠ some openByte then none
    else if byteAt? s.input 1 = some closeByte then none
    else some 1
  | .inside offset => some offset
  | .ended => none

/-- How far the literal has been read, all of it at the end. -/
def position (s : Scanner) : Nat :=
  match s.cursor with
  | .unopened => 0
  | .inside offset => offset
  | .ended => s.input.utf8ByteSize

/-- Whether nothing is left to be read, so that all further calls return no element. -/
def isDone (s : Scanner) : Bool := s.cursor = .ended

end Scanner

/-- How the scan of the call of this number ends, unless the call returns before. -/
def scanned? (literal : String) (absence : Absence) (call : Nat) : Option Ending :=
  (Scanner.before literal absence call).start?.map fun start => ending literal (.bare start) start

/-- The cursor that a position and a mark for the end stand for. -/
def Cursor.ofPosition (position : Nat) (done : Bool) : Cursor :=
  if done then .ended else if position = 0 then .unopened else .inside position

/-- A character of a quoted body, with or without a backslash before it. -/
structure Sign where
  char : Char
  escaped : Bool
deriving DecidableEq, Repr

namespace Sign

/-- The text that a sign is written with. -/
def written (s : Sign) : List Char := if s.escaped then ['\\', s.char] else [s.char]

/-- Quotes and backslashes stand only after a backslash. -/
def IsProper (s : Sign) : Prop := s.escaped = false → s.char ≠ '"' ∧ s.char ≠ '\\'

end Sign

/-- Whether a backslash is left over at the end, with no character that it makes a pair with. -/
def dangles : List Char → Bool
  | [] => false
  | ['\\'] => true
  | '\\' :: _ :: rest => dangles rest
  | _ :: rest => dangles rest

end Rollup.ArrayLiteral
