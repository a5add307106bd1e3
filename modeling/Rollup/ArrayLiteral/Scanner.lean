import Rollup.Text.Bytes
import Rollup.ArrayLiteral.Basic

/-!
Reading a literal element by element. The delimiters are ASCII, so the scanner steps over bytes
and only ever cuts the text at a delimiter; what stands between two cuts is text again.
-/

namespace Rollup.ArrayLiteral

open Rollup.Text

def quoteByte : UInt8 := 0x22
def commaByte : UInt8 := 0x2C
def backslashByte : UInt8 := 0x5C
def openByte : UInt8 := 0x7B
def closeByte : UInt8 := 0x7D

/-- How far a literal has been read. -/
inductive Cursor where
  /-- Before the opening brace. -/
  | unopened
  /-- The next element begins at this byte. -/
  | inside (offset : Nat)
  /-- There is nothing more to read. -/
  | ended
deriving DecidableEq, Repr

/-- A reader of a literal that has come to some place of it. -/
structure Scanner where
  input : String
  absence : Absence := .keep
  cursor : Cursor := .unopened
deriving DecidableEq, Repr

/-- What the scan of an element has met so far. -/
inductive Mode where
  /-- Unquoted text from this byte on. -/
  | bare (start : Nat)
  /-- The opening quote at this byte, and whether a backslash came after it. -/
  | quoted (opening : Nat) (escaped : Bool)
  /-- The opening quote at this byte, and a backslash just now. -/
  | backslash (opening : Nat)
deriving DecidableEq, Repr

/-- The outcome of reading on: an element or a fault, if there is one, and where to go on. -/
abbrev Reading := Option (Except ArrayFault Item) × Cursor

/-- The quoted element whose closing quote is at `closing`, provided that a delimiter or the end
of the input follows. -/
def closeQuote (input : String) (opening closing : Nat) (escaped : Bool) : Reading :=
  let item := Item.present (slice input (opening + 1) closing) escaped
  match byteAt? input (closing + 1) with
  | none => (some (.ok item), .ended)
  | some b =>
    if b = commaByte then (some (.ok item), .inside (closing + 2))
    else if b = closeByte then (some (.ok item), .ended)
    else
      let found := (charAt? input (closing + 1)).getD (Char.ofNat 0)
      (some (.error (.unexpectedAfterQuote (closing + 1) found)), .ended)

/-- Reads to the end of the element that began in `mode`, from byte `offset` on. A quote after bare
text begins the element anew. -/
def scan (input : String) (absence : Absence) (mode : Mode) (offset : Nat) : Reading :=
  if h : offset < input.utf8ByteSize then
    let b := byteAt input offset h
    match mode with
    | .bare start =>
      if b = quoteByte then scan input absence (.quoted offset false) (offset + 1)
      else if b = commaByte then
        (some (.ok (.ofBare absence (slice input start offset))), .inside (offset + 1))
      else if b = closeByte then
        (some (.ok (.ofBare absence (slice input start offset))), .ended)
      else scan input absence (.bare start) (offset + 1)
    | .quoted opening escaped =>
      if b = quoteByte then closeQuote input opening offset escaped
      else if b = backslashByte then scan input absence (.backslash opening) (offset + 1)
      else scan input absence (.quoted opening escaped) (offset + 1)
    | .backslash opening => scan input absence (.quoted opening true) (offset + 1)
  else
    match mode with
    | .bare start =>
      if start < offset then
        (some (.ok (.ofBare absence (slice input start offset))), .ended)
      else (none, .ended)
    | .quoted opening _ | .backslash opening =>
      (some (.error (.unterminatedQuote opening)), .ended)
termination_by input.utf8ByteSize - offset

namespace Scanner

/-- Reads the opening brace and the first element, unless there is none. -/
def first (input : String) (absence : Absence) : Reading :=
  if input = "" ∨ absence = .collapse ∧ input = "\x7bNULL\x7d" then (none, .ended)
  else if byteAt? input 0 ≠ some openByte then (some (.error .missingOpeningBrace), .ended)
  else if byteAt? input 1 = some closeByte then (none, .ended)
  else scan input absence (.bare 1) 1

/-- The next element, or the fault there, and the scanner after it. Without an element the literal
has come to its end. -/
def next (s : Scanner) : Option (Except ArrayFault Item) × Scanner :=
  let reading : Reading :=
    match s.cursor with
    | .unopened => first s.input s.absence
    | .inside offset => scan s.input s.absence (.bare offset) offset
    | .ended => (none, .ended)
  (reading.1, { s with cursor := reading.2 })

end Scanner

/-- A bound on the number of readings still to come. -/
def Cursor.remaining (size : Nat) : Cursor → Nat
  | .unopened => size + 2
  | .inside offset => size + 1 - offset
  | .ended => 0

theorem closeQuote_cases (input : String) (opening closing : Nat) (escaped : Bool) :
    let item := Item.present (slice input (opening + 1) closing) escaped
    (byteAt? input (closing + 1) = some commaByte ∧
        closeQuote input opening closing escaped = (some (.ok item), .inside (closing + 2))) ∨
      closeQuote input opening closing escaped = (some (.ok item), .ended) ∨
      ∃ b, byteAt? input (closing + 1) = some b ∧ b ≠ commaByte ∧ b ≠ closeByte ∧
        closeQuote input opening closing escaped =
          (some (.error (.unexpectedAfterQuote (closing + 1)
            ((charAt? input (closing + 1)).getD (Char.ofNat 0)))), .ended) := by
  rw [closeQuote]
  cases hb : byteAt? input (closing + 1) with
  | none => exact Or.inr (Or.inl rfl)
  | some b =>
      by_cases hcomma : b = commaByte
      · subst hcomma
        exact Or.inl ⟨rfl, rfl⟩
      · by_cases hclose : b = closeByte
        · subst hclose
          exact Or.inr (Or.inl rfl)
        · refine Or.inr (Or.inr ⟨b, rfl, hcomma, hclose, ?_⟩)
          simp only [if_neg hcomma, if_neg hclose]

theorem closeQuote_remaining_lt {input : String} {opening closing : Nat} {escaped : Bool}
    (h : closing < input.utf8ByteSize) :
    (closeQuote input opening closing escaped).2.remaining input.utf8ByteSize <
      input.utf8ByteSize + 1 - closing := by
  rcases closeQuote_cases input opening closing escaped with
    ⟨hcomma, hread⟩ | hread | ⟨b, -, -, -, hread⟩
  · have hlt := lt_of_byteAt?_eq_some hcomma
    rw [hread, Cursor.remaining]
    omega
  · rw [hread, Cursor.remaining]
    omega
  · rw [hread, Cursor.remaining]
    omega

theorem scan_of_size_le {input : String} {absence : Absence} {mode : Mode} {offset : Nat}
    (h : input.utf8ByteSize ≤ offset) : (scan input absence mode offset).2 = .ended := by
  rw [scan.eq_def, dif_neg (Nat.not_lt.2 h)]
  cases mode with
  | bare start =>
      by_cases hstart : start < offset
      · simp only [if_pos hstart]
      · simp only [if_neg hstart]
  | quoted opening escaped => rfl
  | backslash opening => rfl

theorem scan_remaining_lt {input : String} {absence : Absence} {mode : Mode} {offset : Nat}
    (h : offset < input.utf8ByteSize) :
    (scan input absence mode offset).2.remaining input.utf8ByteSize <
      input.utf8ByteSize + 1 - offset := by
  have hended : Cursor.ended.remaining input.utf8ByteSize < input.utf8ByteSize + 1 - offset := by
    rw [Cursor.remaining]
    omega
  have hstep : ∀ mode, (scan input absence mode (offset + 1)).2.remaining input.utf8ByteSize <
      input.utf8ByteSize + 1 - offset := by
    intro mode
    by_cases hnext : offset + 1 < input.utf8ByteSize
    · have hlater : (scan input absence mode (offset + 1)).2.remaining input.utf8ByteSize <
          input.utf8ByteSize + 1 - (offset + 1) := scan_remaining_lt hnext
      omega
    · rw [scan_of_size_le (Nat.not_lt.1 hnext)]
      exact hended
  rw [scan.eq_def, dif_pos h]
  cases mode with
  | bare start =>
      by_cases hquote : byteAt input offset h = quoteByte
      · simp only [if_pos hquote]
        exact hstep (.quoted offset false)
      by_cases hcomma : byteAt input offset h = commaByte
      · simp only [if_neg hquote, if_pos hcomma, Cursor.remaining]
        omega
      by_cases hclose : byteAt input offset h = closeByte
      · simp only [if_neg hquote, if_neg hcomma, if_pos hclose]
        exact hended
      · simp only [if_neg hquote, if_neg hcomma, if_neg hclose]
        exact hstep (.bare start)
  | quoted opening escaped =>
      by_cases hquote : byteAt input offset h = quoteByte
      · simp only [if_pos hquote]
        exact closeQuote_remaining_lt h
      by_cases hbackslash : byteAt input offset h = backslashByte
      · simp only [if_neg hquote, if_pos hbackslash]
        exact hstep (.backslash opening)
      · simp only [if_neg hquote, if_neg hbackslash]
        exact hstep (.quoted opening escaped)
  | backslash opening => exact hstep (.quoted opening true)
termination_by input.utf8ByteSize - offset

theorem scan_remaining_lt_of_eq_some {input : String} {absence : Absence} {offset : Nat}
    {x : Except ArrayFault Item} {cursor : Cursor}
    (h : scan input absence (.bare offset) offset = (some x, cursor)) :
    cursor.remaining input.utf8ByteSize < input.utf8ByteSize + 1 - offset := by
  by_cases hlt : offset < input.utf8ByteSize
  · have hremaining : (scan input absence (.bare offset) offset).2.remaining input.utf8ByteSize <
        input.utf8ByteSize + 1 - offset := scan_remaining_lt hlt
    rwa [h] at hremaining
  · rw [scan.eq_def, dif_neg hlt] at h
    simp only [Nat.lt_irrefl, if_false] at h
    cases h

namespace Scanner

theorem first_remaining_lt {input : String} {absence : Absence} {x : Except ArrayFault Item}
    {cursor : Cursor} (h : first input absence = (some x, cursor)) :
    cursor.remaining input.utf8ByteSize < input.utf8ByteSize + 2 := by
  rw [first] at h
  by_cases hempty : input = "" ∨ absence = .collapse ∧ input = "\x7bNULL\x7d"
  · rw [if_pos hempty] at h
    cases h
  rw [if_neg hempty] at h
  by_cases hbrace : byteAt? input 0 ≠ some openByte
  · rw [if_pos hbrace] at h
    cases h
    exact Nat.succ_pos _
  rw [if_neg hbrace] at h
  by_cases hclosed : byteAt? input 1 = some closeByte
  · rw [if_pos hclosed] at h
    cases h
  · rw [if_neg hclosed] at h
    have hremaining := scan_remaining_lt_of_eq_some h
    omega

theorem next_remaining_lt {s s' : Scanner} {x : Except ArrayFault Item}
    (h : s.next = (some x, s')) :
    s'.cursor.remaining s'.input.utf8ByteSize < s.cursor.remaining s.input.utf8ByteSize := by
  obtain ⟨input, absence, cursor⟩ := s
  rw [next, Prod.mk.injEq] at h
  obtain ⟨hx, rfl⟩ := h
  cases cursor with
  | unopened => exact first_remaining_lt (Prod.ext hx rfl)
  | inside offset => exact scan_remaining_lt_of_eq_some (Prod.ext hx rfl)
  | ended => cases hx

/-- All elements that are still to come. A fault is the last one. -/
def toList (s : Scanner) : List (Except ArrayFault Item) :=
  match h : s.next with
  | (none, _) => []
  | (some x, s') =>
    have := next_remaining_lt h
    x :: s'.toList
termination_by s.cursor.remaining s.input.utf8ByteSize

end Scanner

/-- All elements of a literal. -/
def readings (literal : String) (absence : Absence) : List (Except ArrayFault Item) :=
  ({ input := literal, absence } : Scanner).toList

/-- The elements of a literal, or its fault. -/
def items (literal : String) (absence : Absence) : Except ArrayFault (List Item) :=
  (readings literal absence).mapM id

end Rollup.ArrayLiteral
