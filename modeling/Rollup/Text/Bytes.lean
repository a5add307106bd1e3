namespace Rollup.Text

/-- How many bytes characters take. -/
def width : List Char → Nat
  | [] => 0
  | c :: rest => c.utf8Size + width rest

/-- The byte at an offset within a text. -/
def byteAt (text : String) (offset : Nat) (h : offset < text.utf8ByteSize) : UInt8 :=
  text.getUTF8Byte ⟨offset⟩ (by simpa [String.Pos.Raw.lt_iff] using h)

/-- The byte at an offset, if the text reaches that far. -/
def byteAt? (text : String) (offset : Nat) : Option UInt8 :=
  if h : offset < text.utf8ByteSize then some (byteAt text offset h) else none

/-- The text between two byte offsets; empty unless both are character boundaries in order. -/
def slice (text : String) (start stop : Nat) : String :=
  if h : String.Pos.Raw.IsValid text ⟨start⟩ ∧ String.Pos.Raw.IsValid text ⟨stop⟩ then
    text.extract (text.pos ⟨start⟩ h.1) (text.pos ⟨stop⟩ h.2)
  else ""

/-- The character at a byte offset, if one begins there. -/
def charAt? (text : String) (offset : Nat) : Option Char :=
  if h : String.Pos.Raw.IsValid text ⟨offset⟩ then (text.pos ⟨offset⟩ h).get? else none

theorem byteAt?_eq_none_iff {text : String} {offset : Nat} :
    byteAt? text offset = none ↔ text.utf8ByteSize ≤ offset := by
  simp [byteAt?]

theorem lt_of_byteAt?_eq_some {text : String} {offset : Nat} {b : UInt8}
    (h : byteAt? text offset = some b) : offset < text.utf8ByteSize := by
  simp only [byteAt?] at h
  split at h
  · assumption
  · cases h

/-- Where bytes stop being UTF-8. -/
inductive Utf8Fault where
  /-- This many bytes from this index on are no character and begin none. -/
  | illFormed (length index : Nat)
  /-- The bytes end within the character that begins at this index. -/
  | incomplete (index : Nat)
deriving DecidableEq, Repr

def Utf8Fault.message : Utf8Fault → String
  | .illFormed length index => s!"invalid utf-8 sequence of {length} bytes from index {index}"
  | .incomplete index => s!"incomplete utf-8 byte sequence from index {index}"

namespace Utf8

/-- The range that every byte but the first and perhaps the second lies in. -/
def continuation : UInt8 × UInt8 := (0x80, 0xBF)

/-- The ranges that the bytes after a first byte lie in, provided that the first byte begins a
character of more than one byte. -/
def followers (lead : UInt8) : List (UInt8 × UInt8) :=
  if lead < 0xC2 then []
  else if lead ≤ 0xDF then [continuation]
  else if lead = 0xE0 then [(0xA0, 0xBF), continuation]
  else if lead = 0xED then [(0x80, 0x9F), continuation]
  else if lead ≤ 0xEF then [continuation, continuation]
  else if lead = 0xF0 then [(0x90, 0xBF), continuation, continuation]
  else if lead ≤ 0xF3 then [continuation, continuation, continuation]
  else if lead = 0xF4 then [(0x80, 0x8F), continuation, continuation]
  else []

/-- What the beginning of some bytes is. -/
inductive Head where
  /-- A character of this many bytes. -/
  | whole (length : Nat)
  /-- An ill-formed sequence of this many bytes. -/
  | illFormed (length : Nat)
  /-- The beginning of a character, and nothing after it. -/
  | incomplete
deriving DecidableEq, Repr

/-- Reads one byte for each range, `length` bytes having been read. -/
def follow (length : Nat) : List (UInt8 × UInt8) → List UInt8 → Head
  | [], _ => .whole length
  | _ :: _, [] => .incomplete
  | (low, high) :: ranges, b :: rest =>
    if low ≤ b ∧ b ≤ high then follow (length + 1) ranges rest else .illFormed length

/-- Reads the character that begins with `lead`. -/
def head (lead : UInt8) (rest : List UInt8) : Head :=
  if lead < 0x80 then .whole 1
  else
    match followers lead with
    | [] => .illFormed 1
    | ranges => follow 1 ranges rest

/-- The first fault in bytes, of which `index` stood before them. -/
def faultFrom? (index : Nat) : List UInt8 → Option Utf8Fault
  | [] => none
  | lead :: rest =>
    match head lead rest with
    | .whole length => faultFrom? (index + length) (rest.drop (length - 1))
    | .illFormed length => some (.illFormed length index)
    | .incomplete => some (.incomplete index)
termination_by bytes => bytes.length

/-- The characters of bytes, U+FFFD standing for each ill-formed or incomplete sequence. -/
def charsWithMarks : List UInt8 → List Char
  | [] => []
  | lead :: rest =>
    match head lead rest with
    | .whole length =>
      let bytes := (lead :: rest.take (length - 1)).toByteArray
      (bytes.utf8DecodeChar? 0).getD '\uFFFD' :: charsWithMarks (rest.drop (length - 1))
    | .illFormed length => '\uFFFD' :: charsWithMarks (rest.drop (length - 1))
    | .incomplete => ['\uFFFD']
termination_by bytes => bytes.length

end Utf8

/-- The text that bytes are, or where they stop being text. -/
def decodeUtf8 (bytes : ByteArray) : Except Utf8Fault String :=
  match String.fromUTF8? bytes with
  | some text => .ok text
  | none => .error ((Utf8.faultFrom? 0 bytes.toList).getD (.incomplete 0))

/-- The text that bytes are, with U+FFFD where they are none. -/
def decodeWithMarks (bytes : ByteArray) : String :=
  (String.fromUTF8? bytes).getD (String.ofList (Utf8.charsWithMarks bytes.toList))

/-- The units in bytes; a last byte without a partner is left out. -/
def units (bigEndian : Bool) : List UInt8 → List Nat
  | a :: b :: rest =>
    (if bigEndian then 256 * a.toNat + b.toNat else a.toNat + 256 * b.toNat) ::
      units bigEndian rest
  | _ => []

/-- The character of two units of a pair, the first of them in the range of such. -/
def pairedChar (first second : Nat) : Char :=
  Char.ofNat (0x10000 + 1024 * (first - 0xD800) + second % 1024)

/-- The characters that units stand for; a unit that lacks a partner is a replacement character. -/
def charsOfUnits : List Nat → List Char
  | [] => []
  | [unit] => [if 0xD800 ≤ unit ∧ unit < 0xE000 then '\ufffd' else Char.ofNat unit]
  | first :: second :: rest =>
    if first < 0xD800 ∨ 0xE000 ≤ first then Char.ofNat first :: charsOfUnits (second :: rest)
    else if first < 0xDC00 ∧ 0xDC00 ≤ second ∧ second < 0xE000 then
      pairedChar first second :: charsOfUnits rest
    else '\ufffd' :: charsOfUnits (second :: rest)

/-- The text of bytes in units of two, with marks in place of faults. -/
def ofUtf16 (bigEndian : Bool) (bytes : ByteArray) : String :=
  String.ofList (charsOfUnits (units bigEndian bytes.toList))

end Rollup.Text
