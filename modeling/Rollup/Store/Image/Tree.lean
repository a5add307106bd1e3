import Rollup.Store.Query
import Rollup.Text.Bytes

/-!
Database files as pages of one size. The rows of a table hang in a tree of pages: the leaves hold
the rows in ascending order of their row numbers, and a row too long for its page goes on in a chain
of further pages.
-/

namespace Rollup.Store.Image

/-- The unsigned number in `count` bytes from an offset on. -/
def unsigned? (bytes : ByteArray) (offset count : Nat) : Option Nat :=
  if offset + count ≤ bytes.size then
    some ((bytes.extract offset (offset + count)).foldl (fun n b => 256 * n + b.toNat) 0)
  else none

/-- The signed number in `count` bytes, in two's complement. -/
def signed? (bytes : ByteArray) (offset count : Nat) : Option Int := do
  let n ← unsigned? bytes offset count
  some (Int.bmod n (Nat.pow 256 count))

/-- A number in groups of seven bits, `past` being those read and `more` the number of groups that
may still come; the last of nine groups has eight bits. What follows comes with it. -/
def groups? (bytes : ByteArray) (offset past : Nat) : Nat → Option (Nat × Nat)
  | 0 => do some (256 * past + (← unsigned? bytes offset 1), offset + 1)
  | more + 1 => do
    let b ← unsigned? bytes offset 1
    if b < 128 then some (128 * past + b, offset + 1)
    else groups? bytes (offset + 1) (128 * past + (b - 128)) more

/-- A number of variable length at an offset, and the offset after it. -/
def varint? (bytes : ByteArray) (offset : Nat) : Option (Nat × Nat) := groups? bytes offset 0 8

/-- A number of variable length read as a signed one of 64 bits. -/
def signedVarint? (bytes : ByteArray) (offset : Nat) : Option (Int × Nat) := do
  let (n, offset) ← varint? bytes offset
  some (Int.bmod n (Nat.pow 256 8), offset)

end Rollup.Store.Image

namespace Rollup.Store

/-- How the texts of an image are written. -/
inductive Encoding where
  | utf8
  | utf16 (bigEndian : Bool)
deriving DecidableEq, Repr

namespace Encoding

/-- The encoding with a number, of which the last two bits count. -/
def ofNumber (n : Nat) : Encoding :=
  match n % 4 with
  | 2 => .utf16 false
  | 3 => .utf16 true
  | _ => .utf8

/-- A stored cell with its text in UTF-8. -/
def cell (encoding : Encoding) (cell : Cell) : Cell :=
  match encoding, cell with
  | .utf16 bigEndian, .text bytes => .text (Text.ofUtf16 bigEndian bytes).toUTF8
  | _, cell => cell

end Encoding

/-- A file of pages that are counted from one. -/
structure Image where
  bytes : ByteArray
  pageSize : Nat
  /-- How many bytes of each page are in use. -/
  usable : Nat
  encoding : Encoding

namespace Image

/-- What every database file begins with. -/
def magic : ByteArray := "SQLite format 3\x00".toUTF8

/-- How many bytes the header of a file has. -/
def headerSize : Nat := 100

/-- The sizes that pages may have. -/
def pageSizes : List Nat := [512, 1024, 2048, 4096, 8192, 16384, 32768, 65536]

/-- How many bytes of a page must be usable. -/
def leastUsable : Nat := 480

/-- How much of a page a row may fill, in parts of 255: these three numbers and no others. -/
def fractions : List UInt8 := [64, 32, 32]

/-- The greatest version of the format for reading, and the greatest for the tables. -/
def versionLimits : Nat × Nat := (2, 4)

/-- The bytes from the beginning up to a size, with zeros in place of bytes that are not there. -/
def padded (bytes : ByteArray) (size : Nat) : ByteArray :=
  bytes.extract 0 size ++ (List.replicate (size - bytes.size) 0).toByteArray

/-- The image in a file, checked by its header. The file may lack bytes, but no page that it says it
has; it says so only where the counters of its changes agree. -/
def ofBytes (bytes : ByteArray) : Except StorageFault Image :=
  let header := padded bytes headerSize
  let number := fun offset count => (unsigned? header offset count).getD 0
  let pageSize := if number 16 2 = 1 then 65536 else number 16 2
  let usable := pageSize - number 20 1
  let pages := (bytes.size + pageSize - 1) / pageSize
  if (header.extract 0 16).toList ≠ magic.toList ∨ versionLimits.1 < number 19 1 ∨
      (header.extract 21 24).toList ≠ fractions ∨ pageSize ∉ pageSizes then .error .notADatabase
  else if number 24 4 = number 92 4 ∧ pages < number 28 4 then .error .malformed
  else if usable < leastUsable then .error .notADatabase
  else if versionLimits.2 < number 47 1 then .error .unsupportedFormat
  else
    .ok
      { pageSize, usable
        bytes := padded bytes (pages * pageSize)
        encoding := .ofNumber (number 56 4) }

def pageCount (image : Image) : Nat := image.bytes.size / image.pageSize

/-- A page by its number, counted from one. -/
def page? (image : Image) (number : Nat) : Option ByteArray :=
  if 1 ≤ number ∧ number ≤ image.pageCount then
    some (image.bytes.extract ((number - 1) * image.pageSize) (number * image.pageSize))
  else none

/-- The rest of a row, which goes on at a page, along a chain of at most `pages` pages. -/
def chain? (image : Image) (page size : Nat) : Nat → Option ByteArray
  | 0 => if size = 0 then some .empty else none
  | pages + 1 => do
    if size = 0 then some .empty
    else
      let bytes ← image.page? page
      let next ← unsigned? bytes 0 4
      let here := min size (image.usable - 4)
      some (bytes.extract 4 (4 + here) ++ (← image.chain? next (size - here) pages))

/-- How many bytes of a row stand on the leaf itself. -/
def localSize (image : Image) (size : Nat) : Nat :=
  let most := image.usable - 35
  let least := (image.usable - 12) * 32 / 255 - 23
  let fitting := least + (size - least) % (image.usable - 4)
  if size ≤ most then size else if fitting ≤ most then fitting else least

/-- The number and the bytes of the row in a cell of a leaf. -/
def leafCell? (image : Image) (bytes : ByteArray) (offset : Nat) : Option (Int × ByteArray) := do
  let (size, offset) ← varint? bytes offset
  let (number, offset) ← signedVarint? bytes offset
  let here := image.localSize size
  let start := bytes.extract offset (offset + here)
  if here = size then some (number, start)
  else
    let next ← unsigned? bytes (offset + here) 4
    some (number, start ++ (← image.chain? next (size - here) image.pageCount))

/-- The offsets of a page's cells. -/
def cellOffsets? (bytes : ByteArray) (first count : Nat) : Option (List Nat) :=
  (List.range count).mapM fun index => unsigned? bytes (first + 2 * index) 2

/-- The rows in the tree below a page, which is at most `depth` pages high. -/
def rows? (image : Image) (page : Nat) : Nat → Option (List (Int × ByteArray))
  | 0 => none
  | depth + 1 => do
    let bytes ← image.page? page
    let start := if page = 1 then headerSize else 0
    let count ← unsigned? bytes (start + 3) 2
    match ← unsigned? bytes start 1 with
    | 13 => (← cellOffsets? bytes (start + 8) count).mapM (image.leafCell? bytes)
    | 5 =>
      let offsets ← cellOffsets? bytes (start + 12) count
      let children ← (offsets ++ [start + 8]).mapM fun offset => unsigned? bytes offset 4
      some (← children.mapM fun child => image.rows? child depth).flatten
    | _ => none

/-- How high a tree may be. -/
def heightLimit : Nat := 40

/-- The cell of a type at an offset of a row, and the offset after it. -/
def cell? (bytes : ByteArray) (offset type : Nat) : Option (Cell × Nat) :=
  let sized := fun size => (signed? bytes offset size).map fun n => (Cell.integer n, offset + size)
  match type with
  | 0 | 10 | 11 => some (.null, offset)
  | 1 => sized 1
  | 2 => sized 2
  | 3 => sized 3
  | 4 => sized 4
  | 5 => sized 6
  | 6 => sized 8
  | 7 => (unsigned? bytes offset 8).map fun n => (.real (Float.ofBits n.toUInt64), offset + 8)
  | 8 => some (.integer 0, offset)
  | 9 => some (.integer 1, offset)
  | type =>
    let size := (type - 12) / 2
    let content := bytes.extract offset (offset + size)
    if content.size ≠ size then none
    else some (if type % 2 = 0 then .blob content else .text content, offset + size)

/-- The types of a row's cells, of which there are at most `count`. -/
def types? (bytes : ByteArray) (offset stop : Nat) : Nat → Option (List Nat)
  | 0 => if offset = stop then some [] else none
  | count + 1 => do
    if offset = stop then some []
    else
      let (type, offset) ← varint? bytes offset
      some (type :: (← types? bytes offset stop count))

/-- The cells of a row, from an offset on. -/
def cells? (bytes : ByteArray) (offset : Nat) : List Nat → Option (List Cell)
  | [] => some []
  | type :: rest => do
    let (cell, offset) ← cell? bytes offset type
    some (cell :: (← cells? bytes offset rest))

/-- The cells of a row. -/
def record? (image : Image) (bytes : ByteArray) : Option (List Cell) := do
  let (stop, offset) ← varint? bytes 0
  let cells ← cells? bytes stop (← types? bytes offset stop stop)
  some (cells.map image.encoding.cell)

end Image

end Rollup.Store
