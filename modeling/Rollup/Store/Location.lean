import Rollup.Store.Query
import Rollup.Text.Quoted
import Rollup.Text.Bytes

namespace Rollup.Store

/-- What a database may be used for. -/
inductive Access where
  | read
  | write
  /-- As for writing, but the file may be made. -/
  | create
  /-- Without a file. -/
  | memory
deriving DecidableEq, Repr

/-- Why a database cannot be opened. -/
inductive OpenFault where
  | storage (cause : StorageFault)
  | invalidAuthority (authority : String)
  /-- An option names no way of its sort. -/
  | noSuchMode (sort mode : String)
  /-- An option asks for more than is allowed. -/
  | modeNotAllowed (sort mode : String)
  | noSuchDriver (name : String)
deriving DecidableEq, Repr

def OpenFault.message (name : String) : OpenFault → String
  | .storage .cannotOpen => StorageFault.cannotOpen.message ++ ": " ++ name
  | .storage cause => cause.message
  | .invalidAuthority authority => "invalid uri authority: " ++ authority
  | .noSuchMode sort mode => s!"no such {sort} mode: {mode}"
  | .modeNotAllowed sort mode => s!"{sort} mode not allowed: {mode}"
  | .noSuchDriver name => "no such vfs: " ++ name

/-- Where a database is, and how it is to be used. -/
structure Location where
  path : String
  access : Access := .read
  /-- Whether nothing is expected to change it, so that nothing beside its file matters. -/
  immutable : Bool := false
  /-- A path to take the permissions of new files from, which must lead somewhere. -/
  modeSource? : Option String := none
deriving DecidableEq, Repr

/-- Whether a database has no file, and so begins empty. -/
def Location.IsTransient (location : Location) : Prop :=
  location.path = "" ∨ location.path = ":memory:" ∨ location.access = .memory

instance (location : Location) : Decidable location.IsTransient :=
  inferInstanceAs (Decidable (_ ∨ _ ∨ _))

namespace Locator

/-- What follows the part of a locator that a zero byte cuts short. -/
def skipPart (stops : List Char) (text : List Char) : List Char :=
  text.dropWhile fun c => !stops.contains c && c ≠ '#'

/-- The bytes of a part of a locator up to one of the characters that it stops before, and what is
left. A percent sign and two digits of base sixteen stand for a byte. -/
def part (stops : List Char) : List Char → List UInt8 × List Char
  | [] => ([], [])
  | '%' :: a :: b :: rest =>
    match Text.Escape.hexDigit? a, Text.Escape.hexDigit? b with
    | some high, some low =>
      if 16 * high + low = 0 then ([], skipPart stops rest)
      else
        let (bytes, rest) := part stops rest
        ((16 * high + low).toUInt8 :: bytes, rest)
    | _, _ =>
      let (bytes, rest) := part stops (a :: b :: rest)
      ('%'.toNat.toUInt8 :: bytes, rest)
  | c :: rest =>
    if stops.contains c || c = '#' then ([], c :: rest)
    else
      let (bytes, rest) := part stops rest
      (String.utf8EncodeChar c ++ bytes, rest)

/-- The text of bytes, with marks in place of faults. -/
def textOf (bytes : List UInt8) : String := Text.decodeWithMarks bytes.toByteArray

/-- The options of a locator, at most `count` of them, with their values. One without a name is left
out. -/
def options (count : Nat) (text : List Char) : List (String × String) :=
  match count with
  | 0 => []
  | count + 1 =>
    let onward := fun (rest : List Char) =>
      if rest.head? = some '&' then options count (rest.drop 1) else []
    match part ['=', '&'] text with
    | ([], '=' :: rest) => onward (skipPart ['&'] rest)
    | ([], rest) => onward rest
    | (name, '=' :: rest) =>
      let (value, rest) := part ['&'] rest
      (textOf name, textOf value) :: onward rest
    | (name, rest) => (textOf name, "") :: onward rest

/-- The use that an option names. -/
def accessOf? : String → Option Access
  | "ro" => some .read
  | "rw" => some .write
  | "rwc" => some .create
  | "memory" => some .memory
  | _ => none

/-- Whether a use may be replaced by another: only by one that allows no more, but that of no file
by any. -/
def allows (current asked : Access) : Bool :=
  let rank : Access → Nat
    | .memory => 0
    | .read => 1
    | .write => 2
    | .create => 3
  current = .memory || rank asked ≤ rank current

/-- How a location is used after an option. -/
def applyOption (access : Access) (entry : String × String) : Except OpenFault Access :=
  match entry with
  | ("cache", value) =>
    if value = "shared" ∨ value = "private" then .ok access else .error (.noSuchMode "cache" value)
  | ("mode", value) =>
    match accessOf? value with
    | none => .error (.noSuchMode "access" value)
    | some asked =>
      if allows access asked then .ok asked else .error (.modeNotAllowed "access" value)
  | _ => .ok access

/-- The ways there are to reach a database; the last keeps it in memory. -/
def drivers : List String := ["unix", "unix-none", "unix-dotfile", "unix-excl", "memdb"]

/-- Whether the value of an option says yes. -/
def saysYes (value : String) : Bool :=
  let digits := value.toList.takeWhile Char.isDigit
  if digits.isEmpty then ["on", "yes", "true"].contains value.toLower
  else
    let n := Nat.ofDigitChars 10 digits 0
    n < Nat.pow 2 31 && n % 256 ≠ 0

/-- What follows the authority of a locator, which may only name the machine itself. -/
def dropAuthority : List Char → Except OpenFault (List Char)
  | '/' :: '/' :: rest =>
    let authority := String.ofList (rest.takeWhile (· ≠ '/'))
    if authority = "" ∨ authority = "localhost" then .ok (rest.dropWhile (· ≠ '/'))
    else .error (.invalidAuthority authority)
  | text => .ok text

/-- Reads a locator after the word that it begins with. -/
def read (text : List Char) : Except OpenFault Location := do
  let (path, rest) := part ['?'] (← dropAuthority text)
  let options := if rest.head? = some '?' then options rest.length (rest.drop 1) else []
  let access ← options.foldlM applyOption .read
  let driver := (options.reverse.lookup "vfs").getD "unix"
  if !drivers.contains driver then .error (.noSuchDriver driver)
  else
    .ok
      { path := textOf path
        access := if driver = "memdb" then .memory else access
        immutable := ((options.lookup "immutable").map saysYes).getD false
        modeSource? := options.lookup "modeof" }

end Locator

/-- What the name of a database says: a locator begins with `file:`, and anything else is a path. -/
def Location.ofName (name : String) : Except OpenFault Location :=
  match name.toList with
  | 'f' :: 'i' :: 'l' :: 'e' :: ':' :: rest => Locator.read rest
  | _ => .ok { path := name }

end Rollup.Store
