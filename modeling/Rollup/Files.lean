import Rollup.Store.Database
import Rollup.Text.Quoted

/-!
Files and directories, and the ways to them. A file system is known by what it shows at the end of
names from its root; a tree of files is one that shows what it lists.
-/

namespace Rollup.Path

/-- How many bytes a name may have. -/
def nameLimit : Nat := 255

/-- How many bytes a path must stay below. -/
def sizeLimit : Nat := 4096

/-- Whether a piece of a path between slashes leads nowhere: nothing at all, or a dot. -/
def isIdle (piece : String) : Bool := piece = "" || piece = "."

def isAbsolute (path : String) : Bool := path.toList.head? = some '/'

/-- The names that a path leads through, steps up among them. -/
def components (path : String) : List String := (path.splitOn "/").filter fun piece => !isIdle piece

/-- The names on the way and the last name. There is none if the path ends with a step up, or leads
nowhere. -/
def split? (path : String) : Option (List String × String) :=
  match (components path).reverse with
  | [] => none
  | name :: parents => if name = ".." then none else some (parents.reverse, name)

/-- The text of a path before its last name, idle pieces between the two left out. -/
def parentText (path : String) : String :=
  let pieces := (path.splitOn "/").reverse.dropWhile isIdle
  "/".intercalate ((pieces.drop 1).dropWhile isIdle).reverse

/-- Whether a path ends in a way that only a directory allows. -/
def wantsDirectory (path : String) : Bool := ((path.splitOn "/").getLast?.map isIdle).getD true

/-- What the name of a file has after its last point, unless it only begins with one. -/
def extension? (name : String) : Option String :=
  let after := name.toList.reverse.takeWhile (· ≠ '.')
  if after.length + 1 < name.length then some (String.ofList after.reverse) else none

end Rollup.Path

namespace Rollup

/-- A file, by what is in it. -/
inductive FileContent where
  | bytes (bytes : ByteArray)
  | database (database : Store.Database)

namespace FileContent

/-- Whether a file holds nothing as a database; a single byte is not enough. A database without
tables is stored as an empty file. -/
def isBlank : FileContent → Bool
  | .bytes content => content.size ≤ 1
  | .database content => content.tables.isEmpty

/-- The text that a file holds, if it is text. -/
def text? : FileContent → Option String
  | .bytes content => String.fromUTF8? content
  | .database content => if content.tables.isEmpty then some "" else none

end FileContent

/-- What may stand at a place. -/
inductive Entry where
  | file (content : FileContent)
  | directory
  /-- What is neither, such as a device. -/
  | special

/-- Why nothing can be said of a path. -/
inductive PathFault where
  | missing
  | notADirectory
  | nameTooLong
  | noFileName
  /-- There is a zero character in the names on the way. -/
  | zeroInParent
  /-- There is a zero character in the last name. -/
  | zeroInName
deriving DecidableEq, Repr

/-- The names that lead from the root to something, with no steps up among them. -/
abbrev Place := List String

/-- A file system that is looked at within some monad. -/
structure FileSystem (m : Type → Type) where
  look : Place → m (Option Entry)
  /-- Where paths that are not absolute begin. -/
  workingDirectory : Place

namespace FileSystem

/-- What a name stands for within what is at a place. -/
def child {m : Type → Type} [Monad m] (files : FileSystem m) (place : Place) (name : String) :
    ExceptT PathFault m Entry := do
  match ← files.look place with
  | none => throw .missing
  | some .directory =>
    if Path.nameLimit < name.utf8ByteSize then throw .nameTooLong
    else
      match ← files.look (place ++ [name]) with
      | none => throw .missing
      | some entry => return entry
  | some _ => throw .notADirectory

/-- Follows names from a place. The root is above itself. -/
def walk {m : Type → Type} [Monad m] (files : FileSystem m) (place : Place) :
    List String → ExceptT PathFault m Place
  | [] => return place
  | name :: rest => do
    if name = ".." then
      match ← files.look place with
      | some .directory => files.walk place.dropLast rest
      | _ => throw .notADirectory
    else
      let _ ← files.child place name
      files.walk (place ++ [name]) rest

/-- Where a path begins that is followed from a place. -/
def start (path : String) (place : Place) : Place := if Path.isAbsolute path then [] else place

/-- What a path leads to that must have a file name. What is wrong with the way to the name is found
before what is wrong with the name. -/
def find {m : Type → Type} [Monad m] (files : FileSystem m) (path : String) :
    ExceptT PathFault m Entry := do
  match Path.split? path with
  | none => throw .noFileName
  | some (parents, name) =>
    let parent := Path.parentText path
    if parent.contains '\x00' then throw .zeroInParent
    if Path.sizeLimit ≤ parent.utf8ByteSize then throw .nameTooLong
    let place ← files.walk (start path files.workingDirectory) parents
    match ← files.look place with
    | some .directory =>
      if name.contains '\x00' then throw .zeroInName
      files.child place name
    | _ => throw .notADirectory

/-- Whether there is anything at the end of a path. -/
def leads {m : Type → Type} [Monad m] (files : FileSystem m) (path : String) : m Bool := do
  match ← (files.walk (start path files.workingDirectory) (Path.components path)).run with
  | .error _ => return false
  | .ok found =>
    match ← files.look found with
    | some .directory => return path ≠ ""
    | some _ => return !Path.wantsDirectory path
    | none => return false

/-- The file that a path leads to from a place, and its own place. -/
def file? {m : Type → Type} [Monad m] (files : FileSystem m) (place : Place) (path : String) :
    m (Option (Place × FileContent)) := do
  if Path.wantsDirectory path then return none
  match ← (files.walk (start path place) (Path.components path)).run with
  | .error _ => return none
  | .ok found =>
    match ← files.look found with
    | some (.file content) => return some (found, content)
    | _ => return none

end FileSystem

/-- Files and directories at their places. The directories on the way to an entry are there without
being listed. -/
abbrev FileTree := List (Place × Entry)

namespace FileTree

/-- What a tree of files shows at a place. -/
def entry? (tree : FileTree) (place : Place) : Option Entry :=
  match tree.lookup place with
  | some entry => some entry
  | none =>
    if place = [] || tree.any fun (other, _) => place.isPrefixOf other then some .directory
    else none

def system (tree : FileTree) (workingDirectory : Place) : FileSystem Id where
  look place := tree.entry? place
  workingDirectory

end FileTree

/-- Why a file that a setting names cannot be read. -/
inductive SourceFault where
  | missing (setting path : String)
  /-- There is something, but no file. -/
  | notAFile (setting path : String)
  | uninspectable (setting path cause : String)
deriving DecidableEq, Repr

namespace SourceFault

def message : SourceFault → String
  | .missing setting path => setting ++ " path " ++ Text.quoted path ++ " does not exist"
  | .notAFile setting path =>
    setting ++ " path " ++ Text.quoted path ++ " exists but is not a file"
  | .uninspectable setting path cause =>
    "failed to inspect " ++ setting ++ " path " ++ Text.quoted path ++ ": " ++ cause

/-- What a fault on the way to a file means for the setting that names it. -/
def ofPath (setting path : String) : PathFault → SourceFault
  | .missing => .missing setting path
  | .notADirectory => .uninspectable setting path "Not a directory (os error 20)"
  | .nameTooLong => .uninspectable setting path "File name too long (os error 36)"
  | .noFileName => .uninspectable setting path "path should include a file name"
  | .zeroInParent =>
    .uninspectable setting path "file name contained an unexpected NUL byte"
  | .zeroInName => .uninspectable setting path "Invalid argument (os error 22)"

end SourceFault

/-- There must be a file at the end of the path of a setting. -/
def FileSystem.requireFile {m : Type → Type} [Monad m] (files : FileSystem m)
    (setting path : String) : ExceptT SourceFault m Unit := do
  match ← (files.find path).run with
  | .ok (.file _) => return
  | .ok _ => throw (.notAFile setting path)
  | .error fault => throw (.ofPath setting path fault)

end Rollup
