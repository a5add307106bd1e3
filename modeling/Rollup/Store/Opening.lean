import Rollup.Files
import Rollup.Store.Image.Schema
import Rollup.Store.Location

namespace Rollup.Store

/-- The number of bytes that an absolute path must stay below at every step. -/
def stepLimit : Nat := 512

/-- The greatest number of bytes in the absolute path of a database, which leaves room for the
endings of the names of files beside it. -/
def pathLimit : Nat := 504

/-- The number of bytes in the absolute path of a place. -/
def placeSize (place : Place) : Nat :=
  place.foldl (fun size name => size + 1 + name.utf8ByteSize) 0

/-- What stands at a place, each directory on the way being looked at. -/
def inspect {m : Type → Type} [Monad m] (files : FileSystem m) (place : Place) :
    ExceptT PathFault m Entry := do
  let parent ← files.walk [] place.dropLast
  match place.getLast? with
  | some name => files.child parent name
  | none => return .directory

/-- The place that names lead to from another. Nothing need be at the places passed on the way, but
they must not be under a file. -/
def resolve {m : Type → Type} [Monad m] (files : FileSystem m) (place : Place) :
    List String → ExceptT StorageFault m Place
  | [] => if place = [] ∨ pathLimit < placeSize place then throw .cannotOpen else return place
  | name :: rest => do
    if name = ".." then resolve files place.dropLast rest
    else
      let next := place ++ [name]
      if stepLimit ≤ placeSize next then throw .cannotOpen
      match ← (inspect files next).run with
      | .ok _ | .error .missing => resolve files next rest
      | .error _ => throw .cannotOpen

/-- The place of a file beside a database, whose name goes on with an ending. -/
def beside (place : Place) (ending : String) : Place :=
  place.dropLast ++ [place.getLastD "" ++ ending]

/-- Whether a file holds the beginning of a record of changes. -/
def holdsJournal : FileContent → Bool
  | .bytes content => content[0]?.any (· ≠ 0)
  | .database found => !found.tables.isEmpty

/-- What is wrong with what stands beside a database that holds something. A change that was broken
off must be undone first. -/
def checkJournal {m : Type → Type} [Monad m] (files : FileSystem m) (access : Access)
    (place : Place) : ExceptT StorageFault m Unit := do
  match ← files.look (beside place "-journal") with
  | some .directory => throw .inputOutput
  | some (.file content) =>
    if access = .read ∧ holdsJournal content then throw .needsWriting
  | _ => pure ()
  match ← files.look (beside place "-wal") with
  | some .directory => throw .cannotOpen
  | _ => pure ()

/-- What is wrong with what stands beside an empty database, whose record of changes is removed. -/
def checkRemnant {m : Type → Type} [Monad m] (files : FileSystem m) (place : Place) :
    ExceptT StorageFault m Unit := do
  match ← files.look (beside place "-wal") with
  | some .directory => throw .inputOutput
  | _ => pure ()

/-- What there is to ask of a file. -/
def Content.ofFile : FileContent → Content
  | .bytes content => .ofBytes content
  | .database found => .database found

/-- What there is to ask in a database at a place; one without anything in it is empty. -/
def readAt {m : Type → Type} [Monad m] (files : FileSystem m) (location : Location) (place : Place)
    (content : FileContent) : m Content := do
  let checked ←
    if location.immutable then pure (.ok ())
    else if content.isBlank then (checkRemnant files place).run
    else (checkJournal files location.access place).run
  match checked with
  | .error cause => return .unreadable cause
  | .ok () => return if content.isBlank then .database {} else .ofFile content

def openAt {m : Type → Type} [Monad m] (files : FileSystem m) (location : Location)
    (place : Place) : ExceptT StorageFault m Content := do
  if let some path := location.modeSource? then
    if !(← files.leads path) then throw .inputOutput
  match ← (inspect files place).run with
  | .ok (.file content) => (readAt files location place content : m Content)
  | .ok .special => return .database {}
  | .ok .directory => throw (if location.access = .read then .inputOutput else .cannotOpen)
  | .error _ =>
    match location.access, ← (inspect files place.dropLast).run with
    | .create, .ok .directory => return .database {}
    | _, _ => throw .cannotOpen

def openDatabase {m : Type → Type} [Monad m] (files : FileSystem m) (name : String) :
    ExceptT OpenFault m Content := do
  let location ← (Location.ofName name : Except OpenFault Location)
  if location.IsTransient then return .database {}
  let start := FileSystem.start location.path files.workingDirectory
  let opened : ExceptT StorageFault m Content := do
    let place ← resolve files start (Path.components location.path)
    openAt files location place
  match ← opened.run with
  | .ok content => return content
  | .error cause => throw (.storage cause)

end Rollup.Store
