import Rollup.Extract.Draft

/-!
Extraction row by row. Each row is fetched, read, attributed and written before the next one, and
the first fault ends the extraction.
-/

namespace Rollup

/-- The record of a row, with what looking up its changeset makes of the cache and reports. -/
structure Attributed where
  record : Extracted Record
  cache : OwnerCache
  reports : List Report

/-- Looks up a draft's changeset and finishes the record. -/
def Draft.attribute (draft : Draft) (cache : OwnerCache) : Attributed where
  record :=
    let attribution := cache.attribution draft.changeset
    draft.finish attribution.uid? attribution.displayName?
  cache := cache.remember draft.changeset
  reports := cache.reports draft.changeset

/-- Reads and attributes a row. A row that makes no draft is not looked up. -/
def attributeRow (options : Options) (kind : RecordKind) (row : Row) (cache : OwnerCache) :
    Attributed :=
  match Draft.read options kind row with
  | .ok draft => draft.attribute cache
  | .error fault => { record := .error fault, cache, reports := [] }

/-- What can be seen while an extraction goes on. -/
inductive Event where
  /-- An element is about to be written. -/
  | announced (element : Element)
  | wrote (record : Record)

/-- The announcement of a record, if it is an element and announcements are wanted. -/
def announcement (announce : Bool) : Record → List Event
  | .element element _ _ => if announce then [.announced element] else []
  | .changeset .. => []

/-- How an extraction ended, and what it left behind. -/
structure Extraction (σ : Type) where
  /-- The number of records written, unless there was a fault. -/
  result : Extracted Nat
  target : σ
  cache : OwnerCache
  events : List Event := []
  reports : List Report := []

/-- An extraction with something seen and reported before it. -/
def Extraction.after {σ : Type} (extraction : Extraction σ) (events : List Event)
    (reports : List Report) : Extraction σ :=
  { extraction with
    events := events ++ extraction.events
    reports := reports ++ extraction.reports }

/-- What is asked for: records of a kind, and what is done with each of them. -/
structure Request (σ : Type) where
  kind : RecordKind
  options : Options := {}
  /-- Whether elements are announced before they are written. -/
  announce : Bool := false
  formatter : Formatter σ

variable {σ : Type}

/-- The end of the rows, reached with `written` records or not at all. -/
def finishRows (kind : RecordKind) (failure : Option String) (written : Nat) (target : σ)
    (cache : OwnerCache) : Extraction σ :=
  match failure with
  | some cause => { result := .error (.row (.fetch cause)), target, cache }
  | none => { result := .ok written, target, cache, reports := [.extractedRows written kind.name] }

/-- Extracts rows, `written` records having been written before them. -/
def extractRows (request : Request σ) (failure : Option String) (written : Nat) (target : σ)
    (cache : OwnerCache) : List Row → Extraction σ
  | [] => finishRows request.kind failure written target cache
  | row :: rest =>
    let attributed := attributeRow request.options request.kind row cache
    match attributed.record with
    | .error fault =>
      { result := .error fault, target, cache := attributed.cache, reports := attributed.reports }
    | .ok record =>
      let announced := announcement request.announce record
      match request.formatter target record with
      | (target, some fault) =>
        { result := .error (.format fault), target, cache := attributed.cache, events := announced
          reports := attributed.reports }
      | (target, none) =>
        (extractRows request failure (written + 1) target attributed.cache rest).after
          (announced ++ [.wrote record]) attributed.reports

/-- Extracts the rows of a feed one after another into a target. -/
def extract (request : Request σ) (feed : RowFeed) (target : σ) (cache : OwnerCache) :
    Extraction σ :=
  extractRows request feed.failure 0 target cache feed.rows

end Rollup
