import Rollup.Proofs.Extract.Decoding

/-!
An extraction as a whole. Rows are decoded, announced and written one after another up to the first
of them that meets a fault, and what has been written by then stays. The main statement ties the
extraction to the decodings of its rows, each of which is a matter of that row and of the owners at
the start alone.
-/

namespace Rollup

variable {σ : Type}

namespace Formatter

/-- The state of a formatter after records were handed to it one by one. -/
def stateAfter (formatter : Formatter σ) (target : σ) (records : List Record) : σ :=
  records.foldl (fun target record => (formatter target record).1) target

/-- Why a formatter refuses a record that comes after others, if it does. -/
def refusal? (formatter : Formatter σ) (target : σ) (before : List Record) (record : Record) :
    Option FormatFault :=
  (formatter (formatter.stateAfter target before) record).2

theorem refusal?_cons (formatter : Formatter σ) (target : σ) (first : Record)
    (before : List Record) (record : Record) :
    formatter.refusal? target (first :: before) record =
      formatter.refusal? (formatter target first).1 before record := rfl

end Formatter

/-- The element that a record is about, if it is not about a changeset. -/
def Record.element? : Record → Option Element
  | .element shared _ _ => some shared
  | .changeset .. => none

theorem announcement_eq (announce : Bool) (record : Record) :
    announcement announce record =
      if announce then record.element?.toList.map .announced else [] := by
  cases record with
  | element shared body tags => cases announce <;> rfl
  | changeset shared tags withDiscussion comments now => cases announce <;> rfl

/-- The record that was written, if the event is that one was. -/
def Event.written? : Event → Option Record
  | .announced _ => none
  | .wrote record => some record

theorem filterMap_written?_announcement (announce : Bool) (record : Record) :
    (announcement announce record).filterMap Event.written? = [] := by
  cases record with
  | element shared body tags => cases announce <;> rfl
  | changeset shared tags withDiscussion comments now => rfl

/-- The records that the formatter took, in order. -/
def Extraction.written (extraction : Extraction σ) : List Record :=
  extraction.events.filterMap Event.written?

theorem Extraction.written_after (extraction : Extraction σ) (announce : Bool) (record : Record)
    (reports : List Report) :
    (extraction.after (announcement announce record ++ [.wrote record]) reports).written =
      record :: extraction.written := by
  simp [Extraction.after, written, filterMap_written?_announcement, Event.written?]

namespace Request

/-- The record that a row decodes into under the options of a request, given who owns what. -/
def decode (request : Request σ) (ownerOf? : Int → Option Owner) (row : Row) : Extracted Record :=
  decodeRow request.options request.kind ownerOf? row

/-- The records of the first rows, so far as they decode. -/
def decoded (request : Request σ) (ownerOf? : Int → Option Owner) (rows : List Row)
    (count : Nat) : List Record :=
  (rows.take count).filterMap fun row => (request.decode ownerOf? row).toOption

/-- The fault that is met at an index when none was met before it: there is no telling whether
another row follows, or the row does not decode, or the formatter refuses its record after those of
the rows before. -/
def faultAt? (request : Request σ) (feed : RowFeed) (ownerOf? : Int → Option Owner) (target : σ)
    (index : Nat) : Option ExtractFault :=
  match feed.rows[index]? with
  | none => feed.failure.map fun cause => .row (.fetch cause)
  | some row =>
    match request.decode ownerOf? row with
    | .error fault => some fault
    | .ok record =>
      (request.formatter.refusal? target (request.decoded ownerOf? feed.rows index) record).map
        .format

/-- The record that is handed to the formatter from the row at an index, if there is one. -/
def offered (request : Request σ) (feed : RowFeed) (ownerOf? : Int → Option Owner)
    (index : Nat) : List Record :=
  (feed.rows[index]?.bind fun row => (request.decode ownerOf? row).toOption).toList

end Request

/-- An extraction that went through the first `count` rows and no further. -/
structure Streamed (request : Request σ) (feed : RowFeed) (ownerOf? : Int → Option Owner)
    (target : σ) (total count : Nat) (extraction : Extraction σ) : Prop where
  count_le : count ≤ feed.rows.length
  /-- Nothing stops it before. -/
  clear : ∀ index < count, request.faultAt? feed ownerOf? target index = none
  /-- If there are more rows then something stops it there. -/
  stopped : count < feed.rows.length → (request.faultAt? feed ownerOf? target count).isSome
  /-- The records written are the decodings of those rows, each once and in order. -/
  records : extraction.written.map .ok =
    (feed.rows.take count).map (request.decode ownerOf?)
  /-- The result is the fault that stopped it, or else the number of all rows. -/
  result : extraction.result =
    match request.faultAt? feed ownerOf? target count with
    | some fault => .error fault
    | none => .ok total
  /-- If announcements are wanted then elements are announced, each right before its record is
  written or refused. Nothing else can be seen but that the records are written. -/
  events : extraction.events =
    extraction.written.flatMap (fun record =>
        (if request.announce then record.element?.toList.map .announced else []) ++
          [.wrote record]) ++
      (request.offered feed ownerOf? count).flatMap fun record =>
        if request.announce then record.element?.toList.map .announced else []
  /-- The formatter was handed these records and no others. -/
  target : extraction.target =
    request.formatter.stateAfter target
      (extraction.written ++ request.offered feed ownerOf? count)

section Steps

variable {request : Request σ} {failure : Option String} {written : Nat} {target : σ}
  {cache : OwnerCache} {row : Row} {rest : List Row}

theorem extractRows_cons_of_error {fault : ExtractFault}
    (h : request.decode cache.get? row = .error fault) :
    extractRows request failure written target cache (row :: rest) =
      { result := .error fault, target
        cache := (attributeRow request.options request.kind row cache).cache
        reports := (attributeRow request.options request.kind row cache).reports } := by
  have hrecord := (attributeRow_record request.options request.kind row cache).trans h
  simp only [extractRows, hrecord]

theorem extractRows_cons_of_refused {record : Record} {fault : FormatFault} {target' : σ}
    (h : request.decode cache.get? row = .ok record)
    (hrefused : request.formatter target record = (target', some fault)) :
    extractRows request failure written target cache (row :: rest) =
      { result := .error (.format fault), target := target'
        cache := (attributeRow request.options request.kind row cache).cache
        events := announcement request.announce record
        reports := (attributeRow request.options request.kind row cache).reports } := by
  have hrecord := (attributeRow_record request.options request.kind row cache).trans h
  simp only [extractRows, hrecord, hrefused]

theorem extractRows_cons_of_taken {record : Record} {target' : σ}
    (h : request.decode cache.get? row = .ok record)
    (htaken : request.formatter target record = (target', none)) :
    extractRows request failure written target cache (row :: rest) =
      (extractRows request failure (written + 1) target'
        (attributeRow request.options request.kind row cache).cache rest).after
        (announcement request.announce record ++ [.wrote record])
        (attributeRow request.options request.kind row cache).reports := by
  have hrecord := (attributeRow_record request.options request.kind row cache).trans h
  simp only [extractRows, hrecord, htaken]

theorem faultAt?_cons_succ {ownerOf? : Int → Option Owner} {record : Record} {target' : σ}
    (h : request.decode ownerOf? row = .ok record)
    (htaken : request.formatter target record = (target', none)) (index : Nat) :
    request.faultAt? ⟨row :: rest, failure⟩ ownerOf? target (index + 1) =
      request.faultAt? ⟨rest, failure⟩ ownerOf? target' index := by
  have hdecoded : request.decoded ownerOf? (row :: rest) (index + 1) =
      record :: request.decoded ownerOf? rest index := by
    simp [Request.decoded, h, Except.toOption]
  simp only [Request.faultAt?, List.getElem?_cons_succ, hdecoded, Formatter.refusal?_cons, htaken]

end Steps

theorem Streamed.of_fault {request : Request σ} {feed : RowFeed} {ownerOf? : Int → Option Owner}
    {target : σ} {total : Nat} {extraction : Extraction σ} {fault : ExtractFault}
    (hfault : request.faultAt? feed ownerOf? target 0 = some fault)
    (hresult : extraction.result = .error fault)
    (hevents : extraction.events =
      (request.offered feed ownerOf? 0).flatMap (announcement request.announce))
    (htarget : extraction.target =
      request.formatter.stateAfter target (request.offered feed ownerOf? 0)) :
    Streamed request feed ownerOf? target total 0 extraction := by
  have hwritten : extraction.written = [] := by
    rw [Extraction.written, hevents, List.filterMap_flatMap]
    simp [filterMap_written?_announcement]
  constructor
  · exact Nat.zero_le _
  · intro index hindex
    omega
  · intro _
    rw [hfault]
    rfl
  · rw [hwritten]
    rfl
  · rw [hfault]
    exact hresult
  · rw [hwritten, hevents, funext (announcement_eq request.announce)]
    rfl
  · rw [hwritten]
    exact htarget

theorem Streamed.cons {request : Request σ} {failure : Option String}
    {ownerOf? : Int → Option Owner} {target target' : σ} {row : Row} {rest : List Row}
    {record : Record} {total count : Nat} {extraction : Extraction σ}
    (h : request.decode ownerOf? row = .ok record)
    (htaken : request.formatter target record = (target', none))
    (hrest : Streamed request ⟨rest, failure⟩ ownerOf? target' total count extraction)
    (reports : List Report) :
    Streamed request ⟨row :: rest, failure⟩ ownerOf? target total (count + 1)
      (extraction.after (announcement request.announce record ++ [.wrote record]) reports) := by
  have hfault : ∀ index, request.faultAt? ⟨row :: rest, failure⟩ ownerOf? target (index + 1) =
      request.faultAt? ⟨rest, failure⟩ ownerOf? target' index := faultAt?_cons_succ h htaken
  have hoffered : request.offered ⟨row :: rest, failure⟩ ownerOf? (count + 1) =
      request.offered ⟨rest, failure⟩ ownerOf? count := by
    simp only [Request.offered, List.getElem?_cons_succ]
  have hwritten := extraction.written_after request.announce record reports
  constructor
  · simpa using hrest.count_le
  · intro index hindex
    cases index with
    | zero =>
        simp [Request.faultAt?, h, Request.decoded, Formatter.refusal?, Formatter.stateAfter,
          htaken]
    | succ index =>
        rw [hfault index]
        exact hrest.clear index (by omega)
  · intro hlt
    rw [hfault count]
    exact hrest.stopped (by simpa using hlt)
  · rw [hwritten]
    simp [h, hrest.records]
  · rw [hfault count]
    exact hrest.result
  · rw [hwritten, hoffered, List.flatMap_cons, ← announcement_eq, List.append_assoc]
    exact congrArg (_ ++ ·) hrest.events
  · rw [hwritten, hoffered]
    simpa [Extraction.after, Formatter.stateAfter, htaken] using hrest.target

/-- Every extraction of some rows, `written` records having been written before, is one that goes
through the rows before the first fault. -/
theorem exists_streamed_extractRows (request : Request σ) (failure : Option String)
    (rows : List Row) (written : Nat) (target : σ) (cache : OwnerCache) :
    ∃ count, Streamed request ⟨rows, failure⟩ cache.get? target (written + rows.length) count
      (extractRows request failure written target cache rows) := by
  induction rows generalizing written target cache with
  | nil =>
      refine ⟨0, ?_⟩
      cases failure with
      | none => exact ⟨Nat.le_refl 0, by simp, by simp, rfl, rfl, rfl, rfl⟩
      | some cause => exact .of_fault rfl rfl rfl rfl
  | cons row rest ih =>
      cases hdecode : request.decode cache.get? row with
      | error fault =>
          refine ⟨0, ?_⟩
          have hoffered : request.offered ⟨row :: rest, failure⟩ cache.get? 0 = [] := by
            simp [Request.offered, hdecode, Except.toOption]
          have hfault :
              request.faultAt? ⟨row :: rest, failure⟩ cache.get? target 0 = some fault := by
            simp [Request.faultAt?, hdecode]
          rw [extractRows_cons_of_error hdecode]
          refine .of_fault hfault rfl ?_ ?_
          · rw [hoffered]
            rfl
          · rw [hoffered]
            rfl
      | ok record =>
          have hoffered : request.offered ⟨row :: rest, failure⟩ cache.get? 0 = [record] := by
            simp [Request.offered, hdecode, Except.toOption]
          rcases htaken : request.formatter target record with ⟨target', _ | fault⟩
          · obtain ⟨count, hrest⟩ := ih (written + 1) target'
              (attributeRow request.options request.kind row cache).cache
            rw [get?_attributeRow] at hrest
            refine ⟨count + 1, ?_⟩
            rw [extractRows_cons_of_taken hdecode htaken, List.length_cons, ← Nat.add_assoc,
              Nat.add_right_comm]
            exact hrest.cons hdecode htaken _
          · have hfault : request.faultAt? ⟨row :: rest, failure⟩ cache.get? target 0 =
                some (.format fault) := by
              simp [Request.faultAt?, hdecode, Request.decoded, Formatter.refusal?,
                Formatter.stateAfter, htaken]
            refine ⟨0, ?_⟩
            rw [extractRows_cons_of_refused hdecode htaken]
            refine .of_fault hfault rfl ?_ ?_
            · simp [hoffered]
            · simp [hoffered, Formatter.stateAfter, htaken]

/-- An extraction stops at the first index at which fetching fails, a row does not decode or the
formatter refuses a record, and goes through all rows if there is none. What it does by then follows
from the decodings of the rows before, each made from its row and the owners at the start. -/
theorem extract_streams (request : Request σ) (feed : RowFeed) (target : σ)
    (cache : OwnerCache) :
    ∃ count, Streamed request feed cache.get? target feed.rows.length count
      (extract request feed target cache) := by
  simpa [extract] using
    exists_streamed_extractRows request feed.failure feed.rows 0 target cache

end Rollup
