import Mathlib.Algebra.Order.BigOperators.Group.List
import Rollup.Proofs.Output.Tally

namespace Rollup

theorem extract_of_size_le {bytes : ByteArray} {stop : Nat} (h : bytes.size ≤ stop) :
    bytes.extract 0 stop = bytes := by
  have hwhole : bytes.extract 0 (max stop bytes.size) = bytes := ByteArray.extract_zero_max_size
  rwa [Nat.max_eq_left h] at hwhole

theorem extract_append_of_le {first second : ByteArray} {stop : Nat} (h : first.size ≤ stop) :
    (first ++ second).extract 0 stop = first ++ second.extract 0 (stop - first.size) := by
  rw [ByteArray.extract_append, extract_of_size_le h, Nat.zero_sub]

theorem extract_append_of_lt {first second : ByteArray} {stop : Nat} (h : stop < first.size) :
    (first ++ second).extract 0 stop = first.extract 0 stop := by
  have hnone : second.extract 0 (stop - first.size) = .empty := by
    rw [ByteArray.extract_eq_empty_iff]
    omega
  rw [ByteArray.extract_append, Nat.zero_sub, hnone, ByteArray.append_empty]

namespace BoundedSink

variable {taken bytes : ByteArray} {room : Nat} {flushFails : Bool}

theorem write_of_le (h : bytes.size ≤ room) :
    write ⟨taken, some room, flushFails⟩ bytes =
      (⟨taken ++ bytes, some (room - bytes.size), flushFails⟩, none) := by
  simp only [write, extract_of_size_le h, if_pos h]

theorem write_of_lt (h : room < bytes.size) :
    write ⟨taken, some room, flushFails⟩ bytes =
      (⟨taken ++ bytes.extract 0 room, some 0, flushFails⟩, some "sink is full") := by
  simp only [write, if_neg (Nat.not_le.2 h), Nat.sub_eq_zero_of_le (Nat.le_of_lt h)]

theorem write_append (sink : BoundedSink) (first second : ByteArray) :
    sink.write (first ++ second) =
      match sink.write first with
      | (sink, none) => sink.write second
      | failed => failed := by
  obtain ⟨taken, _ | room, flushFails⟩ := sink
  · simp only [write, ByteArray.append_assoc]
  by_cases hfirst : first.size ≤ room
  · rw [write_of_le hfirst]
    by_cases hsecond : second.size ≤ room - first.size
    · have hboth : (first ++ second).size ≤ room := by
        rw [ByteArray.size_append]
        omega
      simp only [write_of_le hboth, write_of_le hsecond, ByteArray.size_append, Nat.sub_sub,
        ByteArray.append_assoc]
    · have hboth : room < (first ++ second).size := by
        rw [ByteArray.size_append]
        omega
      simp only [write_of_lt hboth, write_of_lt (Nat.not_le.1 hsecond),
        extract_append_of_le hfirst, ByteArray.append_assoc]
  · have hfirst := Nat.not_le.1 hfirst
    have hboth : room < (first ++ second).size := by
      rw [ByteArray.size_append]
      omega
    rw [write_of_lt hboth, write_of_lt hfirst, extract_append_of_lt hfirst]

theorem writePieces_eq_write (sink : BoundedSink) (pieces : List String) :
    JsonLines.writePieces sink pieces = sink.write (String.join pieces).toUTF8 := by
  induction pieces generalizing sink with
  | nil =>
      obtain ⟨taken, _ | room, flushFails⟩ := sink
      · rw [String.join_nil, String.toUTF8_eq_toByteArray, String.toByteArray_empty, write]
        simp only [ByteArray.append_empty]
        rfl
      · rw [String.join_nil, String.toUTF8_eq_toByteArray, String.toByteArray_empty,
          write_of_le (Nat.zero_le room), ByteArray.append_empty]
        rfl
  | cons piece rest ih =>
      have hwrite : Sink.write sink piece.toUTF8 = sink.write piece.toUTF8 := rfl
      rw [toUTF8_join_cons, write_append, JsonLines.writePieces, hwrite]
      rcases sink.write piece.toUTF8 with ⟨between, _ | cause⟩
      · exact ih between
      · rfl

end BoundedSink

namespace JsonLines

/-- The bytes that are written for records. -/
def output (records : List Record) : ByteArray := (String.join (records.map line)).toUTF8

theorem output_cons (record : Record) (rest : List Record) :
    output (record :: rest) = (line record).toUTF8 ++ output rest := toUTF8_join_cons _ _

theorem size_output_cons (record : Record) (rest : List Record) :
    (output (record :: rest)).size = (line record).toUTF8.size + (output rest).size := by
  rw [output_cons, ByteArray.size_append]

theorem formatter_eq (sink : BoundedSink) (record : Record) :
    formatter sink record =
      ((sink.write (line record).toUTF8).1,
        (sink.write (line record).toUTF8).2.map FormatFault.write) := by
  rw [formatter, BoundedSink.writePieces_eq_write]
  rfl

end JsonLines

open JsonLines (output output_cons size_output_cons)

/-- Two extractions that differ at most in their sinks. -/
structure SameCourse (x y : Extraction BoundedSink) : Prop where
  result : x.result = y.result
  cache : x.cache = y.cache
  events : x.events = y.events
  reports : x.reports = y.reports

theorem SameCourse.after {x y : Extraction BoundedSink} (h : SameCourse x y) (events : List Event)
    (reports : List Report) : SameCourse (x.after events reports) (y.after events reports) :=
  ⟨h.result, h.cache, congrArg (events ++ ·) h.events, congrArg (reports ++ ·) h.reports⟩

/-- How rows are extracted into a sink with little room, beside their extraction into one that takes
everything, when there is too little room. -/
structure CutShort (room : Nat) (run : RowFeed → Extraction BoundedSink) (feed : RowFeed)
    (whole : Extraction BoundedSink) : Prop where
  result : (run feed).result = .error (.format (.write "sink is full"))
  /-- What is announced, written and reported is so in the other extraction as well. -/
  events : (run feed).events <+: whole.events
  reports : (run feed).reports <+: whole.reports
  /-- The lines that there is room for are those of the rows before the failing one. -/
  complete : ∀ index, (output (whole.written.take (index + 1))).size ≤ room ↔
    index < (run feed).written.length
  /-- No row after the failing one matters, nor does whether fetching it fails. -/
  later : ∀ rows failure,
    run ⟨feed.rows.take ((run feed).written.length + 1) ++ rows, failure⟩ = run feed

/-- How rows are extracted into a sink that has room for some bytes after those it took, beside
their extraction into one that takes everything. -/
structure Cut (taken : ByteArray) (room : Nat) (run : RowFeed → Extraction BoundedSink)
    (feed : RowFeed) (whole : Extraction BoundedSink) : Prop where
  wholeTaken : whole.target.taken = taken ++ output whole.written
  cutTaken : (run feed).target.taken = taken ++ (output whole.written).extract 0 room
  course : ((output whole.written).size ≤ room ∧ SameCourse (run feed) whole) ∨
    (room < (output whole.written).size ∧ CutShort room run feed whole)

section Steps

variable {taken : ByteArray} {room : Nat} {run run' : RowFeed → Extraction BoundedSink}
  {feed : RowFeed} {failure : Option String} {row : Row} {rest : List Row} {record : Record}
  {announce : Bool} {reports : List Report} {whole : Extraction BoundedSink}

theorem Cut.of_nothing (hwhole : whole.target.taken = taken) (hnone : whole.written = [])
    (hcut : (run feed).target.taken = taken) (hsame : SameCourse (run feed) whole) :
    Cut taken room run feed whole := by
  have houtput : output whole.written = .empty := by
    rw [hnone]
    rfl
  constructor
  · rw [houtput, ByteArray.append_empty, hwhole]
  · rw [houtput, extract_of_size_le (Nat.zero_le room), ByteArray.append_empty, hcut]
  · refine .inl ⟨?_, hsame⟩
    rw [houtput]
    exact Nat.zero_le room

theorem Cut.cons (hroom : (JsonLines.line record).toUTF8.size ≤ room)
    (hrun : ∀ rows failure, run ⟨row :: rows, failure⟩ =
      (run' ⟨rows, failure⟩).after (announcement announce record ++ [.wrote record]) reports)
    (h : Cut (taken ++ (JsonLines.line record).toUTF8)
      (room - (JsonLines.line record).toUTF8.size) run' ⟨rest, failure⟩ whole) :
    Cut taken room run ⟨row :: rest, failure⟩
      (whole.after (announcement announce record ++ [.wrote record]) reports) := by
  constructor
  · rw [Extraction.written_after, output_cons, ← ByteArray.append_assoc]
    exact h.wholeTaken
  · rw [Extraction.written_after, hrun, output_cons, extract_append_of_le hroom,
      ← ByteArray.append_assoc]
    exact h.cutTaken
  · rw [Extraction.written_after, size_output_cons]
    rcases h.course with ⟨hsize, hsame⟩ | ⟨hsize, hcut⟩
    · refine .inl ⟨by omega, ?_⟩
      rw [hrun]
      exact hsame.after _ _
    · refine .inr ⟨by omega, ?_⟩
      have hwritten : (run ⟨row :: rest, failure⟩).written =
          record :: (run' ⟨rest, failure⟩).written := by
        rw [hrun, Extraction.written_after]
      constructor
      · rw [hrun]
        exact hcut.result
      · rw [hrun]
        exact (List.prefix_append_right_inj _).2 hcut.events
      · rw [hrun]
        exact (List.prefix_append_right_inj _).2 hcut.reports
      · intro index
        rw [hwritten, Extraction.written_after, List.take_succ_cons, size_output_cons,
          List.length_cons]
        cases index with
        | zero =>
            have hempty : (output (whole.written.take 0)).size = 0 := rfl
            omega
        | succ index =>
            have hindex := hcut.complete index
            omega
      · intro rows failure'
        rw [hwritten, List.length_cons, List.take_succ_cons, List.cons_append, hrun, hrun,
          hcut.later rows failure']

theorem Cut.of_refused (hroom : room < (JsonLines.line record).toUTF8.size)
    (hwhole : whole.target.taken =
      taken ++ (JsonLines.line record).toUTF8 ++ output whole.written)
    {refused : Extraction BoundedSink} (hrun : ∀ rows failure, run ⟨row :: rows, failure⟩ = refused)
    (hresult : refused.result = .error (.format (.write "sink is full")))
    (hevents : refused.events = announcement announce record) (hreports : refused.reports = reports)
    (htaken : refused.target.taken =
      taken ++ (JsonLines.line record).toUTF8.extract 0 room) :
    Cut taken room run ⟨row :: rest, failure⟩
      (whole.after (announcement announce record ++ [.wrote record]) reports) := by
  have hwritten : refused.written = [] := by
    rw [Extraction.written, hevents, filterMap_written?_announcement]
  constructor
  · rw [Extraction.written_after, output_cons, ← ByteArray.append_assoc]
    exact hwhole
  · rw [Extraction.written_after, hrun, output_cons, extract_append_of_lt hroom, htaken]
  · rw [Extraction.written_after, size_output_cons]
    refine .inr ⟨by omega, ?_⟩
    constructor
    · rw [hrun, hresult]
    · rw [hrun, hevents, Extraction.after, List.append_assoc]
      exact List.prefix_append _ _
    · rw [hrun, hreports]
      exact List.prefix_append _ _
    · intro index
      rw [hrun, hwritten, Extraction.written_after, List.take_succ_cons, size_output_cons,
        List.length_nil]
      omega
    · intro rows failure'
      rw [hrun, hwritten]
      exact hrun rows failure'

end Steps

/-- The extractions of rows into a sink with little room and into one that takes everything go side
by side, until there is no room for a line. -/
theorem extractRows_cut (request : Request BoundedSink)
    (hlines : request.formatter = JsonLines.formatter) (flushFails : Bool)
    (failure : Option String) (written : Nat) (taken : ByteArray) (room : Nat) (cache : OwnerCache)
    (rows : List Row) :
    Cut taken room
      (fun feed =>
        extractRows request feed.failure written ⟨taken, some room, flushFails⟩ cache feed.rows)
      ⟨rows, failure⟩
      (extractRows request failure written ⟨taken, none, flushFails⟩ cache rows) := by
  induction rows generalizing written taken room cache with
  | nil =>
      cases failure with
      | none => exact .of_nothing rfl rfl rfl ⟨rfl, rfl, rfl, rfl⟩
      | some cause => exact .of_nothing rfl rfl rfl ⟨rfl, rfl, rfl, rfl⟩
  | cons row rest ih =>
      cases hdecode : request.decode cache.get? row with
      | error fault =>
          apply Cut.of_nothing
          · rw [extractRows_cons_of_error hdecode]
          · rw [extractRows_cons_of_error hdecode]
            rfl
          · simp only [extractRows_cons_of_error hdecode]
          · simp only [extractRows_cons_of_error hdecode]
            exact ⟨rfl, rfl, rfl, rfl⟩
      | ok record =>
          have hwhole : request.formatter ⟨taken, none, flushFails⟩ record =
              (⟨taken ++ (JsonLines.line record).toUTF8, none, flushFails⟩, none) := by
            rw [hlines, JsonLines.formatter_eq]
            rfl
          rw [extractRows_cons_of_taken hdecode hwhole]
          by_cases hroom : (JsonLines.line record).toUTF8.size ≤ room
          · have hcut : request.formatter ⟨taken, some room, flushFails⟩ record =
                (⟨taken ++ (JsonLines.line record).toUTF8,
                  some (room - (JsonLines.line record).toUTF8.size), flushFails⟩, none) := by
              rw [hlines, JsonLines.formatter_eq, BoundedSink.write_of_le hroom]
              rfl
            refine Cut.cons hroom ?_ (ih _ _ _ _)
            intro rows failure'
            exact extractRows_cons_of_taken hdecode hcut
          · have hroom := Nat.not_le.1 hroom
            have hcut : request.formatter ⟨taken, some room, flushFails⟩ record =
                (⟨taken ++ (JsonLines.line record).toUTF8.extract 0 room, some 0, flushFails⟩,
                  some (.write "sink is full")) := by
              rw [hlines, JsonLines.formatter_eq, BoundedSink.write_of_lt hroom]
              rfl
            exact Cut.of_refused hroom (ih _ _ 0 _).wholeTaken
              (fun rows failure' => extractRows_cons_of_refused hdecode hcut) rfl rfl rfl rfl

/-- A sink with room for a number of bytes takes just as many of those that an unbounded one would
take. If they are all, then the extraction takes the same course; otherwise it ends with the fault
of the sink at the first row whose line does not fit, and what comes after that row does not
matter. -/
theorem extract_cut (kind : RecordKind) (options : Options) (announce : Bool) (feed : RowFeed)
    (cache : OwnerCache) (flushFails : Bool) (room : Nat) :
    let request : Request BoundedSink :=
      { kind, options, announce, formatter := JsonLines.formatter }
    let whole := extract request feed { flushFails } cache
    let run := fun feed => extract request feed { room := some room, flushFails } cache
    let bytes := whole.target.taken
    bytes = output whole.written ∧ (run feed).target.taken = bytes.extract 0 room ∧
      ((bytes.size ≤ room ∧ SameCourse (run feed) whole) ∨
        (room < bytes.size ∧ CutShort room run feed whole)) := by
  intro request whole run bytes
  obtain ⟨hwhole, hcut, hcourse⟩ := extractRows_cut request rfl flushFails feed.failure 0
    .empty room cache feed.rows
  rw [ByteArray.empty_append] at hwhole hcut
  have hbytes : bytes = output whole.written := hwhole
  refine ⟨hbytes, ?_, ?_⟩
  · rw [hbytes]
    exact hcut
  · rw [hbytes]
    exact hcourse

end Rollup
