import Rollup.Proofs.Output.Tally

namespace Rollup

/-- What it means that sinks of a kind never fail from a sound state on. -/
structure Lossless (σ : Type) [Sink σ] extends Tally σ where
  IsSound : σ → Prop
  write_eq : ∀ {sink : σ}, IsSound sink → ∀ bytes,
    ∃ sink', Sink.write sink bytes = (sink', none) ∧ IsSound sink'

namespace BoundedSink

/-- The sink takes all bytes, and no flush of it fails. -/
structure IsUnbounded (sink : BoundedSink) : Prop where
  room : sink.room = none
  flushFails : sink.flushFails = false

theorem write_of_isUnbounded {sink : BoundedSink} (h : sink.IsUnbounded) (bytes : ByteArray) :
    ∃ sink', sink.write bytes = (sink', none) ∧ sink'.IsUnbounded := by
  rw [write, h.room]
  exact ⟨_, rfl, rfl, h.flushFails⟩

/-- A sink without a limit takes everything. -/
def lossless : Lossless BoundedSink where
  toTally := tally
  IsSound := IsUnbounded
  write_eq := write_of_isUnbounded

end BoundedSink

namespace BufferedSink

variable {buffered : BufferedSink}

theorem release_of_isUnbounded (h : buffered.sink.IsUnbounded) :
    ∃ buffered', buffered.release = (buffered', none) ∧ buffered'.sink.IsUnbounded := by
  obtain ⟨sink, hwrite, hsink⟩ := BoundedSink.write_of_isUnbounded h buffered.held
  rw [release, hwrite]
  exact ⟨_, rfl, hsink⟩

theorem store_of_isUnbounded (h : buffered.sink.IsUnbounded) (bytes : ByteArray) :
    ∃ buffered', buffered.store bytes = (buffered', none) ∧ buffered'.sink.IsUnbounded := by
  rw [store]
  split
  · obtain ⟨sink, hwrite, hsink⟩ := BoundedSink.write_of_isUnbounded h bytes
    rw [hwrite]
    exact ⟨_, rfl, hsink⟩
  · exact ⟨_, rfl, h⟩

theorem write_of_isUnbounded (h : buffered.sink.IsUnbounded) (bytes : ByteArray) :
    ∃ buffered', buffered.write bytes = (buffered', none) ∧ buffered'.sink.IsUnbounded := by
  rw [write]
  split
  · exact store_of_isUnbounded h bytes
  · obtain ⟨released, hrelease, hreleased⟩ := release_of_isUnbounded h
    rw [hrelease]
    exact store_of_isUnbounded hreleased bytes

def lossless : Lossless BufferedSink where
  toTally := tally
  IsSound buffered := buffered.sink.IsUnbounded
  write_eq := write_of_isUnbounded

theorem flush_of_isUnbounded (h : buffered.sink.IsUnbounded) :
    ∃ buffered', buffered.flush = (buffered', none) ∧ buffered'.sink.IsUnbounded := by
  obtain ⟨released, hrelease, hreleased⟩ := release_of_isUnbounded h
  refine ⟨released, ?_, hreleased⟩
  rw [flush, hrelease]
  simp [BoundedSink.flush, hreleased.flushFails]

theorem taken_close (h : buffered.sink.IsUnbounded) :
    buffered.close.taken = buffered.content := by
  obtain ⟨released, hrelease, -⟩ := release_of_isUnbounded h
  obtain ⟨hcontent, hheld⟩ := content_release hrelease
  rw [close, hrelease, ← hcontent, content, hheld rfl, ByteArray.append_empty]

end BufferedSink

namespace Lossless

variable {σ : Type} [Sink σ] (lossless : Lossless σ) {sink : σ}

theorem writePieces_eq (h : lossless.IsSound sink) (pieces : List String) :
    ∃ sink', JsonLines.writePieces sink pieces = (sink', none) ∧ lossless.IsSound sink' := by
  induction pieces generalizing sink with
  | nil => exact ⟨sink, rfl, h⟩
  | cons piece rest ih =>
      obtain ⟨between, hpiece, hbetween⟩ := lossless.write_eq h piece.toUTF8
      rw [JsonLines.writePieces, hpiece]
      exact ih hbetween

theorem formatter_eq (h : lossless.IsSound sink) (record : Record) :
    ∃ sink', JsonLines.formatter sink record = (sink', none) ∧ lossless.IsSound sink' := by
  obtain ⟨sink', hpieces, hsink'⟩ := lossless.writePieces_eq h (JsonLines.linePieces record)
  refine ⟨sink', ?_, hsink'⟩
  rw [JsonLines.formatter, hpieces]
  rfl

theorem stateAfter (h : lossless.IsSound sink) (records : List Record) :
    lossless.IsSound (Formatter.stateAfter JsonLines.formatter sink records) ∧
      lossless.content (Formatter.stateAfter JsonLines.formatter sink records) =
        lossless.content sink ++ (String.join (records.map JsonLines.line)).toUTF8 := by
  induction records generalizing sink with
  | nil => exact ⟨h, ByteArray.append_empty.symm⟩
  | cons record rest ih =>
      obtain ⟨sink', hrecord, hsink'⟩ := lossless.formatter_eq h record
      have hstep : Formatter.stateAfter JsonLines.formatter sink (record :: rest) =
          Formatter.stateAfter JsonLines.formatter sink' rest := by
        rw [Formatter.stateAfter, List.foldl_cons, hrecord]
        rfl
      obtain ⟨hsound, hcontent⟩ := ih hsink'
      rw [hstep]
      refine ⟨hsound, ?_⟩
      rw [hcontent, (lossless.formatter hrecord).whole rfl, ByteArray.append_assoc, List.map_cons,
        toUTF8_join_cons]

theorem refusal?_eq_none (h : lossless.IsSound sink) (before : List Record) (record : Record) :
    Formatter.refusal? JsonLines.formatter sink before record = none := by
  obtain ⟨sink', hrecord, -⟩ := lossless.formatter_eq (lossless.stateAfter h before).1 record
  rw [Formatter.refusal?, hrecord]

theorem content_extractRows {request : Request σ} (hlines : request.formatter = JsonLines.formatter)
    (failure : Option String) (written : Nat) (h : lossless.IsSound sink) (cache : OwnerCache)
    (rows : List Row) :
    let extraction := extractRows request failure written sink cache rows
    lossless.content extraction.target = lossless.content sink ++
      (String.join (extraction.written.map JsonLines.line)).toUTF8 := by
  induction rows generalizing written sink cache with
  | nil =>
      have hnothing : lossless.content sink =
          lossless.content sink ++ (String.join ([].map JsonLines.line)).toUTF8 :=
        ByteArray.append_empty.symm
      cases failure with
      | none => exact hnothing
      | some cause => exact hnothing
  | cons row rest ih =>
      cases hdecode : request.decode cache.get? row with
      | error fault =>
          rw [extractRows_cons_of_error hdecode]
          exact ByteArray.append_empty.symm
      | ok record =>
          obtain ⟨sink', hrecord, hsink'⟩ := lossless.formatter_eq h record
          have htaken : request.formatter sink record = (sink', none) := hlines ▸ hrecord
          have hrest := ih (written + 1) hsink'
            (attributeRow request.options request.kind row cache).cache
          rw [extractRows_cons_of_taken hdecode htaken]
          simp only [Extraction.written_after, List.map_cons, toUTF8_join_cons]
          rw [← ByteArray.append_assoc, ← (lossless.formatter hrecord).whole rfl]
          exact hrest

end Lossless

end Rollup
