import Rollup.Output.JsonLines
import Rollup.Proofs.Extract.Streaming

/-!
What sinks make of what is written to them. Nothing gets lost, doubled or out of order before a
write fails, be it in the sink itself or in a buffer before it, and the write that fails is cut off
somewhere.
-/

namespace Rollup

/-- Bytes that a whole begins with. -/
def IsBeginning (bytes whole : ByteArray) : Prop := ∃ rest, bytes ++ rest = whole

namespace IsBeginning

variable {a b c : ByteArray}

theorem refl (a : ByteArray) : IsBeginning a a := ⟨.empty, ByteArray.append_empty⟩

theorem append (a b : ByteArray) : IsBeginning a (a ++ b) := ⟨b, rfl⟩

theorem trans (hab : IsBeginning a b) (hbc : IsBeginning b c) : IsBeginning a c := by
  obtain ⟨between, rfl⟩ := hab
  obtain ⟨rest, rfl⟩ := hbc
  exact ⟨between ++ rest, ByteArray.append_assoc.symm⟩

end IsBeginning

/-- What a write makes of the bytes written before it: all of its own come after them, or as many
as were taken before it failed. -/
structure Wrote {α : Type} (cause? : Option α) (before bytes after : ByteArray) : Prop where
  beginning : IsBeginning after (before ++ bytes)
  whole : cause? = none → after = before ++ bytes

namespace Wrote

variable {α β : Type} {cause? : Option α} {before between after bytes more : ByteArray}

theorem nothing : Wrote (none : Option α) before .empty before :=
  ⟨.append _ _, fun _ => ByteArray.append_empty.symm⟩

theorem of_whole (h : after = before ++ bytes) : Wrote cause? before bytes after :=
  ⟨h ▸ .refl _, fun _ => h⟩

theorem trans (h : Wrote (none : Option β) before bytes between)
    (hmore : Wrote cause? between more after) : Wrote cause? before (bytes ++ more) after := by
  obtain rfl := h.whole rfl
  constructor
  · rw [← ByteArray.append_assoc]
    exact hmore.beginning
  · intro hcause
    rw [hmore.whole hcause, ByteArray.append_assoc]

theorem cut {cause : α} (h : Wrote (some cause) before bytes after) (more : ByteArray) :
    Wrote (some cause) before (bytes ++ more) after := by
  refine ⟨?_, nofun⟩
  rw [← ByteArray.append_assoc]
  exact h.beginning.trans (.append _ more)

theorem map (h : Wrote cause? before bytes after) (f : α → β) :
    Wrote (cause?.map f) before bytes after :=
  ⟨h.beginning, fun hcause => h.whole (Option.map_eq_none_iff.1 hcause)⟩

end Wrote

theorem toUTF8_join_cons (first : String) (rest : List String) :
    (String.join (first :: rest)).toUTF8 = first.toUTF8 ++ (String.join rest).toUTF8 := by
  rw [String.join_cons]
  simp only [String.toUTF8_eq_toByteArray, String.toByteArray_append]

/-- All that has been written to sinks of a kind. -/
structure Tally (σ : Type) [Sink σ] where
  content : σ → ByteArray
  write : ∀ {sink sink' : σ} {bytes : ByteArray} {cause? : Option String},
    Sink.write sink bytes = (sink', cause?) →
      Wrote cause? (content sink) bytes (content sink')

namespace Tally

variable {σ : Type} [Sink σ] (tally : Tally σ) {sink sink' : σ}

theorem writePieces {pieces : List String} {cause? : Option String}
    (h : JsonLines.writePieces sink pieces = (sink', cause?)) :
    Wrote cause? (tally.content sink) (String.join pieces).toUTF8 (tally.content sink') := by
  induction pieces generalizing sink with
  | nil =>
      cases h
      exact .nothing
  | cons piece rest ih =>
      rw [toUTF8_join_cons]
      rw [JsonLines.writePieces] at h
      rcases hpiece : Sink.write sink piece.toUTF8 with ⟨between, _ | cause⟩
      · rw [hpiece] at h
        exact (tally.write hpiece).trans (ih h)
      · rw [hpiece] at h
        cases h
        exact (tally.write hpiece).cut _

theorem formatter {record : Record} {fault? : Option FormatFault}
    (h : JsonLines.formatter sink record = (sink', fault?)) :
    Wrote fault? (tally.content sink) (JsonLines.line record).toUTF8 (tally.content sink') := by
  rcases hpieces : JsonLines.writePieces sink (JsonLines.linePieces record) with ⟨written, cause?⟩
  rw [JsonLines.formatter, hpieces] at h
  cases h
  exact (tally.writePieces hpieces).map _

/-- All that an extraction writes is the beginning of the lines of records that its rows decode
into. -/
theorem isBeginning_extractRows (request : Request σ)
    (hlines : request.formatter = JsonLines.formatter) (failure : Option String) (written : Nat)
    (target : σ) (cache : OwnerCache) (rows : List Row) :
    ∃ records : List Record, IsBeginning
        (tally.content (extractRows request failure written target cache rows).target)
        (tally.content target ++ (String.join (records.map JsonLines.line)).toUTF8) ∧
      ∀ record ∈ records, ∃ row ∈ rows, request.decode cache.get? row = .ok record := by
  induction rows generalizing written target cache with
  | nil =>
      refine ⟨[], ?_, by simp⟩
      cases failure <;> exact .append _ _
  | cons row rest ih =>
      cases hdecode : request.decode cache.get? row with
      | error fault =>
          rw [extractRows_cons_of_error hdecode]
          exact ⟨[], .append _ _, by simp⟩
      | ok record =>
          rcases htaken : request.formatter target record with ⟨target', _ | fault⟩
          · rw [extractRows_cons_of_taken hdecode htaken]
            obtain ⟨records, hbeginning, hrecords⟩ := ih (written + 1) target'
              (attributeRow request.options request.kind row cache).cache
            rw [get?_attributeRow] at hrecords
            rw [hlines] at htaken
            refine ⟨record :: records, ?_, ?_⟩
            · rw [(tally.formatter htaken).whole rfl, ByteArray.append_assoc] at hbeginning
              rw [List.map_cons, toUTF8_join_cons]
              exact hbeginning
            · rintro other hother
              rcases List.mem_cons.1 hother with rfl | hrest
              · exact ⟨row, List.mem_cons_self, hdecode⟩
              · obtain ⟨source, hsource, hdecoded⟩ := hrecords other hrest
                exact ⟨source, List.mem_cons_of_mem row hsource, hdecoded⟩
          · -- Part of the line may have been written when the formatter refused the record.
            rw [extractRows_cons_of_refused hdecode htaken]
            rw [hlines] at htaken
            refine ⟨[record], ?_, by simpa using .inl hdecode⟩
            rw [List.map_singleton, toUTF8_join_cons, String.join_nil]
            exact ((tally.formatter htaken).cut _).beginning

theorem content_of_extractRows_eq_ok (request : Request σ)
    (hlines : request.formatter = JsonLines.formatter) {failure : Option String}
    {written count : Nat} {target : σ} {cache : OwnerCache} {rows : List Row}
    (h : (extractRows request failure written target cache rows).result = .ok count) :
    let extraction := extractRows request failure written target cache rows
    tally.content extraction.target = tally.content target ++
      (String.join (extraction.written.map JsonLines.line)).toUTF8 := by
  induction rows generalizing written target cache with
  | nil =>
      cases failure with
      | none => exact ByteArray.append_empty.symm
      | some cause => cases h
  | cons row rest ih =>
      cases hdecode : request.decode cache.get? row with
      | error fault =>
          rw [extractRows_cons_of_error hdecode] at h
          cases h
      | ok record =>
          rcases htaken : request.formatter target record with ⟨target', _ | fault⟩
          · rw [extractRows_cons_of_taken hdecode htaken] at h ⊢
            rw [hlines] at htaken
            simp only [Extraction.written_after, List.map_cons, toUTF8_join_cons]
            rw [← ByteArray.append_assoc, ← (tally.formatter htaken).whole rfl]
            exact ih h
          · rw [extractRows_cons_of_refused hdecode htaken] at h
            cases h

end Tally

namespace BoundedSink

theorem exists_write {sink sink' : BoundedSink} {bytes : ByteArray} {cause? : Option String}
    (h : sink.write bytes = (sink', cause?)) :
    ∃ head tail, head ++ tail = bytes ∧ sink'.taken = sink.taken ++ head ∧
      (cause? = none → tail = .empty) := by
  rw [write] at h
  cases hroom : sink.room with
  | none =>
      simp only [hroom] at h
      cases h
      exact ⟨bytes, .empty, ByteArray.append_empty, rfl, fun _ => rfl⟩
  | some room =>
      simp only [hroom] at h
      cases h
      refine ⟨bytes.extract 0 room, bytes.extract room bytes.size, ?_, rfl, ?_⟩
      · rw [ByteArray.extract_append_extract, Nat.zero_min, ByteArray.extract_zero_max_size]
      · intro hcause
        rw [ByteArray.extract_eq_empty_iff]
        split at hcause
        · omega
        · cases hcause

theorem wrote_of_write {sink sink' : BoundedSink} {bytes : ByteArray} {cause? : Option String}
    (h : sink.write bytes = (sink', cause?)) : Wrote cause? sink.taken bytes sink'.taken := by
  obtain ⟨head, tail, rfl, htaken, htail⟩ := exists_write h
  rw [htaken]
  constructor
  · rw [← ByteArray.append_assoc]
    exact .append _ tail
  · intro hcause
    rw [htail hcause, ByteArray.append_empty]

/-- A sink holds what it has taken. -/
def tally : Tally BoundedSink where
  content := taken
  write := wrote_of_write

end BoundedSink

namespace BufferedSink

variable {buffered buffered' : BufferedSink} {bytes : ByteArray} {cause? : Option String}

/-- What the sink took, and then what is held back. -/
def content (buffered : BufferedSink) : ByteArray := buffered.sink.taken ++ buffered.held

theorem content_release (h : buffered.release = (buffered', cause?)) :
    buffered'.content = buffered.content ∧ (cause? = none → buffered'.held = .empty) := by
  rw [release] at h
  rcases hwrite : buffered.sink.write buffered.held with ⟨sink, cause'⟩
  obtain ⟨head, tail, hheld, htaken, htail⟩ := BoundedSink.exists_write hwrite
  have hrest : buffered.held.extract (sink.taken.size - buffered.sink.taken.size)
      buffered.held.size = tail := by
    rw [htaken, ByteArray.size_append, Nat.add_sub_cancel_left, ← hheld,
      ByteArray.extract_append_eq_right rfl ByteArray.size_append]
  simp only [hwrite, hrest] at h
  cases h
  refine ⟨?_, htail⟩
  rw [content, content, htaken, ByteArray.append_assoc, hheld]

theorem wrote_of_store (hheld : capacity ≤ bytes.size → buffered.held = .empty)
    (h : buffered.store bytes = (buffered', cause?)) :
    Wrote cause? buffered.content bytes buffered'.content := by
  rw [store] at h
  split at h
  · next hsize =>
      rcases hwrite : buffered.sink.write bytes with ⟨sink, cause'⟩
      rw [hwrite] at h
      cases h
      simp only [content, hheld hsize, ByteArray.append_empty]
      exact BoundedSink.wrote_of_write hwrite
  · cases h
    exact .of_whole ByteArray.append_assoc.symm

theorem wrote_of_write (h : buffered.write bytes = (buffered', cause?)) :
    Wrote cause? buffered.content bytes buffered'.content := by
  rw [write] at h
  split at h
  · next hfits =>
      refine wrote_of_store (fun hsize => ?_) h
      rw [← ByteArray.size_eq_zero_iff]
      omega
  · rcases hrelease : buffered.release with ⟨released, _ | cause'⟩
    · -- The buffer is empty by now, so bytes that go past it do not overtake any.
      obtain ⟨hcontent, hheld⟩ := content_release hrelease
      rw [hrelease] at h
      rw [← hcontent]
      exact wrote_of_store (fun _ => hheld rfl) h
    · rw [hrelease] at h
      cases h
      rw [(content_release hrelease).1]
      exact ⟨.append _ _, nofun⟩

/-- A buffered sink holds what the sink has taken and what the buffer holds back. -/
def tally : Tally BufferedSink where
  content := content
  write := wrote_of_write

theorem content_flush (h : buffered.flush = (buffered', cause?)) :
    buffered'.content = buffered.content := by
  rw [flush] at h
  rcases hrelease : buffered.release with ⟨released, _ | cause'⟩
  · rw [hrelease] at h
    cases h
    exact (content_release hrelease).1
  · rw [hrelease] at h
    cases h
    exact (content_release hrelease).1

theorem taken_close_of_flush (h : buffered.flush = (buffered', none)) :
    buffered'.close.taken = buffered.content := by
  have hheld : buffered'.held = .empty := by
    rw [flush] at h
    rcases hrelease : buffered.release with ⟨released, _ | cause⟩
    · rw [hrelease] at h
      have hflushed : { released with sink := released.sink.flush.1 } = buffered' :=
        congrArg Prod.fst h
      rw [← hflushed]
      exact (content_release hrelease).2 rfl
    · rw [hrelease] at h
      cases h
  rcases hwrite : buffered'.sink.write buffered'.held with ⟨sink, cause⟩
  obtain ⟨head, tail, hparts, htaken, -⟩ := BoundedSink.exists_write hwrite
  rw [hheld, ByteArray.append_eq_empty_iff] at hparts
  rw [← content_flush h, content, close, release, hwrite, hheld]
  exact htaken.trans (congrArg _ hparts.1)

theorem isBeginning_close (buffered : BufferedSink) :
    IsBeginning buffered.close.taken buffered.content := by
  rcases hrelease : buffered.release with ⟨released, cause⟩
  rw [close, hrelease, ← (content_release hrelease).1]
  exact .append _ _

end BufferedSink

end Rollup
