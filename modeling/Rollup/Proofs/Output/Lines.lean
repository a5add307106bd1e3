import Rollup.Proofs.Output.Cut
import Rollup.Proofs.Output.Lossless
import Rollup.Proofs.Output.Reading
import Rollup.Proofs.Text.Bytes

/-!
The lines of an output. No object holds a newline, so the objects are found again between the
newlines, and each of them tells all that is written of its record.
-/

namespace Rollup.JsonLines

/-- The bytes of a record's object, which are its line without the end. -/
def objectBytes (record : Record) : ByteArray := (ofRecord record).render.toUTF8

theorem line_eq (record : Record) : line record = (ofRecord record).render ++ "\n" := by
  rw [line, linePieces, String.join_append]
  rfl

theorem toList_toUTF8_line (record : Record) :
    (line record).toUTF8.data.toList = (objectBytes record).data.toList ++ [newline] := by
  rw [line_eq, objectBytes, Text.toList_toUTF8, Text.toList_toUTF8, String.toList_append,
    List.flatMap_append]
  rfl

theorem newline_notMem_objectBytes (record : Record) :
    newline ∉ (objectBytes record).data.toList := by
  intro h
  have hchar : '\n' ∈ (ofRecord record).render.toList := (Text.mem_toUTF8_iff rfl).1 h
  exact Json.newline_notMem_render (ofRecord record) hchar

theorem toList_output_cons (record : Record) (rest : List Record) :
    (output (record :: rest)).data.toList =
      (objectBytes record).data.toList ++ newline :: (output rest).data.toList := by
  rw [output_cons, ByteArray.toList_data_append, toList_toUTF8_line, List.append_assoc]
  rfl

theorem count_newline_output (records : List Record) :
    (output records).data.toList.count newline = records.length := by
  induction records with
  | nil => rfl
  | cons record rest ih =>
      rw [toList_output_cons, List.count_append, List.count_cons_self, ih,
        List.count_eq_zero_of_not_mem (newline_notMem_objectBytes record), List.length_cons,
        Nat.zero_add]

theorem toByteArray_objectBytes (record : Record) :
    (objectBytes record).data.toList.toByteArray = objectBytes record :=
  ByteArray.ext (by rw [List.data_toByteArray, Array.toArray_toList])

theorem splitLines_output (records : List Record) :
    splitLines (output records) = records.map objectBytes ++ [.empty] := by
  induction records with
  | nil => rfl
  | cons record rest ih =>
      rw [splitLines] at ih ⊢
      rw [toList_output_cons,
        List.splitOn_append_cons_self_of_not_mem (newline_notMem_objectBytes record),
        List.map_cons, ih, toByteArray_objectBytes]
      rfl

theorem dropLast_splitOn_isPrefix {read rest : List UInt8} {records : List Record}
    (h : read ++ rest = (output records).data.toList) :
    ((read.splitOn newline).map List.toByteArray).dropLast <+: records.map objectBytes := by
  induction records generalizing read with
  | nil =>
      obtain ⟨rfl, -⟩ := List.append_eq_nil_iff.1 h
      exact List.nil_prefix
  | cons record others ih =>
      rw [toList_output_cons] at h
      rcases List.append_eq_append_iff.1 h with ⟨between, hobject, -⟩ | ⟨between, rfl, hothers⟩
      · have hread : newline ∉ read := by
          intro hmem
          apply newline_notMem_objectBytes record
          rw [hobject]
          exact List.mem_append_left _ hmem
        rw [List.splitOn_eq_singleton hread]
        exact List.nil_prefix
      · cases between with
        | nil =>
            rw [List.append_nil, List.splitOn_eq_singleton (newline_notMem_objectBytes record)]
            exact List.nil_prefix
        | cons byte read =>
            obtain ⟨rfl, hlater⟩ := List.cons.inj hothers
            have hmore : (read.splitOn newline).map List.toByteArray ≠ [] :=
              mt List.map_eq_nil_iff.1 (List.splitOn_ne_nil _ _)
            rw [List.splitOn_append_cons_self_of_not_mem (newline_notMem_objectBytes record),
              List.map_cons, toByteArray_objectBytes, List.dropLast_cons_of_ne_nil hmore,
              List.map_cons, List.cons_prefix_cons]
            exact ⟨rfl, ih hlater.symm⟩

/-- The complete lines in a beginning of an output are those of the first records. -/
theorem dropLast_splitLines_isPrefix {bytes : ByteArray} {records : List Record}
    (h : IsBeginning bytes (output records)) :
    (splitLines bytes).dropLast <+: records.map objectBytes := by
  obtain ⟨rest, hrest⟩ := h
  have hlist : bytes.data.toList ++ rest.data.toList = (output records).data.toList := by
    rw [← hrest, ByteArray.toList_data_append]
  exact dropLast_splitOn_isPrefix hlist

theorem readLine?_objectBytes (record : Record) :
    readLine? (objectBytes record) = some (.ofRecord record) := by
  have htext : String.fromUTF8? (objectBytes record) = some (ofRecord record).render :=
    Text.fromUTF8?_eq_some.2 rfl
  simp [readLine?, htext, Json.read?_render, ofJson?_ofRecord]

theorem eq_of_ofRecord_eq {record other : Record}
    (hrecord : record.kind = .element .way ∨ record.kind = .element .relation)
    (h : Reading.ofRecord record = Reading.ofRecord other) : record = other := by
  cases record with
  | changeset head tags withDiscussion comments now => simp [Record.kind] at hrecord
  | element head body tags =>
      cases other with
      | changeset head' tags' withDiscussion comments now => cases h
      | element head' body' tags' =>
          obtain ⟨rfl, hbody, rfl⟩ := Reading.element.inj h
          cases body with
          | node location => simp [Record.kind, Body.kind] at hrecord
          | way nodes =>
              cases body' with
              | way nodes' =>
                  cases hbody
                  rfl
              | node location => cases hbody
              | relation members => cases hbody
          | relation members =>
              cases body' with
              | relation members' =>
                  cases hbody
                  rfl
              | node location => cases hbody
              | way nodes => cases hbody

theorem eq_of_map_ofRecord_eq {records others : List Record}
    (hrecords : ∀ record ∈ records,
      record.kind = .element .way ∨ record.kind = .element .relation)
    (h : records.map Reading.ofRecord = others.map Reading.ofRecord) : records = others := by
  induction records generalizing others with
  | nil => exact (List.map_eq_nil_iff.1 h.symm).symm
  | cons record rest ih =>
      obtain ⟨hrecord, hrest⟩ := List.forall_mem_cons.1 hrecords
      cases others with
      | nil => cases h
      | cons other others =>
          obtain ⟨hhead, htail⟩ := List.cons.inj h
          rw [eq_of_ofRecord_eq hrecord hhead, ih hrest htail]

theorem map_ofRecord_eq_of_output_eq {records others : List Record}
    (h : output records = output others) :
    records.map Reading.ofRecord = others.map Reading.ofRecord := by
  have hlines : records.map objectBytes = others.map objectBytes := by
    have hsplit := congrArg splitLines h
    rw [splitLines_output, splitLines_output] at hsplit
    exact List.append_cancel_right hsplit
  have hread : readLine? ∘ objectBytes = some ∘ Reading.ofRecord := funext readLine?_objectBytes
  have hreadings := congrArg (List.map readLine?) hlines
  rw [List.map_map, List.map_map, hread, ← List.map_map, ← List.map_map] at hreadings
  exact (List.map_inj_right fun _ _ => Option.some.inj).1 hreadings

/-- Records written to a sink that never fails stand each on a line of its own, which tells all that
is written of the record. So no other records leave the same behind as ways and relations do. -/
theorem lines_read_back {σ : Type} [Sink σ] (lossless : Lossless σ) {sink : σ}
    (h : lossless.IsSound sink) (records : List Record) :
    let after := Formatter.stateAfter formatter sink
    (∀ before record, Formatter.refusal? formatter sink before record = none) ∧
      lossless.content (after records) = lossless.content sink ++ output records ∧
      (output records).data.toList.count newline = records.length ∧
      splitLines (output records) = records.map objectBytes ++ [.empty] ∧
      (∀ record, readLine? (objectBytes record) = some (.ofRecord record)) ∧
      ∀ others, (∀ record ∈ records,
          record.kind = .element .way ∨ record.kind = .element .relation) →
        lossless.content (after records) = lossless.content (after others) →
          records = others := by
  intro after
  have hcontent : ∀ records, lossless.content (after records) =
      lossless.content sink ++ output records := fun records => (lossless.stateAfter h records).2
  refine ⟨lossless.refusal?_eq_none h, hcontent records, count_newline_output records,
    splitLines_output records, readLine?_objectBytes, ?_⟩
  intro others hrecords hsame
  rw [hcontent, hcontent] at hsame
  have houtput := ByteArray.append_right_inj _ |>.1 hsame
  exact eq_of_map_ofRecord_eq hrecords (map_ofRecord_eq_of_output_eq houtput)

theorem lines_read_back_relation :
    let relation : Record := .element ⟨7, 1, "a\nb", -2, true, none, some "\"\\\x01"⟩
      (.relation [⟨.way, 3, ""⟩]) [("k", "1"), ("k", "2")]
    BoundedSink.lossless.IsSound {} ∧
      (Formatter.stateAfter formatter ({} : BoundedSink) [relation]).taken = output [relation] ∧
      splitLines (output [relation]) = [objectBytes relation, .empty] ∧
      readLine? (objectBytes relation) = some (.ofRecord relation) ∧
      (ofRecord relation).render = "\x7b\"type\":\"relation\",\"id\":7,\"version\":1," ++
        "\"timestamp\":\"a\\nb\",\"changeset\":-2,\"visible\":true," ++
        "\"display_name\":\"\\\"\\\\\\u0001\"," ++
        "\"members\":[\x7b\"type\":\"way\",\"ref\":3,\"role\":\"\"\x7d]," ++
        "\"tags\":\x7b\"k\":\"1\",\"k\":\"2\"\x7d\x7d" := by
  intro relation
  have hsound : BoundedSink.lossless.IsSound {} := ⟨rfl, rfl⟩
  obtain ⟨-, hcontent, -, hlines, hread, -⟩ :=
    lines_read_back BoundedSink.lossless hsound [relation]
  exact ⟨hsound, hcontent.trans ByteArray.empty_append, hlines, hread relation, by decide +kernel⟩

end Rollup.JsonLines
