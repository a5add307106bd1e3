import Mathlib
import Rollup.Proofs.ArrayLiteral.Scan
import Rollup.Proofs.Extract.Recovery
import Rollup.Proofs.Extract.SideBySide
import Rollup.Proofs.Output.Discussion
import Rollup.Proofs.Output.Lossless

namespace Rollup

/-- The rectangle that four stored bounds make, if there are any. -/
def Scale.box? (scale : Scale) (bounds? : Option (Int × Int × Int × Int)) : Option BoundingBox :=
  bounds?.map fun (minLon, minLat, maxLon, maxLat) =>
    scale.boundingBox minLon minLat maxLon maxLat

/-- What is read from one element under two scales: only a node's place depends on the scale, and
that comes from the same stored coordinates. -/
inductive Body.SameBut (a b : Scale) : Body → Body → Prop where
  | node (lon lat : Int) : SameBut a b (.node (a.location lon lat)) (.node (b.location lon lat))
  | way (nodes : List Nat) : SameBut a b (.way nodes) (.way nodes)
  | relation (members : List Member) : SameBut a b (.relation members) (.relation members)

/-- The same record under two options. -/
inductive Record.SameBut (a b : Options) : Record → Record → Prop where
  | element (shared : Element) {body other : Body} (hbody : Body.SameBut a.scale b.scale body other)
    (tags : Tags) : SameBut a b (.element shared body tags) (.element shared other tags)
  | changeset (shared : Changeset) (bounds? : Option (Int × Int × Int × Int)) (tags : Tags)
    (comments : List Comment) :
    SameBut a b
      (.changeset { shared with boundingBox? := a.scale.box? bounds? } tags a.withDiscussions
        comments a.now)
      (.changeset { shared with boundingBox? := b.scale.box? bounds? } tags b.withDiscussions
        comments b.now)

theorem Record.SameBut.element?_eq {a b : Options} {record other : Record}
    (h : Record.SameBut a b record other) : record.element? = other.element? := by
  cases h with
  | element shared hbody tags => rw [Record.element?, Record.element?]
  | changeset shared bounds? tags comments => rw [Record.element?, Record.element?]

theorem Body.read_sameBut (a b : Scale) (row : Row) (kind : ElementKind) :
    SameOutcome (Body.SameBut a b) (Body.read a row kind) (Body.read b row kind) := by
  cases kind with
  | node =>
      rw [Body.read, Body.read]
      apply SameOutcome.bind_left
      intro lon
      apply SameOutcome.bind_left
      intro lat
      exact .ok (.node lon lat)
  | way =>
      rw [Body.read, Body.read]
      apply SameOutcome.bind_left
      intro nodes
      exact .ok (.way nodes)
  | relation =>
      rw [Body.read, Body.read]
      apply SameOutcome.bind_left
      intro members
      exact .ok (.relation members)

theorem BoundingBox.ofBounds_sameBut (a b : Scale) (changeset : Int) (bounds : List (Option Int)) :
    SameOutcome (fun box? other? => ∃ bounds?, box? = a.box? bounds? ∧ other? = b.box? bounds?)
      (BoundingBox.ofBounds a changeset bounds) (BoundingBox.ofBounds b changeset bounds) := by
  unfold BoundingBox.ofBounds
  split
  · next minLon minLat maxLon maxLat =>
      exact .ok ⟨some (minLon, minLat, maxLon, maxLat), rfl, rfl⟩
  · split
    · exact .ok ⟨none, rfl, rfl⟩
    · exact .error _

theorem BoundingBox.read_sameBut (a b : Scale) (changeset : Int) (row : Row) :
    SameOutcome (fun box? other? => ∃ bounds?, box? = a.box? bounds? ∧ other? = b.box? bounds?)
      (BoundingBox.read a changeset row) (BoundingBox.read b changeset row) := by
  rw [BoundingBox.read, BoundingBox.read]
  apply SameOutcome.bind_left
  intro bounds
  exact BoundingBox.ofBounds_sameBut a b changeset bounds

theorem Draft.read_sameBut (a b : Options) (kind : RecordKind) (row : Row) :
    SameOutcome (Draft.Alike (Record.SameBut a b)) (Draft.read a kind row)
      (Draft.read b kind row) := by
  cases kind with
  | element kind =>
      rw [Draft.read, Draft.read, draftElement, draftElement]
      apply SameOutcome.bind_left
      intro head
      refine .ok ⟨rfl, ?_⟩
      intro uid? displayName?
      apply SameOutcome.bind_left
      intro tags
      apply (Body.read_sameBut a.scale b.scale row kind).bind
      intro body other hbody
      exact .ok (.element _ hbody tags)
  | changeset =>
      rw [Draft.read, Draft.read, draftChangeset, draftChangeset]
      apply SameOutcome.bind_left
      intro id
      apply SameOutcome.bind_left
      intro createdAt
      apply SameOutcome.bind_left
      intro closedAt
      apply SameOutcome.bind_left
      intro numChanges
      apply (BoundingBox.read_sameBut a.scale b.scale id row).bind
      rintro _ _ ⟨bounds?, rfl, rfl⟩
      apply SameOutcome.bind_left
      intro tags
      apply SameOutcome.bind_left
      intro comments
      refine .ok ⟨rfl, ?_⟩
      intro uid? displayName?
      exact .ok (.changeset ⟨id, createdAt, closedAt, uid?, displayName?, none, numChanges,
        comments.length⟩ bounds? tags comments)

/-- Recorders that hold the same records under two options and take as many more. -/
structure Recorder.SameBut (a b : Options) (recorder other : Recorder) : Prop where
  taken : List.Forall₂ (Record.SameBut a b) recorder.taken other.taken
  limit : recorder.limit = other.limit

theorem Recorder.SameBut.isFull_eq {a b : Options} {recorder other : Recorder}
    (h : Recorder.SameBut a b recorder other) : recorder.isFull = other.isFull := by
  rw [Recorder.isFull, Recorder.isFull, h.limit, h.taken.length_eq]

theorem Recorder.inStep (kind : RecordKind) (a b : Options) (announceA announceB : Bool) :
    InStep (Record.SameBut a b) (Recorder.SameBut a b)
      { kind, options := a, announce := announceA, formatter := Recorder.take }
      { kind, options := b, announce := announceB, formatter := Recorder.take } := by
  constructor
  · rfl
  · exact Draft.read_sameBut a b kind
  · exact Record.SameBut.element?_eq
  · intro recorder other record record' hrecorder _
    simp only [Recorder.take, hrecorder.isFull_eq]
    split <;> rfl
  · intro recorder other record record' hrecorder hrecord
    simp only [Recorder.take, hrecorder.isFull_eq]
    split
    · exact hrecorder
    · exact ⟨.cons hrecord hrecorder.taken, hrecorder.limit⟩

theorem Lossless.inStep {σ : Type} [Sink σ] (lossless : Lossless σ) (kind : RecordKind)
    (a b : Options) (announce : Bool) :
    InStep (Record.SameBut a b) (fun s t => lossless.IsSound s ∧ lossless.IsSound t)
      { kind, options := a, announce, formatter := JsonLines.formatter }
      { kind, options := b, announce, formatter := JsonLines.formatter } := by
  constructor
  · rfl
  · exact Draft.read_sameBut a b kind
  · exact Record.SameBut.element?_eq
  · rintro s t record other ⟨hs, ht⟩ _
    obtain ⟨s', hrecord, -⟩ := lossless.formatter_eq hs record
    obtain ⟨t', hother, -⟩ := lossless.formatter_eq ht other
    simp only [hrecord, hother]
  · rintro s t record other ⟨hs, ht⟩ _
    obtain ⟨s', hrecord, hs'⟩ := lossless.formatter_eq hs record
    obtain ⟨t', hother, ht'⟩ := lossless.formatter_eq ht other
    simp only [hrecord, hother]
    exact ⟨hs', ht'⟩

/-- An array column holds a text that is no array. -/
def Row.HasMalformed (row : Row) (columns : List String) : Prop :=
  ∃ column ∈ columns, ∃ literal fault, row column = .ok (.text literal) ∧
    ArrayLiteral.items literal .keep = .error fault

theorem Parallel.exists_read_eq_error {n : Nat} {row : Row} {columns : Vector String n}
    (h : row.HasMalformed columns.toList) :
    ∃ fault, Parallel.read row columns = .error fault := by
  obtain ⟨column, hcolumn, literal, fault, hrow, hitems⟩ := h
  obtain ⟨i, hi, rfl⟩ := Vector.getElem_of_mem (Vector.mem_toList_iff.1 hcolumn)
  cases hread : Parallel.read row columns with
  | error fault => exact ⟨fault, rfl⟩
  | ok positions =>
      obtain ⟨texts, lists, length, htexts, hlists, -, -⟩ := exists_lists_of_read_eq_ok hread
      obtain ⟨literal?, hliteral, htext⟩ := htexts i hi
      have hvalue : literal? = some literal := by
        rw [Row.text, hrow] at hliteral
        exact (Except.ok.inj hliteral).symm
      have hlist := hlists i hi
      rw [htext, hvalue, Option.getD_some, Parallel.elements, hitems] at hlist
      cases hlist

theorem decodeRow_of_malformed_comments {options : Options} {ownerOf? : Int → Option Owner}
    {row : Row} (h : row.HasMalformed Comment.columns.toList) :
    ∃ fault, decodeRow options .changeset ownerOf? row = .error fault := by
  cases hdecode : decodeRow options .changeset ownerOf? row with
  | error fault => exact ⟨fault, rfl⟩
  | ok record =>
      obtain ⟨draft, hread, -⟩ := bind_eq_ok.1 hdecode
      obtain ⟨id, -, hread⟩ := bind_eq_ok.1 hread
      obtain ⟨createdAt, -, hread⟩ := bind_eq_ok.1 hread
      obtain ⟨closedAt, -, hread⟩ := bind_eq_ok.1 hread
      obtain ⟨numChanges, -, hread⟩ := bind_eq_ok.1 hread
      obtain ⟨boundingBox?, -, hread⟩ := bind_eq_ok.1 hread
      obtain ⟨tags, -, hread⟩ := bind_eq_ok.1 hread
      obtain ⟨comments, hcomments, -⟩ := bind_eq_ok.1 hread
      obtain ⟨positions, hpositions, -⟩ := bind_eq_ok.1 hcomments
      obtain ⟨fault, hfault⟩ := Parallel.exists_read_eq_error h
      rw [hpositions] at hfault
      cases hfault

theorem exists_extract_eq_error {σ : Type} {request : Request σ} {feed : RowFeed} {target : σ}
    {cache : OwnerCache} {row : Row} {fault : ExtractFault} (hrow : row ∈ feed.rows)
    (hfault : request.decode cache.get? row = .error fault) :
    ∃ fault', (extract request feed target cache).result = .error fault' := by
  cases hresult : (extract request feed target cache).result with
  | error fault' => exact ⟨fault', rfl⟩
  | ok count =>
      exact absurd hfault (RowsEnd.ne_error_of_mem (decodes_of_extract_eq_ok hresult).2 hrow fault)

theorem JsonLines.discussed_of_sameBut {options : Options} {record other : Record}
    (h : Record.SameBut { options with withDiscussions := false }
      { options with withDiscussions := true } record other) : Discussed record other := by
  cases h with
  | element shared hbody tags =>
      cases hbody with
      | node lon lat => exact .element shared _ tags
      | way nodes => exact .element shared _ tags
      | relation members => exact .element shared _ tags
  | changeset shared bounds? tags comments => exact discussed _ tags comments options.now

/-- Options have an effect on nothing but what they are for. Under any two of them, announcements
wanted or not, extractions of the same rows end alike, leave the same cache and reports, announce
the same elements, and record the same but for coordinates, the wish for discussions and the
instant. A changeset with a malformed array of comments ends an extraction though discussions be
unwanted.
Where lines are written and nothing fails, a changeset's discussion is put into its line before the
last brace, and no line is different otherwise. -/
theorem extract_options (kind : RecordKind) (a b : Options) (announceA announceB : Bool)
    (feed : RowFeed) (cache : OwnerCache) :
    (∀ limit : Option Nat,
      let x := extract
        { kind, options := a, announce := announceA, formatter := Recorder.take }
        feed { limit } cache
      let y := extract
        { kind, options := b, announce := announceB, formatter := Recorder.take }
        feed { limit } cache
      x.result = y.result ∧
        List.Forall₂ (Record.SameBut a b) x.target.records y.target.records ∧
        x.reports = y.reports ∧ x.cache = y.cache ∧
        ∃ elements, x.announced = (if announceA then elements else []) ∧
          y.announced = if announceB then elements else []) ∧
    (kind = .changeset →
      (∃ row ∈ feed.rows, row.HasMalformed Comment.columns.toList) → ∀ limit : Option Nat,
        ∃ fault, (extract { kind, options := a, announce := announceA, formatter := Recorder.take }
          feed { limit } cache).result = .error fault) ∧
    ∀ (σ : Type) [Sink σ] (lossless : Lossless σ) (sink : σ), lossless.IsSound sink →
      let run (withDiscussions : Bool) := extract
        { kind, options := { a with withDiscussions }, announce := announceA
          formatter := JsonLines.formatter } feed sink cache
      (∀ withDiscussions, lossless.content (run withDiscussions).target = lossless.content sink ++
        (String.join ((run withDiscussions).written.map JsonLines.line)).toUTF8) ∧
        (run false).result = (run true).result ∧
        List.Forall₂ JsonLines.Discussed (run false).written (run true).written := by
  refine ⟨?_, ?_, ?_⟩
  · intro limit x y
    have hstart : Recorder.SameBut a b { limit } { limit } := ⟨.nil, rfl⟩
    have hside := (Recorder.inStep kind a b announceA announceB).extractRows feed.failure
      feed.rows 0 hstart cache
    exact ⟨hside.result, List.rel_reverse hside.target.taken, hside.reports, hside.cache,
      hside.announced⟩
  · rintro rfl ⟨row, hrow, hmalformed⟩ limit
    obtain ⟨fault, hfault⟩ := decodeRow_of_malformed_comments hmalformed
    exact exists_extract_eq_error hrow hfault
  · intro σ _ lossless sink hsink run
    have hside := (lossless.inStep kind { a with withDiscussions := false }
      { a with withDiscussions := true } announceA).extractRows feed.failure feed.rows 0
      ⟨hsink, hsink⟩ cache
    refine ⟨?_, hside.result, hside.written.imp fun _ _ => JsonLines.discussed_of_sameBut⟩
    intro withDiscussions
    exact lossless.content_extractRows rfl feed.failure 0 hsink cache feed.rows

/-- A changeset with a comment that never ends fails a run without discussions; and the line of one
with a comment is the same with and without, the comment apart. -/
theorem extract_options_comments :
    let commented := MemoryRow.ofList
      [("id", .integer 4), ("created_at", .text "2024-01-01T00:00:00Z"),
        ("closed_at", .text "2024-01-01T01:00:00Z"), ("min_lon", .null), ("min_lat", .null),
        ("max_lon", .null), ("max_lat", .null), ("num_changes", .integer 0),
        ("tag_k", .text "\x7b\x7d"), ("tag_v", .text "\x7b\x7d"), ("comment_id", .text "\x7b5\x7d"),
        ("comment_author_id", .text "\x7b3\x7d"),
        ("comment_display_name", .text "\x7b\"carol\"\x7d"),
        ("comment_body", .text "\x7b\"hi\"\x7d"),
        ("comment_created_at", .text "\x7b\"2024-01-01T00:30:00Z\"\x7d")]
    let broken := commented.setText "comment_body" "\x7b\""
    let comment : Comment := ⟨5, 3, "hi", "2024-01-01T00:30:00Z", "carol"⟩
    let run (withDiscussions : Bool) (rows : List MemoryRow) := extract
      { kind := .changeset, options := { withDiscussions }, formatter := JsonLines.formatter }
      { rows := rows.map MemoryRow.toRow } ({} : BoundedSink) .empty
    (∃ fault, (extract
        { kind := .changeset, options := {}, formatter := Recorder.take }
        { rows := [commented.toRow, broken.toRow] } {} .empty).result = .error fault) ∧
      List.Forall₂ JsonLines.Discussed (run false [commented, broken]).written
        (run true [commented, broken]).written ∧
      (run true [commented, broken]).written =
        [.changeset ⟨4, "2024-01-01T00:00:00Z", "2024-01-01T01:00:00Z", none, none, none, 0, 1⟩ []
          true [comment] ⟨0, 0⟩] ∧
      JsonLines.discussionText [comment] = ",\"discussion\":[\x7b\"id\":5,\"author_id\":3," ++
        "\"body\":\"hi\",\"created_at\":\"2024-01-01T00:30:00Z\"," ++
        "\"author_display_name\":\"carol\"\x7d]" := by
  intro commented broken comment run
  have hbroken : broken.toRow.HasMalformed Comment.columns.toList := by
    refine ⟨"comment_body", by simp [Comment.columns], "\x7b\"", .unterminatedQuote 1, ?_, ?_⟩
    · cbv
    · rw [ArrayLiteral.items_eq_mapM]
      cbv
  let contents : Contents :=
    .changeset ⟨4, "2024-01-01T00:00:00Z", "2024-01-01T01:00:00Z", 0, none⟩ [comment] []
  have hcommented : contents.IsIn commented.toRow := by
    refine ⟨⟨rfl, rfl, rfl, rfl, rfl⟩, ⟨?_, ?_⟩, ⟨?_, ?_, ?_, ?_, ?_⟩⟩ <;> cbv
  obtain ⟨-, hmalformed, hlines⟩ := extract_options .changeset {} { withDiscussions := true } false
    false { rows := [commented.toRow, broken.toRow] } .empty
  refine ⟨hmalformed rfl ⟨broken.toRow, by simp, hbroken⟩ none, ?_, ?_, by decide +kernel⟩
  · exact (hlines BoundedSink BoundedSink.lossless {} ⟨rfl, rfl⟩).2.2
  · let request : Request BoundedSink :=
      { kind := .changeset, options := { withDiscussions := true }
        formatter := JsonLines.formatter }
    have hdecode : request.decode OwnerCache.empty.get? commented.toRow =
        .ok (contents.record request.options .unresolved) :=
      decodeRow_of_isIn hcommented
        (by simp [contents, Contents.childIds, comment, IsId, UInt64.size])
    obtain ⟨fault, hfault⟩ : ∃ fault,
        request.decode OwnerCache.empty.get? broken.toRow = .error fault :=
      decodeRow_of_malformed_comments hbroken
    have hstopped : RowsEnd (request.decode OwnerCache.empty.get?)
        [commented.toRow, broken.toRow] [contents.record request.options .unresolved]
        (.error fault) := by
      refine .stopped (List.singleton_append ..).symm ?_ hfault
      rw [List.map_singleton, hdecode, List.map_singleton]
    obtain ⟨hend, -⟩ := extract_of_taken request [commented.toRow, broken.toRow] {} .empty
      (BoundedSink.lossless.refusal?_eq_none ⟨rfl, rfl⟩)
    exact (hend.unique hstopped).1

end Rollup
