import Mathlib
import Rollup.Proofs.Extract.Accepting
import Rollup.Proofs.Output.Lines
import Rollup.Proofs.Store.Queries
import Rollup.Run.Program

namespace Rollup

theorem RecordKind.changesetColumn_eq (kind : RecordKind) :
    kind.changesetColumn = if kind = .changeset then "id" else "changeset_id" := by
  cases kind with
  | element kind => rfl
  | changeset => rfl

namespace Config

variable {config : Config} {clock : Instant} {sink : BoundedSink} {content : Store.Content}

theorem load_of_distinct_eq_error {fault : Store.QueryFault}
    (h : content.distinct config.kind.changesetColumn config.table = .error fault) :
    config.load content = .error (.query config.table fault) := by
  rw [load, h]
  rfl

theorem load_of_distinct_eq_ok {changesets : List Int}
    (h : content.distinct config.kind.changesetColumn config.table = .ok changesets) :
    config.load content =
      match Owners.load content changesets, content.rows config.table with
      | .error fault, _ => .error (.owners fault)
      | .ok _, .error fault => .error (.query config.table fault)
      | .ok cache, .ok rows => .ok (cache, rows) := by
  rw [load, h]
  cases howners : Owners.load content changesets with
  | error fault => simp only [howners, bind, Except.bind, mapError_ok, mapError_error]
  | ok cache =>
      cases content.rows config.table with
      | error fault => simp only [howners, bind, Except.bind, mapError_ok, mapError_error]
      | ok rows => simp only [howners, bind, Except.bind, mapError_ok]

theorem run_of_load_eq_error {fault : RunFault} (h : config.load content = .error fault) :
    config.run content clock sink = { result := .error fault, sink } := by
  rw [run, h]

theorem run_of_load_eq_ok {cache : OwnerCache} {rows : List Row}
    (h : config.load content = .ok (cache, rows)) :
    config.run content clock sink =
      config.conclude (extract (config.request clock) { rows } { sink } cache) := by
  rw [run, h]

theorem conclude_of_isUnbounded (config : Config) {extraction : Extraction BufferedSink}
    (hsink : extraction.target.sink.IsUnbounded) :
    (config.conclude extraction).result = extraction.result.mapError .extract ∧
      (config.conclude extraction).sink.taken = extraction.target.content := by
  rw [conclude]
  cases extraction.result with
  | error fault => exact ⟨rfl, BufferedSink.taken_close hsink⟩
  | ok written =>
      obtain ⟨flushed, hflush, hflushed⟩ := BufferedSink.flush_of_isUnbounded hsink
      have hfinish : JsonLines.finish extraction.target = (flushed, none) := by
        simp [JsonLines.finish, Sink.flush, hflush]
      rw [hfinish]
      refine ⟨rfl, ?_⟩
      rw [BufferedSink.taken_close hflushed, BufferedSink.content_flush hflush]

/-- What is loaded being given, the rows alone decide how a run ends and what it writes. -/
theorem run_output_of_load_eq_ok {cache : OwnerCache} {rows : List Row} (hsink : sink.IsUnbounded)
    (h : config.load content = .ok (cache, rows)) :
    ∃ written result,
      RowsEnd (decodeRow (config.options clock) config.kind cache.get?) rows written result ∧
        (config.run content clock sink).result = result.mapError .extract ∧
        (config.run content clock sink).sink.taken =
          sink.taken ++ JsonLines.output written := by
  have hsound : BufferedSink.lossless.IsSound { sink } := hsink
  obtain ⟨hend, htarget⟩ := extract_of_taken (config.request clock) rows { sink } cache
    (BufferedSink.lossless.refusal?_eq_none hsound)
  rw [run_of_load_eq_ok h]
  generalize extract (config.request clock) { rows } { sink } cache = extraction at *
  obtain ⟨hunbounded, hcontent⟩ := BufferedSink.lossless.stateAfter hsound extraction.written
  change extraction.target = Formatter.stateAfter JsonLines.formatter _ _ at htarget
  rw [← htarget] at hunbounded hcontent
  obtain ⟨hresult, htaken⟩ := conclude_of_isUnbounded config hunbounded
  refine ⟨extraction.written, extraction.result, hend, hresult, ?_⟩
  have hempty : BufferedSink.content { sink } = sink.taken := ByteArray.append_empty
  rw [htaken, ← hempty]
  exact hcontent

end Config

/-- A run fails before its first record, with nothing written, if the database cannot be opened or
the changesets, the owners or the rows cannot be loaded. The changesets cannot be if the column that
names them holds anything but numbers, in whichever row. Otherwise the rows before the first one
that does not decode are written, each as a whole line that tells all that is written of its record,
and if all decode then all are. -/
theorem runTable_output (surroundings : Surroundings Id) (config : Config) (sink : BoundedSink)
    (hsink : sink.IsUnbounded) :
    let run := surroundings.runTable config sink
    let column := if config.kind = .changeset then "id" else "changeset_id"
    let options : Options :=
      { scale := config.scale, withDiscussions := config.includeDiscussions
        now := config.asOf.getD surroundings.clock }
    let failed := fun fault => run = { result := .error fault, sink }
    match (Store.openDatabase surroundings.files config.database).run with
    | .error fault => failed (.openDatabase config.database fault)
    | .ok content =>
      ((∃ cell, content.HasCell config.table column cell ∧ cell.IsNoNumber) →
        ∃ fault, failed (.query config.table fault)) ∧
      match content.distinct column config.table with
      | .error fault => failed (.query config.table fault)
      | .ok changesets =>
        match Owners.load content changesets, content.rows config.table with
        | .error fault, _ => failed (.owners fault)
        | .ok _, .error fault => failed (.query config.table fault)
        | .ok cache, .ok rows =>
          ∃ written result bytes,
            RowsEnd (decodeRow options config.kind cache.get?) rows written result ∧
            run.result = result.mapError .extract ∧
            run.sink.taken = sink.taken ++ bytes ∧
            JsonLines.splitLines bytes = written.map JsonLines.objectBytes ++ [.empty] ∧
            ∀ record ∈ written,
              JsonLines.readLine? (JsonLines.objectBytes record) = some (.ofRecord record) := by
  intro run column options failed
  have hcolumn : column = config.kind.changesetColumn := config.kind.changesetColumn_eq.symm
  clear_value column
  subst hcolumn
  cases hopen : (Store.openDatabase surroundings.files config.database).run with
  | error fault => simp only [failed, run, Surroundings.runTable, bind, hopen, pure]
  | ok content =>
      have hrun : run = config.run content surroundings.clock sink := by
        simp only [run, Surroundings.runTable, bind, hopen, pure]
      have hfailed : ∀ {fault}, config.load content = .error fault → failed fault :=
        fun hload => hrun.trans (Config.run_of_load_eq_error hload)
      constructor
      · rintro ⟨cell, hcell, hnumber⟩
        obtain ⟨fault, hdistinct⟩ := Store.Content.distinct_of_isNoNumber hcell hnumber
        exact ⟨fault, hfailed (Config.load_of_distinct_eq_error hdistinct)⟩
      · cases hdistinct : content.distinct config.kind.changesetColumn config.table with
        | error fault => exact hfailed (Config.load_of_distinct_eq_error hdistinct)
        | ok changesets =>
            have hload := Config.load_of_distinct_eq_ok hdistinct
            cases howners : Owners.load content changesets with
            | error fault =>
                rw [howners] at hload
                simp only [howners]
                exact hfailed hload
            | ok cache =>
                cases hrows : content.rows config.table with
                | error fault =>
                    rw [howners, hrows] at hload
                    simp only [howners]
                    exact hfailed hload
                | ok rows =>
                    rw [howners, hrows] at hload
                    simp only [howners]
                    rw [hrun]
                    obtain ⟨written, result, hend, hresult, htaken⟩ :=
                      Config.run_output_of_load_eq_ok hsink hload
                    exact ⟨written, result, _, hend, hresult, htaken,
                      JsonLines.splitLines_output written,
                      fun record _ => JsonLines.readLine?_objectBytes record⟩

/-- Two ways of which the second has no timestamp. The line of the first stays. -/
theorem runTable_output_two_ways :
    let ways : Store.Table :=
      ⟨["id", "version", "timestamp", "changeset_id", "visible", "tag_k", "tag_v", "node_ids"],
        [[.integer 1, .integer 1, .text "2024-01-01T00:00:00Z".toUTF8, .integer 7, .integer 1,
            .null, .null, .null],
          [.integer 2, .integer 1, .null, .integer 7, .integer 1, .null, .null, .null]]⟩
    let owners : Store.Table :=
      ⟨["changeset_id", "user_id", "display_name", "data_public"],
        [[.integer 7, .integer 3, .text "carol".toUTF8, .integer 1]]⟩
    let tables := [("ways_rollup", ways), ("changeset_owners", owners)]
    let surroundings : Surroundings Id :=
      { files := FileTree.system [(["map"], .file (.database ⟨tables⟩))] []
        clock := (⟨0, 0⟩ : Instant) }
    let config : Config :=
      { database := "map", kind := .element .way, table := "ways_rollup", scale := .standard
        includeDiscussions := false, asOf := none, verbosity := .off }
    let way : Record :=
      .element ⟨1, 1, "2024-01-01T00:00:00Z", 7, true, some 3, some "carol"⟩ (.way []) []
    let run := surroundings.runTable config {}
    BoundedSink.IsUnbounded {} ∧
      run.result = .error (.extract (.row (.unexpectedNull "timestamp"))) ∧
      JsonLines.splitLines run.sink.taken = [JsonLines.objectBytes way, .empty] ∧
      (JsonLines.ofRecord way).render = "\x7b\"type\":\"way\",\"id\":1,\"version\":1," ++
        "\"timestamp\":\"2024-01-01T00:00:00Z\",\"changeset\":7,\"visible\":true," ++
        "\"uid\":3,\"display_name\":\"carol\",\"nodes\":[],\"tags\":\x7b\x7d\x7d" := by
  intro ways owners tables surroundings config way run
  have hsink : BoundedSink.IsUnbounded {} := ⟨rfl, rfl⟩
  have hfile : ∀ first rest,
      (Store.openDatabase
        (FileTree.system [(["map"], .file (.database ⟨first :: rest⟩))] []) "map").run =
      (.ok (.database ⟨first :: rest⟩) : Except Store.OpenFault Store.Content) := by
    intro first rest
    cbv
  have hopen : (Store.openDatabase surroundings.files config.database).run =
      (.ok (.database ⟨tables⟩) : Except Store.OpenFault Store.Content) := hfile _ _
  have hcolumn : (if config.kind = .changeset then "id" else "changeset_id") =
      "changeset_id" := rfl
  have hdistinct : (Store.Content.database ⟨tables⟩).distinct "changeset_id" config.table =
      .ok [7] := by
    cbv
  have howners : Owners.load (.database ⟨tables⟩) [7] =
      .ok (.ofList [(7, ⟨⟨3, "carol"⟩, true⟩)]) := by
    cbv
  have hrows : (Store.Content.database ⟨tables⟩).rows config.table = .ok ways.toRows := by
    cbv
  have hend : RowsEnd
      (decodeRow (config.options surroundings.clock) config.kind
        (OwnerCache.ofList [(7, ⟨⟨3, "carol"⟩, true⟩)]).get?)
      ways.toRows [way] (.error (.row (.unexpectedNull "timestamp"))) := by
    have hrows : ways.toRows = ways.toRows.take 1 ++ ways.toRows[1] :: [] := rfl
    refine .stopped hrows ?_ ?_
    · cbv
    · cbv
  have hrun := runTable_output surroundings config {} hsink
  simp only [hopen, hcolumn, hdistinct, howners, hrows] at hrun
  obtain ⟨-, written, result, bytes, hwritten, hresult, htaken, hlines, -⟩ := hrun
  obtain ⟨rfl, rfl⟩ := hwritten.unique hend
  refine ⟨hsink, hresult, ?_, by decide +kernel⟩
  rw [htaken, ByteArray.empty_append, hlines]
  rfl

end Rollup
