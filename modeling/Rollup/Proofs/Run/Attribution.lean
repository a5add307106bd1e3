import Mathlib
import Rollup.Proofs.Owners.Loading
import Rollup.Proofs.Run.Changesets
import Rollup.Proofs.Run.Output

/-!
Whom a run names. The owners are asked for by the changesets of the whole table before any row is
extracted, so what a line says of its user, and what is said of changesets without an owner, follows
from the rows of owners alone.
-/

namespace Rollup

/-- The changeset that a line is about or belongs to, and what it tells of the user behind it. -/
def JsonLines.Reading.credit : Reading → Credit
  | .element head _ _ => ⟨head.changeset, head.uid?, head.displayName?⟩
  | .changeset head _ => ⟨head.id, head.uid?, head.displayName?⟩

theorem JsonLines.Reading.credit_ofRecord (record : Record) :
    (Reading.ofRecord record).credit = record.credit := by
  cases record with
  | element head body tags => rfl
  | changeset head tags withDiscussion comments now => rfl

/-- Whether this user is named, by number and name, or nobody. -/
structure Credit.Names (credit : Credit) (author? : Option Author) : Prop where
  uid : credit.uid? = author?.map Author.uid
  displayName : credit.displayName? = author?.map Author.displayName

theorem Credit.names_of_decodeRow {options : Options} {kind : RecordKind}
    {ownerOf? : Int → Option Owner} {row : Row} {record : Record}
    (h : decodeRow options kind ownerOf? row = .ok record) :
    record.credit.Names ((ownerOf? record.credit.changeset).bind Owner.disclosed?) := by
  obtain ⟨huid, hname⟩ := decodeRow_credit h
  rw [Attribution.uid?_ofOwner?] at huid
  rw [Attribution.displayName?_ofOwner?] at hname
  exact ⟨huid, hname⟩

namespace Config

variable {config : Config} {content : Store.Content} {cache : OwnerCache} {rows : List Row}

theorem exists_of_load_eq_ok (h : config.load content = .ok (cache, rows)) :
    ∃ changesets table,
      content.distinct config.kind.changesetColumn config.table = .ok changesets ∧
        Owners.load content changesets = .ok cache ∧ content.Has config.table table ∧
        rows = table.toRows := by
  obtain ⟨changesets, hchangesets, h⟩ := bind_eq_ok.1 h
  obtain ⟨loaded, hloaded, h⟩ := bind_eq_ok.1 h
  obtain ⟨found, hfound, h⟩ := bind_eq_ok.1 h
  cases h
  obtain ⟨table, htable, hrows⟩ := bind_eq_ok.1 (mapError_eq_ok.1 hfound)
  cases hrows
  exact ⟨changesets, table, mapError_eq_ok.1 hchangesets, mapError_eq_ok.1 hloaded,
    Store.Content.has_of_table_eq_ok htable, rfl⟩

theorem exists_load_eq_ok
    (h : Owners.Loadable content config.table config.kind.changesetColumn) :
    ∃ loaded, config.load content = .ok loaded := by
  obtain ⟨table, index, htable, hindex, hcells⟩ := h.changesets
  obtain ⟨owners, howners, hcolumns, hrows⟩ := h.owners
  obtain ⟨changesets, hchangesets⟩ : ∃ changesets,
      content.distinct config.kind.changesetColumn config.table = .ok changesets := by
    rw [Store.Content.distinct_eq htable hindex]
    exact Store.distinctIntegers_of_integers hcells
  obtain ⟨cache, hcache⟩ := Owners.exists_load_eq_ok howners hcolumns fun id hid =>
    hrows id ((Store.Content.mem_distinct hchangesets id).1 hid)
  have hfound : content.rows config.table = .ok table.toRows :=
    bind_eq_ok.2 ⟨table, htable _, rfl⟩
  refine ⟨(cache, table.toRows), ?_⟩
  rw [load_of_distinct_eq_ok hchangesets, hcache, hfound]

theorem known_of_load_eq_ok (h : config.load content = .ok (cache, rows)) {id : Int}
    (hid : content.HasCell config.table config.kind.changesetColumn (.integer id)) :
    (cache.get? id = none ↔ ¬Owners.IsListed content id) ∧
      ∀ author, (cache.get? id).bind Owner.disclosed? = some author ↔
        Owners.Discloses content id author := by
  obtain ⟨changesets, table, hchangesets, hcache, -, -⟩ := exists_of_load_eq_ok h
  rw [← Store.Content.mem_distinct hchangesets] at hid
  have hknown := (Owners.known_of_load_eq_ok hcache id).1
  exact ⟨hknown.eq_none_iff hid, hknown.disclosed?_eq_some_iff hid⟩

/-- The owner of a row's changeset was asked for, so the row's record names the owner that is given
last for that changeset if it is a public one, and nobody otherwise. -/
theorem exists_names_of_decodeRow {options : Options} {row : Row} {record : Record}
    (h : config.load content = .ok (cache, rows)) (hrow : row ∈ rows)
    (hdecode : decodeRow options config.kind cache.get? row = .ok record) :
    ∃ author?, record.credit.Names author? ∧
      ∀ author, author? = some author ↔
        Owners.Discloses content record.credit.changeset author := by
  refine ⟨_, Credit.names_of_decodeRow hdecode, ?_⟩
  obtain ⟨changesets, table, -, -, htable, rfl⟩ := exists_of_load_eq_ok h
  obtain ⟨draft, hdraft, hfinish⟩ := bind_eq_ok.1 hdecode
  rw [Draft.credit_finish hdraft hfinish]
  exact (known_of_load_eq_ok h (hasCell_of_read htable hrow hdraft)).2

theorem mem_warned_iff {options : Options} (h : config.load content = .ok (cache, rows))
    (hread : ∀ row ∈ rows, ∃ draft, Draft.read options config.kind row = .ok draft) (id : Int) :
    id ∈ cache.warned (rows.filterMap (lookUp? options config.kind)) ↔
      content.HasCell config.table config.kind.changesetColumn (.integer id) ∧
        ¬Owners.IsListed content id := by
  obtain ⟨changesets, table, -, howners, htable, rfl⟩ := exists_of_load_eq_ok h
  rw [OwnerCache.mem_warned, mem_lookUps_iff htable hread]
  constructor
  · rintro ⟨hcell, hnone, -⟩
    exact ⟨hcell, (known_of_load_eq_ok h hcell).1.1 hnone⟩
  · rintro ⟨hcell, hlisted⟩
    exact ⟨hcell, (known_of_load_eq_ok h hcell).1.2 hlisted,
      (Owners.known_of_load_eq_ok howners id).2⟩

theorem isBeginning_conclude (config : Config) (extraction : Extraction BufferedSink) :
    IsBeginning (config.conclude extraction).sink.taken extraction.target.content := by
  rw [conclude]
  cases extraction.result with
  | error fault => exact extraction.target.isBeginning_close
  | ok written =>
      rcases hflush : extraction.target.flush with ⟨flushed, cause⟩
      have hfinish : JsonLines.finish extraction.target = (flushed, cause.map .write) := by
        simp [JsonLines.finish, Sink.flush, hflush]
      rw [hfinish, ← BufferedSink.content_flush hflush]
      cases cause <;> exact flushed.isBeginning_close

theorem isBeginning_run (h : config.load content = .ok (cache, rows)) (clock : Instant)
    (sink : BoundedSink) :
    ∃ records : List Record, IsBeginning (config.run content clock sink).sink.taken
        (sink.taken ++ JsonLines.output records) ∧
      ∀ record ∈ records, ∃ row ∈ rows,
        decodeRow (config.options clock) config.kind cache.get? row = .ok record := by
  obtain ⟨records, hbeginning, hrecords⟩ := BufferedSink.tally.isBeginning_extractRows
    (config.request clock) rfl none 0 { sink } cache rows
  refine ⟨records, ?_, hrecords⟩
  have hempty : BufferedSink.content { sink } = sink.taken := ByteArray.append_empty
  rw [run_of_load_eq_ok h, ← hempty]
  exact (isBeginning_conclude config _).trans hbeginning

theorem conclude_eq_ok {extraction : Extraction BufferedSink} {count : Nat}
    (h : (config.conclude extraction).result = .ok count) :
    extraction.result = .ok count ∧
      (config.conclude extraction).sink.taken = extraction.target.content ∧
      (config.conclude extraction).reports =
        extraction.reports ++ config.summary count extraction.cache := by
  rw [conclude] at h ⊢
  cases hresult : extraction.result with
  | error fault =>
      rw [hresult] at h
      cases h
  | ok written =>
      rw [hresult] at h
      dsimp only at h ⊢
      rcases hflush : extraction.target.flush with ⟨flushed, _ | cause⟩
      · have hfinish : JsonLines.finish extraction.target = (flushed, none) := by
          simp [JsonLines.finish, Sink.flush, hflush]
        rw [hfinish] at h ⊢
        cases h
        exact ⟨rfl, BufferedSink.taken_close_of_flush hflush, rfl⟩
      · have hfinish : JsonLines.finish extraction.target = (flushed, some (.write cause)) := by
          simp [JsonLines.finish, Sink.flush, hflush]
        rw [hfinish] at h
        cases h

theorem taken_of_run_eq_ok (h : config.load content = .ok (cache, rows)) {clock : Instant}
    {sink : BoundedSink} {count : Nat} (hrun : (config.run content clock sink).result = .ok count) :
    ∃ records : List Record, records.length = count ∧
      (config.run content clock sink).sink.taken = sink.taken ++ JsonLines.output records := by
  rw [run_of_load_eq_ok h] at hrun ⊢
  obtain ⟨hresult, htaken, -⟩ := conclude_eq_ok hrun
  obtain ⟨hcount, hdecodes⟩ := decodes_of_extract_eq_ok hresult
  have hcontent :=
    BufferedSink.tally.content_of_extractRows_eq_ok (config.request clock) rfl hresult
  have hempty : BufferedSink.content { sink } = sink.taken := ByteArray.append_empty
  have hlength := congrArg List.length hdecodes
  rw [List.length_map, List.length_map] at hlength
  refine ⟨_, hlength.symm.trans hcount.symm, ?_⟩
  rw [htaken, ← hempty]
  exact hcontent

theorem filterMap_summary (config : Config) (count : Nat) (cache : OwnerCache) :
    (config.summary count cache).filterMap Report.missedId? = [] ∧
      (config.summary count cache).filterMap Report.unresolvedCount? =
        if cache.unresolved.length = 0 then []
        else [(config.table, cache.unresolved.length)] := by
  by_cases hcount : cache.unresolved.length = 0
  · simp [summary, hcount, Report.missedId?, Report.unresolvedCount?]
  · simp [summary, hcount, Report.missedId?, Report.unresolvedCount?]

theorem warned_run {clock : Instant} {sink : BoundedSink} {count : Nat}
    (h : config.load content = .ok (cache, rows))
    (hrun : (config.run content clock sink).result = .ok count) :
    let ids := rows.filterMap (lookUp? (config.options clock) config.kind)
    let reports := (config.run content clock sink).reports
    (∀ row ∈ rows, ∃ draft, Draft.read (config.options clock) config.kind row = .ok draft) ∧
      reports.filterMap Report.missedId? = cache.warned ids ∧
      reports.filterMap Report.unresolvedCount? =
        if (cache.warned ids).length = 0 then []
        else [(config.table, (cache.warned ids).length)] := by
  intro ids reports
  obtain ⟨changesets, table, -, howners, -, -⟩ := exists_of_load_eq_ok h
  have hmissed : ∀ id, id ∉ cache.missed := fun id => (Owners.known_of_load_eq_ok howners id).2
  have hconclude : config.run content clock sink = _ := run_of_load_eq_ok h
  simp only [reports]
  rw [hconclude] at hrun ⊢
  obtain ⟨hresult, -, hreports⟩ := conclude_eq_ok hrun
  have hdecodes := (decodes_of_extract_eq_ok hresult).2
  obtain ⟨hmarks, hwarnings⟩ := extract_lookUps (config.request clock) { rows } { sink } cache
  generalize extract (config.request clock) { rows } { sink } cache = extraction at *
  have hlength : extraction.written.length = rows.length := by
    simpa using (congrArg List.length hdecodes).symm
  have hids : (config.request clock).lookUps rows (extraction.written.length + 1) = ids := by
    rw [Request.lookUps, List.take_of_length_le (by omega)]
    rfl
  rw [hids] at hmarks hwarnings
  rw [hresult] at hwarnings
  have hcount : extraction.cache.unresolved.length = (cache.warned ids).length := by
    rw [hmarks]
    exact (OwnerCache.perm_unresolved_rememberAll hmissed ids).length_eq
  obtain ⟨hsummary, hsummary'⟩ := config.filterMap_summary count extraction.cache
  rw [hreports, hwarnings]
  refine ⟨?_, ?_, ?_⟩
  · intro row hrow
    have hmem : (config.request clock).decode cache.get? row ∈ extraction.written.map .ok :=
      hdecodes ▸ List.mem_map_of_mem hrow
    obtain ⟨record, -, hrecord⟩ := List.mem_map.1 hmem
    obtain ⟨draft, hdraft, -⟩ := bind_eq_ok.1 hrecord.symm
    exact ⟨draft, hdraft⟩
  · rw [List.filterMap_append, List.filterMap_append, hsummary]
    simp [closing, Report.missedId?, OwnerCache.warned]
  · rw [List.filterMap_append, List.filterMap_append, hsummary', hcount,
      OwnerCache.filterMap_unresolvedCount?_warnings]
    simp [closing, Report.unresolvedCount?]

end Config

/-- A run is sure to load the owners of all changesets in the table if these are integers and the
rows for them say who their owners are. Each line that it writes then names a user just if the last
row of owners for the line's changeset names that user as a public one. If the run succeeds then it
has written a line for each record it counts, and it warns once of each changeset of the table for
which there is no row of owners, and of nothing else, and sums that up if there are any. -/
theorem run_attribution (config : Config) (content : Store.Content) (clock : Instant)
    (room : Option Nat) (flushFails : Bool) :
    let column := if config.kind = .changeset then "id" else "changeset_id"
    let run := config.run content clock { room, flushFails }
    let lines := (JsonLines.splitLines run.sink.taken).dropLast
    (Owners.Loadable content config.table column → ∃ loaded, config.load content = .ok loaded) ∧
    (∀ line ∈ lines, ∃ reading, JsonLines.readLine? line = some reading ∧
      ∃ author?, reading.credit.Names author? ∧
        ∀ author, author? = some author ↔
          Owners.Discloses content reading.credit.changeset author) ∧
    ∀ count, run.result = .ok count →
      let warned := run.reports.filterMap Report.missedId?
      lines.length = count ∧ warned.Nodup ∧
      (∀ id, id ∈ warned ↔
        content.HasCell config.table column (.integer id) ∧ ¬Owners.IsListed content id) ∧
      run.reports.filterMap Report.unresolvedCount? =
        if warned.length = 0 then [] else [(config.table, warned.length)] := by
  intro column run lines
  have hcolumn : column = config.kind.changesetColumn := config.kind.changesetColumn_eq.symm
  clear_value column
  subst hcolumn
  refine ⟨Config.exists_load_eq_ok, ?_, ?_⟩
  · intro line hline
    cases hload : config.load content with
    | error fault =>
        simp only [lines, run, Config.run_of_load_eq_error hload] at hline
        cases hline
    | ok loaded =>
        obtain ⟨records, hbeginning, hrecords⟩ :=
          Config.isBeginning_run hload clock { room, flushFails }
        rw [ByteArray.empty_append] at hbeginning
        obtain ⟨record, hrecord, rfl⟩ := List.mem_map.1
          ((JsonLines.dropLast_splitLines_isPrefix hbeginning).subset hline)
        obtain ⟨row, hrow, hdecode⟩ := hrecords record hrecord
        refine ⟨_, JsonLines.readLine?_objectBytes record, ?_⟩
        rw [JsonLines.Reading.credit_ofRecord]
        exact Config.exists_names_of_decodeRow hload hrow hdecode
  · intro count hrun warned
    cases hload : config.load content with
    | error fault =>
        simp only [run, Config.run_of_load_eq_error hload] at hrun
        cases hrun
    | ok loaded =>
        obtain ⟨hread, hwarned, hsummary⟩ := Config.warned_run hload hrun
        obtain ⟨records, hcount, htaken⟩ := Config.taken_of_run_eq_ok hload hrun
        rw [ByteArray.empty_append] at htaken
        simp only [warned, lines, run, hwarned, hsummary, htaken, JsonLines.splitLines_output,
          List.dropLast_concat, List.length_map, hcount]
        exact ⟨trivial, OwnerCache.nodup_warned _ _, Config.mem_warned_iff hload hread, trivial⟩

/-- Two ways, the owners of whose changesets are given by two rows, both of them for the changeset
of the first way, and the later one public. The other changeset is warned of. -/
theorem run_attribution_two_rows :
    let ways : Store.Table :=
      ⟨["id", "version", "timestamp", "changeset_id", "visible", "tag_k", "tag_v", "node_ids"],
        [[.integer 1, .integer 1, .text "2024-01-01T00:00:00Z".toUTF8, .integer 7, .integer 1,
            .null, .null, .null],
          [.integer 2, .integer 1, .text "2024-01-01T00:00:00Z".toUTF8, .integer 9, .integer 1,
            .null, .null, .null]]⟩
    let owners : Store.Table := ⟨["changeset_id", "user_id", "display_name", "data_public"],
      [[.integer 7, .integer 1, .text "alice".toUTF8, .integer 0],
        [.integer 7, .integer 3, .text "carol".toUTF8, .integer 1]]⟩
    let content : Store.Content :=
      .database ⟨[("ways_rollup", ways), ("changeset_owners", owners)]⟩
    let config : Config :=
      { database := "map", kind := .element .way, table := "ways_rollup", scale := .standard
        includeDiscussions := false, asOf := none, verbosity := .off }
    let first : Record :=
      .element ⟨1, 1, "2024-01-01T00:00:00Z", 7, true, some 3, some "carol"⟩ (.way []) []
    let second : Record :=
      .element ⟨2, 1, "2024-01-01T00:00:00Z", 9, true, none, none⟩ (.way []) []
    let run := config.run content ⟨0, 0⟩ {}
    Owners.Loadable content config.table "changeset_id" ∧
      (∃ loaded, config.load content = .ok loaded) ∧
      Owners.Discloses content 7 ⟨3, "carol"⟩ ∧ ¬Owners.IsListed content 9 ∧
      run.result = .ok 2 ∧
      JsonLines.splitLines run.sink.taken =
        [JsonLines.objectBytes first, JsonLines.objectBytes second, .empty] ∧
      (JsonLines.ofRecord first).render = "\x7b\"type\":\"way\",\"id\":1,\"version\":1," ++
        "\"timestamp\":\"2024-01-01T00:00:00Z\",\"changeset\":7,\"visible\":true," ++
        "\"uid\":3,\"display_name\":\"carol\",\"nodes\":[],\"tags\":\x7b\x7d\x7d" ∧
      (JsonLines.ofRecord second).render = "\x7b\"type\":\"way\",\"id\":2,\"version\":1," ++
        "\"timestamp\":\"2024-01-01T00:00:00Z\",\"changeset\":9,\"visible\":true," ++
        "\"nodes\":[],\"tags\":\x7b\x7d\x7d" ∧
      run.reports.filterMap Report.missedId? = [9] ∧
      run.reports.filterMap Report.unresolvedCount? = [("ways_rollup", 1)] := by
  intro ways owners content config first second run
  have hways : content.table "" config.table = .ok ways := by
    cbv
  have howners : content.table "" "changeset_owners" = .ok owners := by
    cbv
  have hindex : Store.columnIndex? ways.columns "changeset_id" = some 3 := by
    cbv
  have halice : Owners.Says owners owners.rows[0] 7 ⟨⟨1, "alice"⟩, false⟩ := by
    refine ⟨?_, ?_, ?_, 0, ?_, by simp⟩ <;> cbv
  have hcarol : Owners.Says owners owners.rows[1] 7 ⟨⟨3, "carol"⟩, true⟩ := by
    refine ⟨?_, ?_, ?_, 1, ?_, by simp⟩ <;> cbv
  have htable := Store.Content.has_of_table_eq_ok howners
  have hloadable : Owners.Loadable content config.table "changeset_id" := by
    constructor
    · refine ⟨ways, 3, Store.Content.has_of_table_eq_ok hways, hindex, ?_⟩
      simp [ways, Store.Table.cellsAt]
    · refine ⟨owners, htable, ?_, ?_⟩
      · intro name hname
        fin_cases hname <;> cbv
      · intro id hid cells hcells
        obtain ⟨hcells, hfor⟩ := List.mem_filter.1 hcells
        fin_cases hcells
        · obtain rfl := (halice.isFor_iff id).1 hfor
          exact ⟨_, halice⟩
        · obtain rfl := (hcarol.isFor_iff id).1 hfor
          exact ⟨_, hcarol⟩
  have hdiscloses : Owners.Discloses content 7 ⟨3, "carol"⟩ := by
    refine ⟨owners, _, htable, ?_, hcarol⟩
    cbv
  have hseven : Owners.IsListed content 7 := hdiscloses.isListed
  have hnine : ¬Owners.IsListed content 9 := by
    rintro ⟨others, hothers, hrows⟩
    obtain rfl := htable.unique hothers
    apply hrows
    cbv
  -- What is loaded, and what the rows decode into, is computed.
  have hdistinct : content.distinct config.kind.changesetColumn config.table = .ok [7, 9] := by
    cbv
  let cache := OwnerCache.ofList [(7, ⟨⟨1, "alice"⟩, false⟩), (7, ⟨⟨3, "carol"⟩, true⟩)]
  have hcache : Owners.load content [7, 9] = .ok cache := by
    cbv
  have hrows : content.rows config.table = .ok ways.toRows := by
    cbv
  have hload : config.load content = .ok (cache, ways.toRows) := by
    rw [Config.load_of_distinct_eq_ok hdistinct, hcache, hrows]
  have hend : RowsEnd (decodeRow (config.options ⟨0, 0⟩) config.kind cache.get?) ways.toRows
      [first, second] (.ok ways.toRows.length) := by
    apply RowsEnd.all
    cbv
  have hsink : BoundedSink.IsUnbounded {} := ⟨rfl, rfl⟩
  obtain ⟨written, result, hwritten, hresult, htaken⟩ :=
    Config.run_output_of_load_eq_ok hsink hload
  obtain ⟨rfl, rfl⟩ := hwritten.unique hend
  obtain ⟨hloaded, -, hwarned⟩ := run_attribution config content ⟨0, 0⟩ none false
  obtain ⟨-, hnodup, hmem, hsummary⟩ := hwarned 2 hresult
  have hids : run.reports.filterMap Report.missedId? = [9] := by
    rw [← List.perm_singleton, List.perm_ext_iff_of_nodup hnodup (List.nodup_singleton 9)]
    intro id
    rw [hmem id, List.mem_singleton]
    constructor
    · rintro ⟨hcell, hlisted⟩
      have hid : id ∈ [7, 9] := (Store.Content.mem_distinct hdistinct id).2 hcell
      rcases List.mem_pair.1 hid with rfl | rfl
      · exact absurd hseven hlisted
      · rfl
    · rintro rfl
      exact ⟨(Store.Content.mem_distinct hdistinct 9).1 (by decide), hnine⟩
  refine ⟨hloadable, hloaded hloadable, hdiscloses, hnine, hresult, ?_, by decide +kernel,
    by decide +kernel, hids, ?_⟩
  · rw [htaken, ByteArray.empty_append, JsonLines.splitLines_output]
    rfl
  · rw [hsummary, hids]
    rfl

end Rollup
