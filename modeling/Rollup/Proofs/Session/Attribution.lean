import Mathlib
import Rollup.Proofs.Attribution.Cache
import Rollup.Proofs.Extract.Streaming
import Rollup.Row.Memory
import Rollup.Session

namespace Rollup

variable {σ : Type}

namespace OwnerCache

/-- The last owner that entries give a changeset. -/
def last? (entries : List (Int × Owner)) (id : Int) : Option Owner := entries.reverse.lookup id

/-- Something done with a cache. Extractions may be made with formatters of any kind. -/
inductive Step : Type 1 where
  | insert (changeset : Int) (owner : Owner)
  | insertMany (entries : List (Int × Owner))
  | lookUp (changeset : Int)
  | extract {σ : Type} (request : Request σ) (feed : RowFeed) (target : σ)

namespace Step

/-- The owners that a step gives to changesets. -/
def entries : Step → List (Int × Owner)
  | .insert changeset owner => [(changeset, owner)]
  | .insertMany entries => entries
  | .lookUp _ | .extract .. => []

/-- The cache that a step leaves. -/
def apply (cache : OwnerCache) : Step → OwnerCache
  | .insert changeset owner => cache.insert changeset owner
  | .insertMany entries => cache.insertMany entries
  | .lookUp changeset => cache.remember changeset
  | .extract request feed target => (Rollup.extract request feed target cache).cache

end Step

/-- The cache after the steps of a session that began with an empty one. -/
def after (steps : List Step) : OwnerCache := steps.foldl Step.apply empty

theorem last?_singleton (changeset : Int) (owner : Owner) (id : Int) :
    last? [(changeset, owner)] id = if changeset = id then some owner else none := by
  by_cases h : changeset = id
  · subst h
    simp [last?]
  · have hne : (id == changeset) = false := by
      simpa using fun heq => h heq.symm
    simp [last?, List.lookup_cons, hne, h]

theorem last?_append (earlier later : List (Int × Owner)) (id : Int) :
    last? (earlier ++ later) id = (last? later id).or (last? earlier id) := by
  simp [last?, List.lookup_append]

theorem get?_insertMany (cache : OwnerCache) (entries : List (Int × Owner)) (id : Int) :
    (cache.insertMany entries).get? id = (last? entries id).or (cache.get? id) := by
  induction entries generalizing cache with
  | nil => rfl
  | cons entry rest ih =>
      have hstep : cache.insertMany (entry :: rest) =
          (cache.insert entry.1 entry.2).insertMany rest := rfl
      rw [hstep, ih, get?_insert, ← List.singleton_append, last?_append, Option.or_assoc]
      congr 1
      rw [last?_singleton]
      split <;> rfl

theorem mem_missed_insertMany {cache : OwnerCache} {entries : List (Int × Owner)} {id : Int} :
    id ∈ (cache.insertMany entries).missed ↔ id ∈ cache.missed ∧ last? entries id = none := by
  induction entries generalizing cache with
  | nil => simp [insertMany, last?]
  | cons entry rest ih =>
      have hstep : cache.insertMany (entry :: rest) =
          (cache.insert entry.1 entry.2).insertMany rest := rfl
      rw [hstep, ih, mem_missed_insert, ← List.singleton_append, last?_append,
        Option.or_eq_none_iff, last?_singleton]
      by_cases hentry : entry.1 = id
      · simp [hentry]
      · simp [hentry, Ne.symm hentry]

theorem get?_extractRows (request : Request σ) (failure : Option String) (written : Nat)
    (target : σ) (cache : OwnerCache) (rows : List Row) :
    (extractRows request failure written target cache rows).cache.get? = cache.get? := by
  induction rows generalizing written target cache with
  | nil => cases failure <;> rfl
  | cons row rest ih =>
      have hrow := get?_attributeRow request.options request.kind row cache
      cases hdecode : request.decode cache.get? row with
      | error fault =>
          rw [extractRows_cons_of_error hdecode]
          exact hrow
      | ok record =>
          rcases htaken : request.formatter target record with ⟨target', _ | fault⟩
          · rw [extractRows_cons_of_taken hdecode htaken]
            exact (ih _ _ _).trans hrow
          · rw [extractRows_cons_of_refused hdecode htaken]
            exact hrow

theorem Step.get?_apply (step : Step) (cache : OwnerCache) (id : Int) :
    (step.apply cache).get? id = (last? step.entries id).or (cache.get? id) := by
  cases step with
  | insert changeset owner => exact get?_insertMany cache [(changeset, owner)] id
  | insertMany entries => exact get?_insertMany cache entries id
  | lookUp changeset => exact congrFun (cache.get?_remember changeset) id
  | extract request feed target =>
      exact congrFun (get?_extractRows request feed.failure 0 target cache feed.rows) id

theorem get?_foldl_apply (steps : List Step) (cache : OwnerCache) (id : Int) :
    (steps.foldl Step.apply cache).get? id =
      (last? (steps.flatMap Step.entries) id).or (cache.get? id) := by
  induction steps generalizing cache with
  | nil => rfl
  | cons step rest ih =>
      rw [List.foldl_cons, ih, Step.get?_apply, List.flatMap_cons, last?_append, Option.or_assoc]

theorem get?_after (steps : List Step) (id : Int) :
    (after steps).get? id = last? (steps.flatMap Step.entries) id := by
  rw [after, get?_foldl_apply, get?_empty, Option.or_none]

end OwnerCache

namespace Session

/-- What a call does with the cache of its session: nothing if it has no scale to extract with. -/
def Call.cacheSteps (call : Call) : List OwnerCache.Step :=
  match scaleOf? call.factor? with
  | none => []
  | some scale =>
    match call.target with
    | .recorder limit =>
      [.extract (call.request scale Recorder.take) call.feed { limit }]
    | .lines sink => [.extract (call.request scale JsonLines.formatter) call.feed sink]

/-- What a step of a session does with its cache. -/
def Step.cacheSteps : Step → List OwnerCache.Step
  | .insert changeset owner => [.insert changeset owner]
  | .insertMany entries => [.insertMany entries]
  | .attribution changeset => [.lookUp changeset]
  | .contains _ => []
  | .extract call => call.cacheSteps

theorem Step.cache_run (step : Step) (cache : OwnerCache) :
    (step.run cache).cache = step.cacheSteps.foldl OwnerCache.Step.apply cache := by
  cases step with
  | insert changeset owner => rfl
  | insertMany entries => rfl
  | attribution changeset => rfl
  | contains changeset => rfl
  | extract call =>
      rw [Step.run, Call.run, Step.cacheSteps, Call.cacheSteps]
      cases scaleOf? call.factor? with
      | none => rfl
      | some scale => cases call.target <;> rfl

/-- Each step of a session runs on the cache that the steps before it made, so that what is said of
extractions after steps on a cache holds of those in sessions. -/
theorem getElem?_run (cache : OwnerCache) (steps : List Step) (index : Nat) :
    (run cache steps)[index]? = steps[index]?.map fun step => step.run
      (((steps.take index).flatMap Step.cacheSteps).foldl OwnerCache.Step.apply cache) := by
  induction steps generalizing cache index with
  | nil => rfl
  | cons step rest ih =>
      cases index with
      | zero => rfl
      | succ index =>
          rw [run, List.getElem?_cons_succ, List.getElem?_cons_succ, ih, Step.cache_run,
            List.take_succ_cons, List.flatMap_cons, List.foldl_append]

end Session

/-- What is said of the user behind something that can be seen. -/
def Event.credit : Event → Credit
  | .announced element => element.credit
  | .wrote record => record.credit

theorem credit_of_mem_announcement {announce : Bool} {record : Record} {event : Event}
    (h : event ∈ announcement announce record) : event.credit = record.credit := by
  cases record with
  | element shared body tags =>
      cases announce with
      | false => simp [announcement] at h
      | true =>
          have heq : event = .announced shared := by simpa [announcement] using h
          rw [heq]
          rfl
  | changeset shared tags withDiscussion comments now => simp [announcement] at h

theorem exists_decode_of_mem_events {request : Request σ} {feed : RowFeed} {target : σ}
    {cache : OwnerCache} {event : Event} (h : event ∈ (extract request feed target cache).events) :
    ∃ row ∈ feed.rows, ∃ record, request.decode cache.get? row = .ok record ∧
      event.credit = record.credit := by
  obtain ⟨count, hstreamed⟩ :=
    exists_streamed_extractRows request feed.failure feed.rows 0 target cache
  change event ∈ (extractRows request feed.failure 0 target cache feed.rows).events at h
  simp only [hstreamed.events, ← announcement_eq, List.mem_append, List.mem_flatMap] at h
  rcases h with ⟨record, hwritten, hevent⟩ | ⟨record, hoffered, hevent⟩
  · have hmem : Except.ok record ∈ (feed.rows.take count).map (request.decode cache.get?) := by
      rw [← hstreamed.records]
      exact List.mem_map_of_mem hwritten
    obtain ⟨row, hrow, hdecode⟩ := List.mem_map.mp hmem
    refine ⟨row, List.mem_of_mem_take hrow, record, hdecode, ?_⟩
    rcases hevent with hannounced | hwrote
    · exact credit_of_mem_announcement hannounced
    · rw [List.mem_singleton.mp hwrote]
      rfl
  · simp only [Request.offered, Option.mem_toList, Option.bind_eq_some_iff] at hoffered
    obtain ⟨row, hrow, hdecode⟩ := hoffered
    refine ⟨row, List.mem_of_getElem? hrow, record, ?_, credit_of_mem_announcement hevent⟩
    cases hdecoded : request.decode cache.get? row with
    | error fault => simp [hdecoded, Except.toOption] at hdecode
    | ok other => simpa [hdecoded, Except.toOption] using hdecode

/-- Whatever is written or announced in an extraction, after any session whatsoever, names a user
by number and name together or not at all. It does so just if the last owner that its changeset was
given before is public, and then it is this owner who is named. -/
theorem credit_after (steps : List OwnerCache.Step) (request : Request σ) (feed : RowFeed)
    (target : σ) (event : Event)
    (h : event ∈ (extract request feed target (OwnerCache.after steps)).events) :
    let credit := event.credit
    let owner? := OwnerCache.last? (steps.flatMap OwnerCache.Step.entries) credit.changeset
    (credit.uid?.isSome ↔ credit.displayName?.isSome) ∧
      (credit.uid?.isSome ↔ ∃ owner, owner? = some owner ∧ owner.isPublic) ∧
      ∀ owner, owner? = some owner → owner.isPublic →
        credit.uid? = some owner.author.uid ∧
          credit.displayName? = some owner.author.displayName := by
  obtain ⟨row, -, record, hdecode, hcredit⟩ := exists_decode_of_mem_events h
  have hnamed := decodeRow_credit hdecode
  rw [OwnerCache.get?_after, ← hcredit] at hnamed
  obtain ⟨huid, hname⟩ := hnamed
  dsimp only
  rw [huid, hname]
  cases OwnerCache.last? (steps.flatMap OwnerCache.Step.entries) event.credit.changeset with
  | none => simp [Attribution.ofOwner?, Attribution.uid?, Attribution.displayName?]
  | some owner =>
      cases hpublic : owner.isPublic <;>
        simp [Attribution.ofOwner?, Owner.attribution, hpublic, Attribution.uid?,
          Attribution.displayName?]

/-- A way whose changeset had a private owner, and has a public one since, names the public one. -/
theorem credit_after_replacement :
    let steps : List OwnerCache.Step :=
      [.insert 7 ⟨⟨1, "alice"⟩, false⟩, .lookUp 8,
        .insertMany [(8, ⟨⟨2, "bob"⟩, false⟩), (7, ⟨⟨3, "carol"⟩, true⟩)]]
    let request : Request Recorder :=
      { kind := .element .way, announce := true, formatter := Recorder.take }
    let row := (((MemoryRow.way 1 7).setNull "tag_k").setNull "tag_v").setNull "node_ids"
    let feed : RowFeed := { rows := [row.toRow] }
    let way : Element := ⟨1, 1, "2024-01-01T00:00:00Z", 7, true, some 3, some "carol"⟩
    Event.announced way ∈ (extract request feed {} (OwnerCache.after steps)).events ∧
      way.credit.uid? = some 3 ∧ way.credit.displayName? = some "carol" := by
  intro steps request row feed way
  have hevents : (extract request feed {} (OwnerCache.after steps)).events =
      [.announced way, .wrote (.element way (.way []) [])] := by
    cbv
  have hmem : Event.announced way ∈
      (extract request feed {} (OwnerCache.after steps)).events := by
    rw [hevents]
    exact List.mem_cons_self
  obtain ⟨-, -, hnamed⟩ := credit_after steps request feed {} (.announced way) hmem
  exact ⟨hmem, hnamed ⟨⟨3, "carol"⟩, true⟩ rfl rfl⟩

end Rollup
