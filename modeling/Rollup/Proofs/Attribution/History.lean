import Mathlib.Data.List.Dedup
import Rollup.Proofs.Attribution.Cache
import Rollup.Proofs.Session.Attribution

/-!
What becomes of a cache of owners over a history of calls. Its owners are those that changesets were
given last, its unresolved changesets those that were looked up and never given an owner, and a
look-up is reported if nothing was known of its changeset until then. So look-ups do not disturb
each other.
-/

namespace Rollup.OwnerCache

/-- A call on a cache that is no extraction. -/
inductive Call where
  | insert (id : Int) (owner : Owner)
  | insertMany (entries : List (Int × Owner))
  | lookUp (id : Int)

namespace Call

def step : Call → Session.Step
  | .insert id owner => .insert id owner
  | .insertMany entries => .insertMany entries
  | .lookUp id => .attribution id

/-- The entries that a call gives, in order. -/
def entries : Call → List (Int × Owner)
  | .insert id owner => [(id, owner)]
  | .insertMany entries => entries
  | .lookUp _ => []

/-- The changeset that a call looks up, if it does. -/
def lookUp? : Call → Option Int
  | .insert .. | .insertMany _ => none
  | .lookUp id => some id

end Call

/-- Who is behind a changeset when these entries were inserted: the last of its owners, if that one
is public, and nobody who may be named otherwise. -/
def credited (inserted : List (Int × Owner)) (id : Int) : Attribution :=
  match last? inserted id with
  | some ⟨author, true⟩ => .disclosed author
  | some ⟨_, false⟩ => .withheld
  | none => .unresolved

theorem ofOwner?_last? (inserted : List (Int × Owner)) (id : Int) :
    Attribution.ofOwner? (last? inserted id) = credited inserted id := by
  rw [credited]
  rcases last? inserted id with _ | ⟨author, _ | _⟩ <;> rfl

/-- What a call answers and reports when these entries were inserted and these changesets looked up
before it: a changeset is reported if it is met for the first time. -/
def Call.told (inserted : List (Int × Owner)) (lookedUp : List Int) :
    Call → Session.Answer × List Report
  | .insert .. | .insertMany _ => (.done, [])
  | .lookUp id =>
    (.attribution (credited inserted id),
      if id ∉ inserted.map Prod.fst ∧ id ∉ lookedUp then [.unresolvedChangeset id] else [])

/-- The outcomes of calls, each on the cache that the one before it left. -/
def outcomes (cache : OwnerCache) (calls : List Call) : List Session.Outcome :=
  Session.run cache (calls.map Call.step)

/-- All that calls report. -/
def reported (cache : OwnerCache) (calls : List Call) : List Report :=
  (cache.outcomes calls).flatMap Session.Outcome.reports

/-- The cache that calls leave. -/
def afterCalls (cache : OwnerCache) (calls : List Call) : OwnerCache :=
  ((calls.map Call.step).flatMap Session.Step.cacheSteps).foldl Step.apply cache

theorem afterCalls_cons (cache : OwnerCache) (call : Call) (rest : List Call) :
    cache.afterCalls (call :: rest) = (call.step.run cache).cache.afterCalls rest := by
  rw [afterCalls, List.map_cons, List.flatMap_cons, List.foldl_append, ← Session.Step.cache_run]
  rfl

theorem outcomes_append (cache : OwnerCache) (calls others : List Call) :
    cache.outcomes (calls ++ others) =
      cache.outcomes calls ++ (cache.afterCalls calls).outcomes others := by
  induction calls generalizing cache with
  | nil => rfl
  | cons call rest ih =>
      rw [afterCalls_cons]
      exact congrArg (_ :: ·) (ih (call.step.run cache).cache)

theorem getElem?_outcomes (cache : OwnerCache) (calls : List Call) (index : Nat) :
    (cache.outcomes calls)[index]? =
      calls[index]?.map fun call => call.step.run (cache.afterCalls (calls.take index)) := by
  rw [outcomes, Session.getElem?_run, List.getElem?_map, Option.map_map, ← List.map_take]
  rfl

theorem last?_eq_none_iff {entries : List (Int × Owner)} {id : Int} :
    last? entries id = none ↔ id ∉ entries.map Prod.fst := by
  rw [last?, List.lookup_eq_none_iff]
  constructor
  · intro h hmem
    obtain ⟨entry, hentry, rfl⟩ := List.mem_map.1 hmem
    simpa using h entry (List.mem_reverse.2 hentry)
  · intro h entry hentry
    rw [bne_iff_ne]
    rintro rfl
    exact h (List.mem_map_of_mem (List.mem_reverse.1 hentry))

/-- The cache has the last owners that entries give, and marks for those of the changesets looked up
that no entry gives an owner. -/
structure Remembers (cache : OwnerCache) (inserted : List (Int × Owner)) (lookedUp : List Int) :
    Prop where
  owners : ∀ id, cache.get? id = last? inserted id
  missed : ∀ id, id ∈ cache.missed ↔ id ∈ lookedUp ∧ last? inserted id = none

namespace Remembers

variable {cache : OwnerCache} {inserted : List (Int × Owner)} {lookedUp : List Int}

theorem ofList (initial : List (Int × Owner)) :
    (OwnerCache.ofList initial).Remembers initial [] := by
  constructor
  · intro id
    rw [OwnerCache.ofList, get?_insertMany, get?_empty, Option.or_none]
  · intro id
    rw [OwnerCache.ofList, mem_missed_insertMany]
    simp [OwnerCache.empty]

theorem insertMany (h : cache.Remembers inserted lookedUp) (entries : List (Int × Owner)) :
    (cache.insertMany entries).Remembers (inserted ++ entries) lookedUp := by
  constructor
  · intro id
    rw [get?_insertMany, last?_append, h.owners]
  · intro id
    rw [mem_missed_insertMany, h.missed, last?_append, Option.or_eq_none_iff]
    tauto

theorem remember (h : cache.Remembers inserted lookedUp) (id : Int) :
    (cache.remember id).Remembers inserted (lookedUp ++ [id]) := by
  constructor
  · intro other
    rw [get?_remember, h.owners]
  · intro other
    rw [mem_missed_remember, h.missed, h.owners, List.mem_append, List.mem_singleton]
    constructor
    · rintro (⟨hasked, hnone⟩ | ⟨rfl, hnone⟩)
      · exact ⟨.inl hasked, hnone⟩
      · exact ⟨.inr rfl, hnone⟩
    · rintro ⟨hasked | rfl, hnone⟩
      · exact .inl ⟨hasked, hnone⟩
      · exact .inr ⟨rfl, hnone⟩

theorem run (h : cache.Remembers inserted lookedUp) (call : Call) :
    (call.step.run cache).cache.Remembers (inserted ++ call.entries)
      (lookedUp ++ call.lookUp?.toList) := by
  rcases call with ⟨id, owner⟩ | entries | id
  · rw [Call.lookUp?, Option.toList_none, List.append_nil]
    exact h.insertMany [(id, owner)]
  · rw [Call.lookUp?, Option.toList_none, List.append_nil]
    exact h.insertMany entries
  · rw [Call.entries, List.append_nil]
    exact h.remember id

theorem afterCalls (h : cache.Remembers inserted lookedUp) (calls : List Call) :
    (cache.afterCalls calls).Remembers (inserted ++ calls.flatMap Call.entries)
      (lookedUp ++ calls.filterMap Call.lookUp?) := by
  induction calls generalizing cache inserted lookedUp with
  | nil => simpa [OwnerCache.afterCalls] using h
  | cons call rest ih =>
      have hrest := ih (h.run call)
      rw [afterCalls_cons]
      rw [List.append_assoc, List.append_assoc] at hrest
      rw [List.flatMap_cons, ← List.singleton_append, List.filterMap_append]
      cases hlookUp : call.lookUp? <;> simpa [hlookUp] using hrest

theorem told (h : cache.Remembers inserted lookedUp) (call : Call) :
    ((call.step.run cache).answer, (call.step.run cache).reports) =
      call.told inserted lookedUp := by
  rcases call with ⟨id, owner⟩ | entries | id
  · rfl
  · rfl
  · -- Whether the look-up is reported is a matter of the cache, and so of what is remembered.
    have hnew : last? inserted id = none ∧ id ∉ cache.missed ↔
        id ∉ inserted.map Prod.fst ∧ id ∉ lookedUp := by
      rw [h.missed, last?_eq_none_iff]
      tauto
    simp only [Call.step, Session.Step.run, Call.told, attribution, reports_eq, h.owners, hnew,
      ofOwner?_last?]

end Remembers

/-- What can be asked of a cache, told from the entries that were inserted and the changesets that
were looked up. -/
structure Reflects (cache : OwnerCache) (inserted : List (Int × Owner)) (lookedUp : List Int) :
    Prop where
  contains : ∀ id, cache.contains id = true ↔ id ∈ inserted.map Prod.fst
  size : cache.size = (inserted.map Prod.fst).dedup.length
  isEmpty : cache.isEmpty = true ↔ inserted = []
  attribution : ∀ id, cache.attribution id = credited inserted id
  ascending : cache.unresolved.Pairwise (· < ·)
  unresolved : ∀ id, id ∈ cache.unresolved ↔ id ∈ lookedUp ∧ id ∉ inserted.map Prod.fst
  disjoint : ∀ id ∈ cache.unresolved, cache.contains id = false

theorem Remembers.reflects {cache : OwnerCache} {inserted : List (Int × Owner)}
    {lookedUp : List Int} (h : cache.Remembers inserted lookedUp) :
    cache.Reflects inserted lookedUp := by
  have hcontains : ∀ id, cache.contains id = true ↔ id ∈ inserted.map Prod.fst := by
    intro id
    rw [contains_eq, h.owners, Option.isSome_iff_ne_none, ne_eq, last?_eq_none_iff, not_not]
  have hunresolved : ∀ id, id ∈ cache.unresolved ↔
      id ∈ lookedUp ∧ id ∉ inserted.map Prod.fst := by
    intro id
    rw [mem_unresolved, h.missed, last?_eq_none_iff]
  have hsize : cache.size = (inserted.map Prod.fst).dedup.length := by
    apply size_eq_length (List.nodup_dedup _)
    intro id
    rw [List.mem_dedup, hcontains]
  constructor
  · exact hcontains
  · exact hsize
  · rw [isEmpty, hsize, beq_iff_eq, List.length_eq_zero_iff, List.dedup_eq_nil, List.map_eq_nil_iff]
  · intro id
    rw [OwnerCache.attribution, h.owners, ofOwner?_last?]
  · exact ascending_unresolved cache
  · exact hunresolved
  · intro id hid
    rw [← Bool.not_eq_true, hcontains]
    exact ((hunresolved id).1 hid).2

theorem remembers_afterCalls (initial : List (Int × Owner)) (calls : List Call) :
    ((ofList initial).afterCalls calls).Remembers (initial ++ calls.flatMap Call.entries)
      (calls.filterMap Call.lookUp?) := by
  simpa using (Remembers.ofList initial).afterCalls calls

theorem told_outcomes (initial : List (Int × Owner)) (calls : List Call) (index : Nat) :
    ((ofList initial).outcomes calls)[index]?.map
        (fun outcome => (outcome.answer, outcome.reports)) =
      calls[index]?.map (Call.told (initial ++ (calls.take index).flatMap Call.entries)
        ((calls.take index).filterMap Call.lookUp?)) := by
  rw [getElem?_outcomes, Option.map_map]
  congr 1
  funext call
  exact (remembers_afterCalls initial (calls.take index)).told call

theorem reported_concat (initial : List (Int × Owner)) (calls : List Call) (call : Call) :
    (ofList initial).reported (calls ++ [call]) =
      (ofList initial).reported calls ++
        (call.told (initial ++ calls.flatMap Call.entries) (calls.filterMap Call.lookUp?)).2 := by
  rw [reported, outcomes_append, List.flatMap_append,
    ← (remembers_afterCalls initial calls).told call]
  simp [reported, outcomes, Session.run]

theorem mem_told_iff {inserted : List (Int × Owner)} {lookedUp : List Int} {call : Call}
    {report : Report} :
    report ∈ (call.told inserted lookedUp).2 ↔ ∃ id, call.lookUp? = some id ∧
      id ∉ inserted.map Prod.fst ∧ id ∉ lookedUp ∧ report = .unresolvedChangeset id := by
  rcases call with ⟨id, owner⟩ | entries | id
  · simp [Call.told, Call.lookUp?]
  · simp [Call.told, Call.lookUp?]
  · rw [Call.told, Call.lookUp?]
    split
    · next hnew => simp only [List.mem_singleton, Option.some.injEq, exists_eq_left', hnew,
        not_false_eq_true, true_and]
    · next hold =>
        simp only [List.not_mem_nil, Option.some.injEq, false_iff]
        rintro ⟨_, rfl, hinserted, hlookedUp, -⟩
        exact hold ⟨hinserted, hlookedUp⟩

theorem lookUp_of_mem_reported {initial : List (Int × Owner)} {calls : List Call} {id : Int}
    (h : .unresolvedChangeset id ∈ (ofList initial).reported calls) :
    id ∈ calls.filterMap Call.lookUp? := by
  induction calls using List.reverseRecOn with
  | nil => cases h
  | append_singleton calls call ih =>
      rw [reported_concat, List.mem_append] at h
      rw [List.filterMap_append, List.mem_append]
      rcases h with h | h
      · exact .inl (ih h)
      · obtain ⟨other, hlookUp, -, -, hreport⟩ := mem_told_iff.1 h
        cases hreport
        simp [hlookUp]

theorem nodup_reported (initial : List (Int × Owner)) (calls : List Call) :
    ((ofList initial).reported calls).Nodup := by
  induction calls using List.reverseRecOn with
  | nil => exact List.nodup_nil
  | append_singleton calls call ih =>
      rw [reported_concat, List.nodup_append]
      refine ⟨ih, ?_, ?_⟩
      · rcases call with _ | _ | id
        · exact List.nodup_nil
        · exact List.nodup_nil
        · rw [Call.told]
          split
          · exact List.nodup_singleton _
          · exact List.nodup_nil
      · -- A report is made only if nothing was known, but an earlier report tells of a look-up.
        rintro report hbefore _ hnow rfl
        obtain ⟨id, -, -, hnew, rfl⟩ := mem_told_iff.1 hnow
        exact hnew (lookUp_of_mem_reported hbefore)

/-- What a call answers, and which owners it leaves. -/
structure Standing where
  answer : Session.Answer
  contains : Int → Bool
  size : Nat
  isEmpty : Bool

/-- The answer of a call, and what can be told of the owners after it. -/
def standing (outcome : Session.Outcome) : Standing :=
  ⟨outcome.answer, outcome.cache.contains, outcome.cache.size, outcome.cache.isEmpty⟩

/-- Whether a call stays when the look-ups that are marked are left out. -/
def Call.stays (marked : Call × Bool) : Bool := marked.1.lookUp?.isNone || !marked.2

theorem standing_run {a b : OwnerCache} (h : a.get? = b.get?) (call : Call) :
    (call.step.run a).cache.get? = (call.step.run b).cache.get? ∧
      standing (call.step.run a) = standing (call.step.run b) := by
  have howners : (call.step.run a).cache.get? = (call.step.run b).cache.get? := by
    funext other
    rcases call with ⟨id, owner⟩ | entries | id
    · change (a.insert id owner).get? other = (b.insert id owner).get? other
      rw [get?_insert, get?_insert, h]
    · change (a.insertMany entries).get? other = (b.insertMany entries).get? other
      rw [get?_insertMany, get?_insertMany, h]
    · change (a.remember id).get? other = (b.remember id).get? other
      rw [get?_remember, get?_remember, h]
  have hcontains : (call.step.run a).cache.contains = (call.step.run b).cache.contains := by
    funext other
    rw [contains_eq, contains_eq, howners]
  have hsize := size_eq_of_contains_eq (congrFun hcontains)
  have hanswer : (call.step.run a).answer = (call.step.run b).answer := by
    rcases call with _ | _ | id
    · rfl
    · rfl
    · change Session.Answer.attribution (.ofOwner? (a.get? id)) =
        .attribution (.ofOwner? (b.get? id))
      rw [h]
  refine ⟨howners, ?_⟩
  rw [standing, standing, hanswer, hcontains, hsize, isEmpty, isEmpty, hsize]

/-- Look-ups that are left out are not missed by the calls that stay. -/
theorem standing_stays {a b : OwnerCache} (h : a.get? = b.get?) (marked : List (Call × Bool)) :
    (((a.outcomes (marked.map Prod.fst)).zip marked).filter fun pair => Call.stays pair.2).map
        (fun pair => standing pair.1) =
      (b.outcomes ((marked.filter Call.stays).map Prod.fst)).map standing := by
  induction marked generalizing a b with
  | nil => rfl
  | cons entry rest ih =>
      obtain ⟨howners, hstanding⟩ := standing_run h entry.1
      have hstep : a.outcomes ((entry :: rest).map Prod.fst) =
          entry.1.step.run a :: (entry.1.step.run a).cache.outcomes (rest.map Prod.fst) := rfl
      rw [hstep, List.zip_cons_cons]
      cases hstays : Call.stays entry with
      | true =>
          have hstep' : b.outcomes (((entry :: rest).filter Call.stays).map Prod.fst) =
              entry.1.step.run b ::
                (entry.1.step.run b).cache.outcomes ((rest.filter Call.stays).map Prod.fst) := by
            rw [List.filter_cons_of_pos hstays]
            rfl
          rw [hstep', List.map_cons, ← hstanding, ← ih howners]
          simp only [List.filter_cons, hstays, if_true, List.map_cons]
      | false =>
          -- What is left out is a look-up, which leaves the owners that the calls after it see.
          have howners' : (entry.1.step.run a).cache.get? = b.get? := by
            rcases entry with ⟨_ | _ | id, omitted⟩
            · cases hstays
            · cases hstays
            · exact (a.get?_remember id).trans h
          simp only [List.filter_cons, hstays]
          exact ih howners'

/-- A history of calls on a cache, some of its look-ups marked. What can be asked of the cache in
the end follows from the entries and the look-ups alone, each call answers and reports by what came
before it, no changeset is reported twice, and if the marked look-ups are left out then the calls
that stay answer the same and leave the same owners. -/
theorem history_law (initial : List (Int × Owner)) (marked : List (Call × Bool)) :
    let calls := marked.map Prod.fst
    let start := ofList initial
    (start.afterCalls calls).Reflects (initial ++ calls.flatMap Call.entries)
        (calls.filterMap Call.lookUp?) ∧
      (∀ index, (start.outcomes calls)[index]?.map
          (fun outcome => (outcome.answer, outcome.reports)) =
        calls[index]?.map (Call.told (initial ++ (calls.take index).flatMap Call.entries)
          ((calls.take index).filterMap Call.lookUp?))) ∧
      (start.reported calls).Nodup ∧
      (((start.outcomes calls).zip marked).filter fun pair => Call.stays pair.2).map
          (fun pair => standing pair.1) =
        (start.outcomes ((marked.filter Call.stays).map Prod.fst)).map standing := by
  intro calls start
  refine ⟨(remembers_afterCalls initial calls).reflects, told_outcomes initial calls,
    nodup_reported initial calls, standing_stays rfl marked⟩

end Rollup.OwnerCache
