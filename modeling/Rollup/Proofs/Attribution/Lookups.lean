import Rollup.Proofs.Attribution.Cache
import Rollup.Proofs.Extract.Streaming

namespace Rollup

namespace OwnerCache

/-- The cache after changesets were looked up. -/
def rememberAll (cache : OwnerCache) (ids : List Int) : OwnerCache := ids.foldl remember cache

/-- The reports of look-ups one after another. -/
def warnings (cache : OwnerCache) : List Int → List Report
  | [] => []
  | id :: rest => cache.reports id ++ warnings (cache.remember id) rest

theorem rememberAll_append (cache : OwnerCache) (ids others : List Int) :
    cache.rememberAll (ids ++ others) = (cache.rememberAll ids).rememberAll others :=
  List.foldl_append

theorem warnings_append (cache : OwnerCache) (ids others : List Int) :
    cache.warnings (ids ++ others) =
      cache.warnings ids ++ (cache.rememberAll ids).warnings others := by
  induction ids generalizing cache with
  | nil => rfl
  | cons id rest ih =>
      rw [List.cons_append, warnings, ih, warnings, List.append_assoc, rememberAll, rememberAll,
        List.foldl_cons]

theorem mem_missed_rememberAll {cache : OwnerCache} {ids : List Int} {id : Int} :
    id ∈ (cache.rememberAll ids).missed ↔
      id ∈ cache.missed ∨ id ∈ ids ∧ cache.get? id = none := by
  induction ids generalizing cache with
  | nil => simp [rememberAll]
  | cons first rest ih =>
      rw [rememberAll, List.foldl_cons, ← rememberAll, ih, mem_missed_remember, get?_remember,
        List.mem_cons]
      grind

/-- The changesets that look-ups warn of. -/
def warned (cache : OwnerCache) (ids : List Int) : List Int :=
  (cache.warnings ids).filterMap Report.missedId?

theorem warned_cons (cache : OwnerCache) (id : Int) (rest : List Int) :
    cache.warned (id :: rest) =
      if cache.get? id = none ∧ id ∉ cache.missed then id :: (cache.remember id).warned rest
      else (cache.remember id).warned rest := by
  rw [warned, warnings, List.filterMap_append, reports_eq]
  split <;> rfl

theorem filterMap_unresolvedCount?_warnings (cache : OwnerCache) (ids : List Int) :
    (cache.warnings ids).filterMap Report.unresolvedCount? = [] := by
  induction ids generalizing cache with
  | nil => rfl
  | cons id rest ih =>
      rw [warnings, List.filterMap_append, ih, reports_eq]
      split <;> rfl

theorem mem_warned {cache : OwnerCache} {ids : List Int} {id : Int} :
    id ∈ cache.warned ids ↔ id ∈ ids ∧ cache.get? id = none ∧ id ∉ cache.missed := by
  induction ids generalizing cache with
  | nil => simp [warned, warnings]
  | cons first rest ih =>
      rw [warned_cons]
      split
      · rw [List.mem_cons, ih, mem_missed_remember, get?_remember, List.mem_cons]
        grind
      · rw [ih, mem_missed_remember, get?_remember, List.mem_cons]
        grind

theorem nodup_warned (cache : OwnerCache) (ids : List Int) : (cache.warned ids).Nodup := by
  induction ids generalizing cache with
  | nil => exact List.nodup_nil
  | cons first rest ih =>
      rw [warned_cons]
      split
      · next hfirst =>
          refine List.nodup_cons.2 ⟨?_, ih _⟩
          rw [mem_warned, mem_missed_remember]
          exact fun hmem => hmem.2.2 (.inr ⟨rfl, hfirst.1⟩)
      · exact ih _

theorem perm_unresolved_rememberAll {cache : OwnerCache} (h : ∀ id, id ∉ cache.missed)
    (ids : List Int) : (cache.rememberAll ids).unresolved.Perm (cache.warned ids) := by
  rw [List.perm_ext_iff_of_nodup (nodup_unresolved _) (nodup_warned cache ids)]
  intro id
  rw [mem_unresolved, mem_missed_rememberAll, mem_warned]
  simp [h]

end OwnerCache

/-- The changeset that a row is looked up for, if it is read as far as that. -/
def lookUp? (options : Options) (kind : RecordKind) (row : Row) : Option Int :=
  (Draft.read options kind row).toOption.map Draft.changeset

theorem lookUp?_eq_some {options : Options} {kind : RecordKind} {row : Row} {id : Int} :
    lookUp? options kind row = some id ↔
      ∃ draft, Draft.read options kind row = .ok draft ∧ draft.changeset = id := by
  rw [lookUp?]
  cases Draft.read options kind row with
  | error fault => simp [Except.toOption]
  | ok draft => simp [Except.toOption]

variable {σ : Type}

/-- The changesets that the first rows are looked up for. -/
def Request.lookUps (request : Request σ) (rows : List Row) (count : Nat) : List Int :=
  (rows.take count).filterMap (lookUp? request.options request.kind)

/-- What an extraction reports besides its look-ups: that it went through all rows. -/
def closing (kind : RecordKind) : Extracted Nat → List Report
  | .ok count => [.extractedRows count kind.name]
  | .error _ => []

/-- An extraction that looked up the rows that it wrote, and the row that ended it. -/
structure LookedUp (request : Request σ) (rows : List Row) (cache : OwnerCache)
    (extraction : Extraction σ) : Prop where
  marks : extraction.cache =
    cache.rememberAll (request.lookUps rows (extraction.written.length + 1))
  reports : extraction.reports =
    cache.warnings (request.lookUps rows (extraction.written.length + 1)) ++
      closing request.kind extraction.result

section

variable {request : Request σ} {row : Row} {rest : List Row} {cache : OwnerCache}

theorem attributeRow_lookUps (request : Request σ) (row : Row) (rest : List Row)
    (cache : OwnerCache) :
    (attributeRow request.options request.kind row cache).cache =
        cache.rememberAll (request.lookUps (row :: rest) 1) ∧
      (attributeRow request.options request.kind row cache).reports =
        cache.warnings (request.lookUps (row :: rest) 1) := by
  unfold attributeRow Request.lookUps
  rw [List.take_succ_cons, List.take_zero]
  cases hread : Draft.read request.options request.kind row with
  | error fault =>
      simp [lookUp?, hread, Except.toOption, OwnerCache.rememberAll, OwnerCache.warnings]
  | ok draft =>
      simp [lookUp?, hread, Except.toOption, OwnerCache.rememberAll, OwnerCache.warnings,
        Draft.attribute]

theorem lookUps_cons (request : Request σ) (row : Row) (rest : List Row) (count : Nat) :
    request.lookUps (row :: rest) (count + 1) =
      request.lookUps (row :: rest) 1 ++ request.lookUps rest count := by
  unfold Request.lookUps
  rw [List.take_succ_cons, ← List.singleton_append, List.filterMap_append]
  rfl

theorem LookedUp.of_fault {extraction : Extraction σ} {fault : ExtractFault}
    (hwritten : extraction.written = []) (hresult : extraction.result = .error fault)
    (hcache : extraction.cache = (attributeRow request.options request.kind row cache).cache)
    (hreports : extraction.reports =
      (attributeRow request.options request.kind row cache).reports) :
    LookedUp request (row :: rest) cache extraction := by
  obtain ⟨hcache', hreports'⟩ := attributeRow_lookUps request row rest cache
  constructor
  · rw [hwritten, hcache, hcache']
    rfl
  · rw [hwritten, hresult, hreports, hreports']
    exact (List.append_nil _).symm

end

theorem extractRows_lookUps (request : Request σ) (failure : Option String) (written : Nat)
    (target : σ) (cache : OwnerCache) (rows : List Row) :
    LookedUp request rows cache (extractRows request failure written target cache rows) := by
  induction rows generalizing written target cache with
  | nil => cases failure <;> exact ⟨rfl, rfl⟩
  | cons row rest ih =>
      cases hdecode : request.decode cache.get? row with
      | error fault =>
          rw [extractRows_cons_of_error hdecode]
          exact .of_fault rfl rfl rfl rfl
      | ok record =>
          rcases htaken : request.formatter target record with ⟨target', _ | fault⟩
          · rw [extractRows_cons_of_taken hdecode htaken]
            obtain ⟨hcache, hreports⟩ := attributeRow_lookUps request row rest cache
            have hrest := ih (written + 1) target'
              (attributeRow request.options request.kind row cache).cache
            constructor
            · rw [Extraction.written_after, List.length_cons, lookUps_cons,
                OwnerCache.rememberAll_append, ← hcache]
              exact hrest.marks
            · rw [Extraction.written_after, List.length_cons, lookUps_cons,
                OwnerCache.warnings_append, ← hcache, ← hreports, List.append_assoc]
              exact congrArg (_ ++ ·) hrest.reports
          · rw [extractRows_cons_of_refused hdecode htaken]
            exact .of_fault (filterMap_written?_announcement request.announce record) rfl rfl rfl

theorem extract_lookUps (request : Request σ) (feed : RowFeed) (target : σ)
    (cache : OwnerCache) : LookedUp request feed.rows cache (extract request feed target cache) :=
  extractRows_lookUps request feed.failure 0 target cache feed.rows

end Rollup
