import Rollup.Proofs.Attribution.Lookups
import Rollup.Proofs.Results

namespace Rollup

namespace OwnerCache

theorem owners_remember (cache : OwnerCache) (id : Int) :
    (cache.remember id).owners = cache.owners := by
  unfold remember
  split <;> rfl

theorem owners_rememberAll (cache : OwnerCache) (ids : List Int) :
    (cache.rememberAll ids).owners = cache.owners := by
  induction ids generalizing cache with
  | nil => rfl
  | cons id rest ih => exact (ih (cache.remember id)).trans (cache.owners_remember id)

/-- Whether a look-up of a changeset would be reported. -/
def IsNew (cache : OwnerCache) (id : Int) : Prop := cache.get? id = none ∧ id ∉ cache.missed

instance (cache : OwnerCache) (id : Int) : Decidable (cache.IsNew id) :=
  inferInstanceAs (Decidable (_ ∧ _))

theorem isNew_remember {cache : OwnerCache} {id other : Int} :
    (cache.remember id).IsNew other ↔ cache.IsNew other ∧ other ≠ id := by
  rw [IsNew, IsNew, get?_remember, mem_missed_remember]
  constructor
  · rintro ⟨hnone, hmissed⟩
    refine ⟨⟨hnone, fun hmem => hmissed (.inl hmem)⟩, ?_⟩
    rintro rfl
    exact hmissed (.inr ⟨rfl, hnone⟩)
  · rintro ⟨⟨hnone, hmissed⟩, hne⟩
    refine ⟨hnone, ?_⟩
    rintro (hmem | ⟨rfl, -⟩)
    · exact hmissed hmem
    · exact hne rfl

/-- Look-ups warn of each new changeset once, where it comes first. -/
theorem warned_eq_eraseDups (cache : OwnerCache) (ids : List Int) :
    cache.warned ids = (ids.filter cache.IsNew).eraseDups := by
  induction ids generalizing cache with
  | nil => rfl
  | cons id rest ih =>
      have hrest : rest.filter (cache.remember id).IsNew =
          (rest.filter cache.IsNew).filter fun other => !other == id := by
        rw [List.filter_filter]
        refine List.filter_congr fun other _ => ?_
        rw [Bool.eq_iff_iff]
        simp [isNew_remember, and_comm]
      have hstep : cache.warned (id :: rest) =
          if cache.IsNew id then id :: (cache.remember id).warned rest
          else (cache.remember id).warned rest := cache.warned_cons id rest
      rw [hstep, ih, hrest]
      split
      · next hnew => rw [List.filter_cons_of_pos (by simpa using hnew), List.eraseDups_cons]
      · next hold =>
          rw [List.filter_cons_of_neg (by simpa using hold), List.filter_eq_self.2]
          -- Nothing is left out of the rest, since the changeset is not new there either.
          intro other hother
          rw [List.mem_filter, decide_eq_true_eq] at hother
          rw [Bool.not_eq_true', beq_eq_false_iff_ne]
          rintro rfl
          exact hold hother.2

theorem warnings_eq_map (cache : OwnerCache) (ids : List Int) :
    cache.warnings ids = (cache.warned ids).map .unresolvedChangeset := by
  induction ids generalizing cache with
  | nil => rfl
  | cons id rest ih =>
      rw [warned_cons, warnings, ih, reports_eq]
      split <;> rfl

end OwnerCache

/-- The columns that all kinds of elements have are read, and name the changeset. -/
structure Row.HeadIsRead (row : Row) (changeset : Int) : Prop where
  id : ∃ n, requireUnsigned row "id" = .ok n
  version : ∃ n, requireUnsigned row "version" = .ok n
  timestamp : ∃ text, row.requireText "timestamp" = .ok text
  changeset : row.requireInteger "changeset_id" = .ok changeset
  visible : ∃ b, row.requireBoolean "visible" = .ok b

theorem Row.headIsRead_iff {row : Row} {changeset : Int} :
    row.HeadIsRead changeset ↔
      ∃ head, ElementHead.read row = .ok head ∧ head.changeset = changeset := by
  constructor
  · rintro ⟨⟨id, hid⟩, ⟨version, hversion⟩, ⟨timestamp, htimestamp⟩, hchangeset,
      ⟨visible, hvisible⟩⟩
    refine ⟨⟨id, version, timestamp, changeset, visible⟩, ?_, rfl⟩
    rw [ElementHead.read, hid, hversion, htimestamp, hchangeset, hvisible]
    rfl
  · rintro ⟨head, hread, rfl⟩
    obtain ⟨id, hid, hread⟩ := bind_eq_ok.1 hread
    obtain ⟨version, hversion, hread⟩ := bind_eq_ok.1 hread
    obtain ⟨timestamp, htimestamp, hread⟩ := bind_eq_ok.1 hread
    obtain ⟨changeset, hchangeset, hread⟩ := bind_eq_ok.1 hread
    obtain ⟨visible, hvisible, hread⟩ := bind_eq_ok.1 hread
    cases hread
    exact ⟨⟨id, hid⟩, ⟨version, hversion⟩, ⟨timestamp, mapError_eq_ok.1 htimestamp⟩,
      mapError_eq_ok.1 hchangeset, ⟨visible, mapError_eq_ok.1 hvisible⟩⟩

variable {σ : Type}

/-- Whether a row leads to the look-up of a changeset: the row of an element if the columns that all
kinds have are read, whatever the others hold, and the row of a changeset if all of it decodes. -/
def Request.Reaches (request : Request σ) (ownerOf? : Int → Option Owner) (row : Row)
    (changeset : Int) : Prop :=
  match request.kind with
  | .element _ => row.HeadIsRead changeset
  | .changeset => ∃ record, request.decode ownerOf? row = .ok record ∧
      record.credit.changeset = changeset

theorem draftChangeset_finish {options : Options} {row : Row} {draft : Draft}
    (h : draftChangeset options row = .ok draft) (uid? : Option Nat)
    (displayName? : Option String) : ∃ record, draft.finish uid? displayName? = .ok record := by
  obtain ⟨id, -, h⟩ := bind_eq_ok.1 h
  obtain ⟨createdAt, -, h⟩ := bind_eq_ok.1 h
  obtain ⟨closedAt, -, h⟩ := bind_eq_ok.1 h
  obtain ⟨numChanges, -, h⟩ := bind_eq_ok.1 h
  obtain ⟨boundingBox?, -, h⟩ := bind_eq_ok.1 h
  obtain ⟨tags, -, h⟩ := bind_eq_ok.1 h
  obtain ⟨comments, -, h⟩ := bind_eq_ok.1 h
  cases h
  exact ⟨_, rfl⟩

theorem lookUp?_eq_some_iff (request : Request σ) (ownerOf? : Int → Option Owner) {row : Row}
    {changeset : Int} :
    lookUp? request.options request.kind row = some changeset ↔
      request.Reaches ownerOf? row changeset := by
  rw [lookUp?_eq_some, Request.Reaches, Request.decode]
  cases request.kind with
  | element kind =>
      rw [Row.headIsRead_iff]
      constructor
      · rintro ⟨draft, hread, rfl⟩
        obtain ⟨head, hhead, hread⟩ := bind_eq_ok.1 hread
        cases hread
        exact ⟨head, hhead, rfl⟩
      · rintro ⟨head, hhead, rfl⟩
        exact ⟨_, bind_eq_ok.2 ⟨head, hhead, rfl⟩, rfl⟩
  | changeset =>
      constructor
      · rintro ⟨draft, hread, rfl⟩
        obtain ⟨record, hfinish⟩ := draftChangeset_finish hread _ _
        refine ⟨record, bind_eq_ok.2 ⟨draft, hread, hfinish⟩, ?_⟩
        rw [Draft.credit_finish hread hfinish]
      · rintro ⟨record, hdecode, rfl⟩
        obtain ⟨draft, hread, hfinish⟩ := bind_eq_ok.1 hdecode
        refine ⟨draft, hread, ?_⟩
        rw [Draft.credit_finish hread hfinish]

/-- The rows that an extraction obtains: those that it writes, and the one that ends it. -/
def Extraction.obtained (extraction : Extraction σ) (rows : List Row) : List Row :=
  rows.take (extraction.written.length + 1)

/-- An extraction leaves all owners as they were. The changesets that become unresolved are those
without an owner that the rows obtained reach, and they are reported once each, in the order in
which they come first; nothing else is reported but the end of a success. -/
theorem extract_effect (request : Request σ) (feed : RowFeed) (target : σ) (cache : OwnerCache) :
    let extraction := extract request feed target cache
    let reached :=
      (extraction.obtained feed.rows).filterMap (lookUp? request.options request.kind)
    (∀ row id, lookUp? request.options request.kind row = some id ↔
        request.Reaches cache.get? row id) ∧
      (extraction.cache.owners = cache.owners ∧ extraction.cache.size = cache.size ∧
        ∀ id, extraction.cache.contains id = cache.contains id ∧
          extraction.cache.attribution id = cache.attribution id) ∧
      (∀ id, id ∈ extraction.cache.unresolved ↔
        id ∈ cache.unresolved ∨ id ∈ reached ∧ cache.contains id = false) ∧
      extraction.reports =
        (reached.filter fun id =>
            id ∈ extraction.cache.unresolved ∧ id ∉ cache.unresolved).eraseDups.map
          .unresolvedChangeset ++ closing request.kind extraction.result := by
  intro extraction reached
  obtain ⟨hcache, hreports⟩ := extract_lookUps request feed target cache
  change extraction.cache = cache.rememberAll reached at hcache
  change extraction.reports = cache.warnings reached ++ closing request.kind extraction.result
    at hreports
  have howners : extraction.cache.owners = cache.owners := by
    rw [hcache, OwnerCache.owners_rememberAll]
  have hunresolved : ∀ id, id ∈ extraction.cache.unresolved ↔
      id ∈ cache.unresolved ∨ id ∈ reached ∧ cache.contains id = false := by
    intro id
    rw [OwnerCache.mem_unresolved, hcache, OwnerCache.mem_missed_rememberAll,
      OwnerCache.mem_unresolved, OwnerCache.contains_eq, Option.isSome_eq_false_iff,
      Option.isNone_iff_eq_none]
  refine ⟨fun row id => lookUp?_eq_some_iff request cache.get?, ?_, hunresolved, ?_⟩
  · simp only [OwnerCache.size, OwnerCache.contains, OwnerCache.attribution, OwnerCache.get?,
      howners, and_self, implies_true]
  · rw [hreports, OwnerCache.warnings_eq_map, OwnerCache.warned_eq_eraseDups]
    congr 3
    refine List.filter_congr fun id hid => ?_
    rw [decide_eq_decide, hunresolved, OwnerCache.IsNew, OwnerCache.mem_unresolved,
      OwnerCache.contains_eq, Option.isSome_eq_false_iff, Option.isNone_iff_eq_none]
    tauto

end Rollup
