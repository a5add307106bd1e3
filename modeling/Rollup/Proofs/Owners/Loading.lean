import Mathlib.Data.List.Forall2
import Rollup.Proofs.Attribution.Cache
import Rollup.Proofs.Owners.Rows
import Rollup.Proofs.Session.Attribution

namespace Rollup.Owners

open Store (Cell Content Table cell? columnIndex?)

theorem flatten_chunks {α : Type} (size : Nat) (list : List α) :
    (chunks size list).flatten = list := by
  fun_induction chunks size list with
  | case1 => rfl
  | case2 x rest ih => rw [List.flatten_cons, ih, List.cons_append, List.take_append_drop]

theorem mem_ascending {changesets : List Int} {id : Int} :
    id ∈ ascending changesets ↔ id ∈ changesets := by
  rw [ascending, Std.TreeSet.mem_toList, Std.TreeSet.mem_ofList]
  simp

theorem subset_of_mem_chunks {changesets ids : List Int}
    (h : ids ∈ chunks chunkSize (ascending changesets)) : ∀ id ∈ ids, id ∈ changesets := by
  intro id hid
  rw [← mem_ascending, ← flatten_chunks chunkSize (ascending changesets)]
  exact List.mem_flatten_of_mem h hid

variable {content : Content} {owners : Table}

/-- Whether a row is for one of the changesets. -/
def isForAny (owners : Table) (ids : List Int) (cells : List Cell) : Bool :=
  ids.any fun id => isFor owners id cells

theorem isAmong_picked (ids : List Int) (cells : List Cell) :
    isAmong ids (picked owners cells) = isForAny owners ids cells := by
  simp only [isAmong, picked, columns, List.map_cons, List.head?_cons, isForAny, isFor]
  cases cell? owners.columns cells "changeset_id" with
  | none => simp [Cell.isNumber]
  | some cell => rfl

theorem map_getD_eq_picked {indexes : List Nat}
    (h : columns.map (columnIndex? owners.columns) = indexes.map some) (cells : List Cell) :
    indexes.map (fun index => cells[index]?.getD .null) = picked owners cells := by
  calc
    indexes.map (fun index => cells[index]?.getD .null) =
        (indexes.map some).map fun found =>
          (found.bind fun index => cells[index]?).getD .null := by rw [List.map_map]; rfl
    _ = picked owners cells := by rw [← h, List.map_map]; rfl

theorem loadChunk_eq {ids : List Int} {indexes : List Nat} (htable : content.Has tableName owners)
    (h : findColumns owners (statement ids.length) "SELECT ".utf8ByteSize columns = .ok indexes) :
    loadChunk content ids = (owners.rows.filter (isForAny owners ids)).mapM fun cells =>
      readRow (indexes.map fun index => owners.columns[index]?.getD "") (picked owners cells) := by
  have hpicked : (owners.rows.map fun cells => indexes.map fun index => cells[index]?.getD .null) =
      owners.rows.map (picked owners) := by
    simp only [map_getD_eq_picked (findColumns_eq_ok h)]
  have hamong : isAmong ids ∘ picked owners = isForAny owners ids := funext (isAmong_picked ids)
  simp only [loadChunk, htable _, h, hpicked, List.filter_map, hamong, List.mapM_map,
    mapError_ok, bind, Except.bind]
  rfl

theorem exists_of_loadChunk_eq_ok {ids : List Int} {entries : List (Int × Owner)}
    (h : loadChunk content ids = .ok entries) :
    ∃ owners, content.Has tableName owners ∧
      List.Forall₂ (fun cells entry => Says owners cells entry.1 entry.2)
        (owners.rows.filter (isForAny owners ids)) entries := by
  obtain ⟨owners, howners, hrest⟩ := bind_eq_ok.1 h
  obtain ⟨indexes, hindexes, -⟩ := bind_eq_ok.1 hrest
  have htable := Content.has_of_table_eq_ok (mapError_eq_ok.1 howners)
  rw [loadChunk_eq htable (mapError_eq_ok.1 hindexes), list_mapM_eq_ok_iff_forall₂] at h
  simp only [readRow_eq_ok] at h
  exact ⟨owners, htable, h⟩

theorem exists_loadChunk_eq_ok {ids : List Int} (htable : content.Has tableName owners)
    (hcolumns : ∀ name ∈ columns, (columnIndex? owners.columns name).isSome)
    (hrows : ∀ id ∈ ids, ∀ cells ∈ rowsFor owners id, ∃ owner, Says owners cells id owner) :
    ∃ entries, loadChunk content ids = .ok entries := by
  obtain ⟨indexes, hindexes⟩ :=
    findColumns_of_isSome (statement ids.length) "SELECT ".utf8ByteSize hcolumns
  rw [loadChunk_eq htable hindexes]
  apply exists_list_mapM_eq_ok
  intro cells hcells
  obtain ⟨hcells, hany⟩ := List.mem_filter.1 hcells
  obtain ⟨id, hid, hfor⟩ := List.any_eq_true.1 hany
  obtain ⟨owner, howner⟩ := hrows id hid cells (List.mem_filter.2 ⟨hcells, hfor⟩)
  exact ⟨(id, owner), readRow_eq_ok.2 howner⟩

theorem rel_or {α β : Type} {R : α → β → Prop} {a a' : Option α} {b b' : Option β}
    (h : Option.Rel R a b) (h' : Option.Rel R a' b') : Option.Rel R (a.or a') (b.or b') := by
  cases h with
  | none => exact h'
  | some hab => exact .some hab

theorem rel_last?_singleton {cells : List Cell} {entry : Int × Owner}
    (h : Says owners cells entry.1 entry.2) (id : Int) :
    Option.Rel (fun cells owner => Says owners cells id owner)
      ([cells].filter (isFor owners id)).getLast? (OwnerCache.last? [entry] id) := by
  have hfor := h.isFor_iff id
  rw [OwnerCache.last?_singleton]
  by_cases hid : entry.1 = id
  · rw [if_pos hid, List.filter_cons_of_pos (hfor.2 hid)]
    exact .some (hid ▸ h)
  · rw [if_neg hid, List.filter_cons_of_neg (mt hfor.1 hid)]
    exact .none

theorem rel_last? {rows : List (List Cell)} {entries : List (Int × Owner)}
    (h : List.Forall₂ (fun cells entry => Says owners cells entry.1 entry.2) rows entries)
    (id : Int) :
    Option.Rel (fun cells owner => Says owners cells id owner)
      (rows.filter (isFor owners id)).getLast? (OwnerCache.last? entries id) := by
  induction h with
  | nil => exact .none
  | @cons cells entry rows entries hsaid _ ih =>
      rw [← List.singleton_append, ← List.singleton_append (l := entries), List.filter_append,
        List.getLast?_append, OwnerCache.last?_append]
      exact rel_or ih (rel_last?_singleton hsaid id)

/-- What is known of a changeset once owners have been asked for: what the last row for it says if
it was asked for, and nothing otherwise. -/
def Known (content : Content) (asked : List Int) (id : Int) (owner? : Option Owner) : Prop :=
  if id ∈ asked then
    ∃ owners, content.Has tableName owners ∧
      Option.Rel (fun cells owner => Says owners cells id owner) (rowsFor owners id).getLast? owner?
  else owner? = none

theorem known_of_loadChunk_eq_ok {ids : List Int} {entries : List (Int × Owner)}
    (h : loadChunk content ids = .ok entries) (id : Int) :
    Known content ids id (OwnerCache.last? entries id) := by
  obtain ⟨owners, htable, hentries⟩ := exists_of_loadChunk_eq_ok h
  have hlast := rel_last? hentries id
  rw [List.filter_filter] at hlast
  rw [Known]
  split
  · next hid =>
      have hany : ∀ cells, (isFor owners id cells && isForAny owners ids cells) =
          isFor owners id cells := by
        intro cells
        rw [Bool.and_eq_left_iff_imp]
        exact fun hfor => List.any_eq_true.2 ⟨id, hid, hfor⟩
      rw [List.filter_congr fun cells _ => hany cells] at hlast
      exact ⟨owners, htable, hlast⟩
  · next hid =>
      -- A row with an entry for the changeset was read for a changeset that was asked for.
      generalize hcells : (owners.rows.filter _).getLast? = cells? at hlast
      generalize OwnerCache.last? entries id = owner? at hlast
      cases hlast with
      | none => rfl
      | @some cells owner hsaid =>
          have hmem := (List.mem_filter.1 (List.mem_of_getLast? hcells)).2
          rw [Bool.and_eq_true] at hmem
          obtain ⟨other, hother, hfor⟩ := List.any_eq_true.1 hmem.2
          rw [hsaid.isFor_iff] at hfor
          exact absurd (hfor ▸ hother) hid

theorem Known.append {ids ids' : List Int} {id : Int} {owner? owner'? : Option Owner}
    (h : Known content ids id owner?) (h' : Known content ids' id owner'?) :
    Known content (ids ++ ids') id (owner'?.or owner?) := by
  rw [Known] at h h' ⊢
  -- Later pieces come first: only what they say nothing of is left to the earlier ones.
  by_cases hid' : id ∈ ids'
  · rw [if_pos hid'] at h'
    obtain ⟨owners, htable, hlast'⟩ := h'
    rw [if_pos (List.mem_append_right ids hid')]
    refine ⟨owners, htable, ?_⟩
    generalize hcells : (rowsFor owners id).getLast? = cells? at hlast' ⊢
    cases hlast' with
    | some hsaid => exact .some hsaid
    | none =>
        split at h
        · obtain ⟨others, hothers, hlast⟩ := h
          obtain rfl := htable.unique hothers
          rw [hcells] at hlast
          exact hlast
        · rw [h]
          exact .none
  · rw [if_neg hid'] at h'
    rw [h', Option.none_or]
    split at h
    · next hid => rwa [if_pos (List.mem_append_left ids' hid)]
    · next hid => rwa [if_neg (by simp [hid, hid'])]

theorem known_of_mapM_loadChunk {pieces : List (List Int)} {loaded : List (List (Int × Owner))}
    (h : pieces.mapM (loadChunk content) = .ok loaded) (id : Int) :
    Known content pieces.flatten id (OwnerCache.last? loaded.flatten id) := by
  rw [list_mapM_eq_ok] at h
  induction pieces generalizing loaded with
  | nil =>
      rw [List.map_eq_nil_iff.1 h.symm]
      rw [Known, List.flatten_nil, if_neg List.not_mem_nil]
      rfl
  | cons ids pieces ih =>
      cases loaded with
      | nil => cases h
      | cons entries loaded =>
          obtain ⟨hentries, hloaded⟩ := List.cons.inj h
          rw [List.flatten_cons, List.flatten_cons, OwnerCache.last?_append]
          exact (known_of_loadChunk_eq_ok hentries id).append (ih hloaded)

/-- The cache that is loaded knows of each changeset what the last row for it says, if it was asked
for at all. -/
theorem known_of_load_eq_ok {changesets : List Int} {cache : OwnerCache}
    (h : load content changesets = .ok cache) (id : Int) :
    Known content changesets id (cache.get? id) ∧ id ∉ cache.missed := by
  obtain ⟨loaded, hloaded, h⟩ := bind_eq_ok.1 h
  cases h
  have hknown := known_of_mapM_loadChunk hloaded id
  rw [flatten_chunks] at hknown
  constructor
  · rw [OwnerCache.ofList, OwnerCache.get?_insertMany, OwnerCache.get?_empty, Option.or_none]
    simpa only [Known, mem_ascending] using hknown
  · rw [OwnerCache.ofList, OwnerCache.mem_missed_insertMany]
    simp [OwnerCache.empty]

section

variable {asked : List Int} {id : Int} {owner? : Option Owner}

theorem Known.eq_none_iff (h : Known content asked id owner?) (hid : id ∈ asked) :
    owner? = none ↔ ¬IsListed content id := by
  rw [Known, if_pos hid] at h
  obtain ⟨owners, htable, hlast⟩ := h
  have hlisted : IsListed content id ↔ rowsFor owners id ≠ [] := by
    constructor
    · rintro ⟨others, hothers, hrows⟩
      rwa [htable.unique hothers]
    · exact fun hrows => ⟨owners, htable, hrows⟩
  rw [hlisted, not_not, ← List.getLast?_eq_none_iff]
  generalize (rowsFor owners id).getLast? = cells? at hlast
  cases hlast <;> simp

theorem Known.disclosed?_eq_some_iff (h : Known content asked id owner?) (hid : id ∈ asked)
    (author : Author) :
    owner?.bind Owner.disclosed? = some author ↔ Discloses content id author := by
  rw [Known, if_pos hid] at h
  obtain ⟨owners, htable, hlast⟩ := h
  generalize hcells : (rowsFor owners id).getLast? = cells? at hlast
  have hdiscloses : Discloses content id author ↔
      ∃ cells, cells? = some cells ∧ Says owners cells id ⟨author, true⟩ := by
    constructor
    · rintro ⟨others, cells, hothers, hfound, hsaid⟩
      obtain rfl := htable.unique hothers
      exact ⟨cells, hcells.symm.trans hfound, hsaid⟩
    · rintro ⟨cells, hfound, hsaid⟩
      exact ⟨owners, cells, htable, hcells.trans hfound, hsaid⟩
  rw [hdiscloses]
  cases hlast with
  | none => simp
  | @some cells owner hsaid =>
      rw [Option.bind_some, Owner.disclosed?]
      constructor
      · intro hauthor
        split at hauthor
        · next hpublic =>
            cases hauthor
            exact ⟨cells, rfl, hpublic ▸ hsaid⟩
        · cases hauthor
      · rintro ⟨other, hother, hsaid'⟩
        cases hother
        rw [hsaid.unique hsaid']
        rfl

end

theorem exists_load_eq_ok {changesets : List Int} (htable : content.Has tableName owners)
    (hcolumns : ∀ name ∈ columns, (columnIndex? owners.columns name).isSome)
    (hrows : ∀ id ∈ changesets, ∀ cells ∈ rowsFor owners id, ∃ owner,
      Says owners cells id owner) :
    ∃ cache, load content changesets = .ok cache := by
  obtain ⟨loaded, hloaded⟩ : ∃ loaded,
      (chunks chunkSize (ascending changesets)).mapM (loadChunk content) = .ok loaded := by
    apply exists_list_mapM_eq_ok
    intro ids hids
    exact exists_loadChunk_eq_ok htable hcolumns fun id hid =>
      hrows id (subset_of_mem_chunks hids id hid)
  exact ⟨_, bind_eq_ok.2 ⟨loaded, hloaded, rfl⟩⟩

end Rollup.Owners
