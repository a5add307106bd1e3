import Mathlib
import Rollup.Proofs.Owners.Loading

/-!
Loading owners in pieces is one look-up. What is loaded depends on the rows for the changesets that
are asked for, and the pieces show in one thing only: of several rows that cannot be taken, the one
that is reported is in the first piece with any.
-/

namespace Rollup.Owners

open Store (Cell Content Table cell? columnIndex?)

/-- What a row for a changeset holds, if each of its cells is of the type that is asked for. -/
structure Entry where
  changeset : Int
  userId : Int
  displayName : String
  dataPublic : Int

namespace Entry

/-- A row of the table of owners holds an entry. -/
structure IsIn (owners : Table) (cells : List Cell) (entry : Entry) : Prop where
  changeset : cell? owners.columns cells "changeset_id" = some (.integer entry.changeset)
  userId : cell? owners.columns cells "user_id" = some (.integer entry.userId)
  displayName : cell? owners.columns cells "display_name" = some (.text entry.displayName.toUTF8)
  dataPublic : cell? owners.columns cells "data_public" = some (.integer entry.dataPublic)

/-- The owner that an entry gives, if its number may be one. -/
def owner (entry : Entry) : Owner :=
  ⟨⟨entry.userId.toNat, entry.displayName⟩, entry.dataPublic != 0⟩

/-- The owner of a changeset, unless the number of the user is negative. -/
def read (entry : Entry) : Except OwnersFault (Int × Owner) :=
  if entry.userId < 0 then .error (.invalidUserId entry.changeset entry.userId)
  else .ok (entry.changeset, entry.owner)

variable {owners : Table} {cells : List Cell} {entry : Entry}

theorem IsIn.readRow_eq (h : entry.IsIn owners cells) (names : List String) :
    readRow names (picked owners cells) = entry.read := by
  have hpicked : picked owners cells = [.integer entry.changeset, .integer entry.userId,
      .text entry.displayName.toUTF8, .integer entry.dataPublic] := by
    simp only [picked, columns, List.map_cons, List.map_nil, h.changeset, h.userId, h.displayName,
      h.dataPublic, Option.getD_some]
  have htext (name : String) :
      (Cell.text entry.displayName.toUTF8).textAt 2 name = .ok entry.displayName :=
    Cell.textAt_eq_ok.2 rfl
  rw [readRow, hpicked]
  change ((Cell.text entry.displayName.toUTF8).textAt 2 _).mapError _ >>= _ = _
  rw [htext]
  rfl

theorem IsIn.isFor_iff (h : entry.IsIn owners cells) (id : Int) :
    isFor owners id cells ↔ entry.changeset = id :=
  isFor_iff_of_cell?_eq h.changeset id

theorem IsIn.isForAny_iff (h : entry.IsIn owners cells) (ids : List Int) :
    isForAny owners ids cells ↔ entry.changeset ∈ ids := by
  rw [isForAny, List.any_eq_true]
  simp only [h.isFor_iff]
  simp

theorem IsIn.says_owner (h : entry.IsIn owners cells) (huser : 0 ≤ entry.userId) :
    Says owners cells entry.changeset entry.owner where
  changeset := h.changeset
  userId := by
    rw [h.userId, owner, Int.toNat_of_nonneg huser]
  displayName := h.displayName
  isPublic := ⟨entry.dataPublic, h.dataPublic, by simp [owner]⟩

theorem mapM_read (entries : List Entry) :
    entries.mapM read =
      match entries.find? (·.userId < 0) with
      | some entry => .error (.invalidUserId entry.changeset entry.userId)
      | none => .ok (entries.map fun entry => (entry.changeset, entry.owner)) := by
  induction entries with
  | nil => rfl
  | cons entry entries ih =>
      rw [List.mapM_cons, ih, read]
      by_cases hneg : entry.userId < 0
      · rw [if_pos hneg, List.find?_cons_of_pos (by simpa using hneg)]
        rfl
      · rw [if_neg hneg, List.find?_cons_of_neg (by simpa using hneg)]
        cases entries.find? (·.userId < 0) <;> rfl

end Entry

theorem getElem_chunks {α : Type} {size : Nat} (hsize : 0 < size) (list : List α) (k : Nat)
    (hk : k < (chunks size list).length) :
    (chunks size list)[k] = (list.drop (size * k)).take size := by
  obtain ⟨size, rfl⟩ := Nat.exists_eq_add_one_of_ne_zero hsize.ne'
  induction k generalizing list with
  | zero =>
      cases list with
      | nil => simp [chunks] at hk
      | cons x rest => simp [chunks]
  | succ k ih =>
      cases list with
      | nil => simp [chunks] at hk
      | cons x rest =>
          simp only [chunks, List.length_cons, Nat.add_lt_add_iff_right] at hk
          have hdrop : (rest.drop size).drop ((size + 1) * k) =
              (x :: rest).drop ((size + 1) * (k + 1)) := by
            rw [List.drop_drop, Nat.mul_succ, ← Nat.add_assoc, List.drop_succ_cons, Nat.add_comm]
          simp only [chunks, List.getElem_cons_succ]
          exact (ih (rest.drop size) hk).trans (congrArg (List.take (size + 1)) hdrop)

theorem pairwise_ascending (changesets : List Int) : (ascending changesets).Pairwise (· < ·) := by
  rw [ascending]
  exact pairwise_toList _

theorem ascending_congr {changesets others : List Int}
    (h : ∀ id, id ∈ others ↔ id ∈ changesets) : ascending others = ascending changesets := by
  refine (Std.TreeSet.Equiv.of_forall_mem_iff fun id => ?_).toList_eq
  rw [← Std.TreeSet.mem_toList, ← Std.TreeSet.mem_toList]
  exact mem_ascending.trans ((h id).trans mem_ascending.symm)

theorem filter_isForAny {owners : Table} {changesets ids : List Int}
    (h : ∀ id ∈ ids, id ∈ changesets) :
    owners.rows.filter (isForAny owners ids) =
      (owners.rows.filter (isForAny owners changesets)).filter (isForAny owners ids) := by
  rw [List.filter_filter]
  apply List.filter_congr
  intro cells _
  rw [eq_comm, Bool.and_eq_left_iff_imp]
  intro hany
  obtain ⟨id, hid, hfor⟩ := List.any_eq_true.1 hany
  exact List.any_eq_true.2 ⟨id, h id hid, hfor⟩

theorem exists_of_forall₂_left {α β : Type} {R : α → β → Prop} {xs : List α} {ys : List β} {x : α}
    (h : List.Forall₂ R xs ys) (hx : x ∈ xs) : ∃ y ∈ ys, R x y := by
  induction h with
  | nil => cases hx
  | @cons first y xs ys hxy _ ih =>
      rcases List.mem_cons.1 hx with rfl | hx
      · exact ⟨y, List.mem_cons_self, hxy⟩
      · obtain ⟨other, hother, hrel⟩ := ih hx
        exact ⟨other, List.mem_cons_of_mem y hother, hrel⟩

theorem exists_of_forall₂_right {α β : Type} {R : α → β → Prop} {xs : List α} {ys : List β}
    {y : β} (h : List.Forall₂ R xs ys) (hy : y ∈ ys) : ∃ x ∈ xs, R x y :=
  exists_of_forall₂_left (List.Forall₂.flip h) hy

theorem rel_getLast? {α β : Type} {R : α → β → Prop} {xs : List α} {ys : List β}
    (h : List.Forall₂ R xs ys) : Option.Rel R xs.getLast? ys.getLast? := by
  have hreverse := List.rel_reverse h
  rw [List.getLast?_eq_head?_reverse, List.getLast?_eq_head?_reverse]
  generalize xs.reverse = xs' at hreverse
  generalize ys.reverse = ys' at hreverse
  cases hreverse with
  | nil => exact .none
  | cons hxy _ => exact .some hxy

/-- The rows for changesets that are asked for are all of the types that are asked for, and these
are their entries in storage order. -/
structure Typed (content : Content) (owners : Table) (changesets : List Int)
    (entries : List Entry) : Prop where
  table : content.Has tableName owners
  columns : ∀ name ∈ columns, (columnIndex? owners.columns name).isSome
  rows : List.Forall₂ (fun cells entry => entry.IsIn owners cells)
    (owners.rows.filter (isForAny owners changesets)) entries

namespace Typed

variable {content : Content} {owners : Table} {changesets : List Int} {entries : List Entry}

theorem mem_changesets (h : Typed content owners changesets entries) {entry : Entry}
    (hentry : entry ∈ entries) : entry.changeset ∈ changesets := by
  obtain ⟨cells, hcells, hin⟩ := exists_of_forall₂_right h.rows hentry
  exact (hin.isForAny_iff changesets).1 (List.mem_filter.1 hcells).2

theorem rows_of_subset (h : Typed content owners changesets entries) {ids : List Int}
    (hids : ∀ id ∈ ids, id ∈ changesets) :
    List.Forall₂ (fun cells entry => entry.IsIn owners cells)
      (owners.rows.filter (isForAny owners ids)) (entries.filter (·.changeset ∈ ids)) := by
  rw [filter_isForAny hids]
  refine List.rel_filter ?_ h.rows
  intro cells entry hentry
  simpa using hentry.isForAny_iff ids

theorem rows_of_mem (h : Typed content owners changesets entries) {id : Int}
    (hid : id ∈ changesets) :
    List.Forall₂ (fun cells entry => entry.IsIn owners cells)
      (rowsFor owners id) (entries.filter (·.changeset = id)) := by
  have hone : isForAny owners [id] = isFor owners id := by
    funext cells
    rw [isForAny, List.any_cons, List.any_nil, Bool.or_false]
  simpa [hone, rowsFor] using h.rows_of_subset (List.forall_mem_singleton.2 hid)

theorem loadChunk_eq (h : Typed content owners changesets entries) {ids : List Int}
    (hids : ∀ id ∈ ids, id ∈ changesets) :
    loadChunk content ids =
      match entries.find? fun entry => entry.changeset ∈ ids ∧ entry.userId < 0 with
      | some entry => .error (.invalidUserId entry.changeset entry.userId)
      | none => .ok ((entries.filter (·.changeset ∈ ids)).map fun entry =>
          (entry.changeset, entry.owner)) := by
  obtain ⟨indexes, hindexes⟩ :=
    findColumns_of_isSome (statement ids.length) "SELECT ".utf8ByteSize h.columns
  rw [Owners.loadChunk_eq h.table hindexes,
    list_mapM_eq_of_forall₂ (h.rows_of_subset hids) fun cells entry hentry => hentry.readRow_eq _,
    Entry.mapM_read, List.find?_filter]
  simp only [Bool.decide_and, Bool.decide_eq_true]

theorem owner?_eq (h : Typed content owners changesets entries)
    (hnonneg : ∀ entry ∈ entries, 0 ≤ entry.userId) {id : Int} (hid : id ∈ changesets)
    {owner? : Option Owner}
    (hlast : Option.Rel (fun cells owner => Says owners cells id owner)
      (rowsFor owners id).getLast? owner?) :
    owner? = (entries.filter (·.changeset = id)).getLast?.map Entry.owner := by
  have hentries := rel_getLast? (h.rows_of_mem hid)
  generalize (rowsFor owners id).getLast? = cells? at hlast hentries
  generalize hentry : (entries.filter (·.changeset = id)).getLast? = entry? at hentries
  cases hentries with
  | none =>
      cases hlast
      rfl
  | @some cells entry hin =>
      cases hlast with
      | some hsaid =>
          obtain ⟨hmem, hfor⟩ := List.mem_filter.1 (List.mem_of_getLast? hentry)
          obtain rfl := of_decide_eq_true hfor
          rw [hsaid.unique (hin.says_owner (hnonneg entry hmem))]
          rfl

theorem exists_cache (h : Typed content owners changesets entries)
    (hnonneg : ∀ entry ∈ entries, 0 ≤ entry.userId) :
    ∃ cache, load content changesets = .ok cache ∧
      (∀ id, cache.get? id =
        (entries.filter (·.changeset = id)).getLast?.map Entry.owner) ∧
      cache.unresolved = [] := by
  have hrows : ∀ id ∈ changesets, ∀ cells ∈ rowsFor owners id, ∃ owner,
      Says owners cells id owner := by
    intro id hid cells hcells
    obtain ⟨entry, hentry, hin⟩ := exists_of_forall₂_left (h.rows_of_mem hid) hcells
    obtain ⟨hmem, hfor⟩ := List.mem_filter.1 hentry
    obtain rfl := of_decide_eq_true hfor
    exact ⟨entry.owner, hin.says_owner (hnonneg entry hmem)⟩
  obtain ⟨cache, hload⟩ := exists_load_eq_ok h.table h.columns hrows
  refine ⟨cache, hload, ?_, ?_⟩
  · intro id
    have hknown := (known_of_load_eq_ok hload id).1
    rw [Known] at hknown
    split at hknown
    · next hid =>
        obtain ⟨others, hothers, hlast⟩ := hknown
        obtain rfl := h.table.unique hothers
        exact h.owner?_eq hnonneg hid hlast
    · next hid =>
        have hnone : entries.filter (·.changeset = id) = [] := by
          rw [List.filter_eq_nil_iff]
          intro entry hentry heq
          exact hid (of_decide_eq_true heq ▸ h.mem_changesets hentry)
        rw [hknown, hnone]
        rfl
  · rw [List.eq_nil_iff_forall_not_mem]
    intro id hid
    exact (known_of_load_eq_ok hload id).2 (OwnerCache.mem_unresolved.1 hid)

theorem exists_fault (h : Typed content owners changesets entries)
    (hneg : ∃ entry ∈ entries, entry.userId < 0) :
    ∃ k entry,
      entries.find? (fun entry =>
        entry.changeset ∈ ((ascending changesets).drop (chunkSize * k)).take chunkSize ∧
          entry.userId < 0) = some entry ∧
      (∀ j < k, ∀ entry ∈ entries,
        entry.changeset ∈ ((ascending changesets).drop (chunkSize * j)).take chunkSize →
          0 ≤ entry.userId) ∧
      load content changesets = .error (.invalidUserId entry.changeset entry.userId) := by
  have hloaded {ids : List Int} (hids : ids ∈ chunks chunkSize (ascending changesets)) :=
    h.loadChunk_eq (subset_of_mem_chunks hids)
  -- A piece is loaded just if none of its numbers is negative.
  have hnonneg {ids : List Int} (hids : ids ∈ chunks chunkSize (ascending changesets))
      {loaded : List (Int × Owner)} (hload : loadChunk content ids = .ok loaded) :
      ∀ entry ∈ entries, entry.changeset ∈ ids → 0 ≤ entry.userId := by
    rw [hloaded hids] at hload
    split at hload
    · cases hload
    · next hnone =>
        intro entry hentry hmem
        simpa [hmem] using List.find?_eq_none.1 hnone entry hentry
  cases hmapM : (chunks chunkSize (ascending changesets)).mapM (loadChunk content) with
  | ok loaded =>
      obtain ⟨entry, hentry, hneg⟩ := hneg
      have hmem : entry.changeset ∈ (chunks chunkSize (ascending changesets)).flatten := by
        rw [flatten_chunks, mem_ascending]
        exact h.mem_changesets hentry
      obtain ⟨ids, hids, hmem⟩ := List.mem_flatten.1 hmem
      obtain ⟨owners, -, hload⟩ := exists_of_list_mapM_eq_ok hmapM hids
      exact absurd hneg (Int.not_lt.2 (hnonneg hids hload entry hentry hmem))
  | error fault =>
      obtain ⟨k, hk, hfault, hbefore⟩ := list_mapM_eq_error.1 hmapM
      rw [hloaded (List.getElem_mem hk)] at hfault
      split at hfault
      · next entry hfound =>
          cases hfault
          rw [getElem_chunks (by decide)] at hfound
          refine ⟨k, entry, hfound, ?_, ?_⟩
          · intro j hj other hother hmem
            obtain ⟨loaded, hload⟩ := hbefore j (hj.trans hk) hj
            refine hnonneg (List.getElem_mem (hj.trans hk)) hload other hother ?_
            rwa [getElem_chunks (by decide)]
          · rw [load, hmapM]
            rfl
      · cases hfault

end Typed

section

variable {content other : Content} {owners others : Table} {changesets : List Int}

theorem findColumns_congr (hcolumns : others.columns = owners.columns) (statement : String)
    (offset : Nat) (names : List String) :
    findColumns others statement offset names = findColumns owners statement offset names := by
  induction names generalizing offset with
  | nil => rfl
  | cons name rest ih => simp only [findColumns, Table.column, hcolumns, ih]

theorem isForAny_congr (hcolumns : others.columns = owners.columns) :
    isForAny others = isForAny owners := by
  funext ids cells
  simp only [isForAny, isFor, hcolumns]

theorem loadChunk_congr (htable : content.Has tableName owners)
    (hother : other.Has tableName others) (hcolumns : others.columns = owners.columns)
    (hrows : others.rows.filter (isForAny others changesets) =
      owners.rows.filter (isForAny owners changesets))
    {ids : List Int} (hids : ∀ id ∈ ids, id ∈ changesets) :
    loadChunk other ids = loadChunk content ids := by
  have hsame := findColumns_congr hcolumns (statement ids.length) "SELECT ".utf8ByteSize columns
  cases hindexes : findColumns owners (statement ids.length) "SELECT ".utf8ByteSize columns with
  | error fault =>
      rw [hindexes] at hsame
      simp only [loadChunk, htable _, hother _, hsame, hindexes, mapError_ok, mapError_error, bind,
        Except.bind]
  | ok indexes =>
      rw [hindexes] at hsame
      have hpicked : picked others = picked owners := by
        funext cells
        simp only [picked, hcolumns]
      rw [loadChunk_eq htable hindexes, loadChunk_eq hother hsame, filter_isForAny hids,
        filter_isForAny hids, hrows, isForAny_congr hcolumns, hcolumns, hpicked]

/-- Rows for changesets that nobody asked for are as good as none. -/
theorem load_congr (htable : content.Has tableName owners) (hother : other.Has tableName others)
    (hcolumns : others.columns = owners.columns)
    (hrows : others.rows.filter (isForAny others changesets) =
      owners.rows.filter (isForAny owners changesets)) :
    load other changesets = load content changesets := by
  rw [load, load, list_mapM_congr]
  intro ids hids
  exact loadChunk_congr htable hother hcolumns hrows (subset_of_mem_chunks hids)

end

/-- However the changesets are cut into pieces, their owners are loaded as in one look-up. Each gets
the owner of its last row, and a negative number is reported from the first piece that has any. Rows
for other changesets play no part, and neither does the order in which changesets are asked for. -/
theorem load_is_one_lookup (content : Content) (changesets : List Int) :
    (∀ owners entries, Typed content owners changesets entries →
      ((∀ entry ∈ entries, 0 ≤ entry.userId) →
        ∃ cache, load content changesets = .ok cache ∧
          (∀ id, cache.get? id =
            (entries.filter (·.changeset = id)).getLast?.map Entry.owner) ∧
          cache.unresolved = []) ∧
      ((∃ entry ∈ entries, entry.userId < 0) →
        ∃ ids : List Int, ids.Pairwise (· < ·) ∧ (∀ id, id ∈ ids ↔ id ∈ changesets) ∧
          ∃ k entry,
            entries.find? (fun entry =>
              entry.changeset ∈ (ids.drop (999 * k)).take 999 ∧ entry.userId < 0) = some entry ∧
            (∀ j < k, ∀ entry ∈ entries,
              entry.changeset ∈ (ids.drop (999 * j)).take 999 → 0 ≤ entry.userId) ∧
            load content changesets = .error (.invalidUserId entry.changeset entry.userId))) ∧
      (∀ other owners others, content.Has tableName owners → other.Has tableName others →
        others.columns = owners.columns →
        others.rows.filter (isForAny others changesets) =
          owners.rows.filter (isForAny owners changesets) →
        load other changesets = load content changesets) ∧
      ∀ others : List Int, (∀ id, id ∈ others ↔ id ∈ changesets) →
        load content others = load content changesets := by
  refine ⟨?_, ?_, ?_⟩
  · intro owners entries htyped
    refine ⟨htyped.exists_cache, ?_⟩
    intro hneg
    exact ⟨ascending changesets, pairwise_ascending changesets, fun id => mem_ascending,
      htyped.exists_fault hneg⟩
  · intro other owners others htable hother hcolumns hrows
    exact load_congr htable hother hcolumns hrows
  · intro others hsame
    rw [load, load, ascending_congr hsame]

/-- A changeset with two rows, and one whose owner has a negative number. -/
theorem load_is_one_lookup_two_changesets :
    let owners : Table := ⟨columns, [[.integer 7, .integer 1, .text "alice".toUTF8, .integer 0],
      [.integer 9, .integer (-3), .text "bob".toUTF8, .integer 1],
      [.integer 7, .integer 3, .text "carol".toUTF8, .integer 1]]⟩
    let content : Content := .database ⟨[(tableName, owners)]⟩
    (∃ cache, load content [7] = .ok cache ∧ cache.get? 7 = some ⟨⟨3, "carol"⟩, true⟩ ∧
      cache.get? 9 = none ∧ cache.unresolved = []) ∧
      load content [9, 7, 9] = .error (.invalidUserId 9 (-3)) ∧
      load content [7, 9] = load content [9, 7, 9] := by
  intro owners content
  have howners : content.table "" tableName = .ok owners := by
    cbv
  have htable := Store.Content.has_of_table_eq_ok howners
  have hcolumns : ∀ name ∈ columns, (columnIndex? owners.columns name).isSome := by
    intro name hname
    fin_cases hname <;> cbv
  have halice : Entry.IsIn owners owners.rows[0] ⟨7, 1, "alice", 0⟩ := by
    constructor <;> cbv
  have hbob : Entry.IsIn owners owners.rows[1] ⟨9, -3, "bob", 1⟩ := by
    constructor <;> cbv
  have hcarol : Entry.IsIn owners owners.rows[2] ⟨7, 3, "carol", 1⟩ := by
    constructor <;> cbv
  have hseven : Typed content owners [7] [⟨7, 1, "alice", 0⟩, ⟨7, 3, "carol", 1⟩] := by
    have hrows : owners.rows.filter (isForAny owners [7]) = [owners.rows[0], owners.rows[2]] := by
      cbv
    refine ⟨htable, hcolumns, ?_⟩
    rw [hrows]
    exact .cons halice (.cons hcarol .nil)
  have hboth : Typed content owners [9, 7, 9]
      [⟨7, 1, "alice", 0⟩, ⟨9, -3, "bob", 1⟩, ⟨7, 3, "carol", 1⟩] := by
    have hrows : owners.rows.filter (isForAny owners [9, 7, 9]) = owners.rows := by
      cbv
    refine ⟨htable, hcolumns, ?_⟩
    rw [hrows]
    exact .cons halice (.cons hbob (.cons hcarol .nil))
  obtain ⟨hlookup, -, hsame⟩ := load_is_one_lookup content [9, 7, 9]
  refine ⟨?_, ?_, hsame [7, 9] (by simp [or_comm])⟩
  · obtain ⟨cache, hcache, hget, hunresolved⟩ :=
      ((load_is_one_lookup content [7]).1 owners _ hseven).1 (by decide)
    exact ⟨cache, hcache, hget 7, hget 9, hunresolved⟩
  · obtain ⟨ids, -, -, k, entry, hfound, -, hload⟩ :=
      (hlookup owners _ hboth).2 ⟨_, List.mem_cons_of_mem _ List.mem_cons_self, by decide⟩
    have hmem := List.mem_of_find?_eq_some hfound
    have hneg : entry.userId < 0 := by
      have hfits := List.find?_some hfound
      exact (of_decide_eq_true hfits).2
    fin_cases hmem
    · exact absurd hneg (by decide)
    · exact hload
    · exact absurd hneg (by decide)

end Rollup.Owners
