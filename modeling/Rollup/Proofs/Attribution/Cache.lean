import Mathlib.Data.List.Nodup
import Rollup.Attribution

namespace Rollup

/-- The changeset that was looked up in vain, if the report is of that. -/
def Report.missedId? : Report → Option Int
  | .unresolvedChangeset id => some id
  | .extractedRows .. | .unresolvedChangesets .. | .extractedTable .. => none

/-- How many changesets without a known owner a table is said to have, if the report is of that. -/
def Report.unresolvedCount? : Report → Option (String × Nat)
  | .unresolvedChangesets table count => some (table, count)
  | .unresolvedChangeset _ | .extractedRows .. | .extractedTable .. => none

/-- The author that an owner lets be named. -/
def Owner.disclosed? (owner : Owner) : Option Author :=
  if owner.isPublic then some owner.author else none

theorem Attribution.uid?_ofOwner? (owner? : Option Owner) :
    (Attribution.ofOwner? owner?).uid? = (owner?.bind Owner.disclosed?).map Author.uid := by
  cases owner? with
  | none => rfl
  | some owner =>
      cases hpublic : owner.isPublic <;>
        simp [ofOwner?, Owner.attribution, Owner.disclosed?, hpublic, uid?]

theorem Attribution.displayName?_ofOwner? (owner? : Option Owner) :
    (Attribution.ofOwner? owner?).displayName? =
      (owner?.bind Owner.disclosed?).map Author.displayName := by
  cases owner? with
  | none => rfl
  | some owner =>
      cases hpublic : owner.isPublic <;>
        simp [ofOwner?, Owner.attribution, Owner.disclosed?, hpublic, displayName?]

theorem pairwise_toList (ids : Std.TreeSet Int) : ids.toList.Pairwise (· < ·) :=
  Std.TreeSet.ordered_toList.imp fun {_ _} h => Int.compare_eq_lt.1 h

namespace OwnerCache

theorem contains_eq (cache : OwnerCache) (id : Int) :
    cache.contains id = (cache.get? id).isSome := by
  rw [contains, get?, Std.TreeMap.isSome_getElem?_eq_contains]

theorem mem_owners_iff {cache : OwnerCache} {id : Int} :
    id ∈ cache.owners ↔ (cache.get? id).isSome := by
  rw [← contains_eq, contains, Std.TreeMap.contains_iff_mem]

theorem mem_unresolved {cache : OwnerCache} {id : Int} :
    id ∈ cache.unresolved ↔ id ∈ cache.missed := Std.TreeSet.mem_toList

theorem nodup_unresolved (cache : OwnerCache) : cache.unresolved.Nodup := by
  refine Std.TreeSet.distinct_toList.imp fun {a b} hne heq => hne ?_
  exact Std.LawfulEqCmp.compare_eq_iff_eq.2 heq

theorem mem_missed_insert {cache : OwnerCache} {id other : Int} {owner : Owner} :
    other ∈ (cache.insert id owner).missed ↔ other ≠ id ∧ other ∈ cache.missed := by
  rw [insert, Std.TreeSet.mem_erase, ne_eq, ne_eq, Std.LawfulEqCmp.compare_eq_iff_eq, eq_comm]

theorem mem_missed_remember {cache : OwnerCache} {id other : Int} :
    other ∈ (cache.remember id).missed ↔
      other ∈ cache.missed ∨ other = id ∧ cache.get? id = none := by
  unfold remember
  split
  · next h =>
      rw [mem_owners_iff, Option.isSome_iff_ne_none] at h
      simp [h]
  · next h =>
      rw [mem_owners_iff, Option.not_isSome_iff_eq_none] at h
      rw [Std.TreeSet.mem_insert, Std.LawfulEqCmp.compare_eq_iff_eq]
      simp only [h, and_true]
      rw [or_comm, eq_comm]

theorem reports_eq (cache : OwnerCache) (id : Int) :
    cache.reports id =
      if cache.get? id = none ∧ id ∉ cache.missed then [.unresolvedChangeset id] else [] := by
  unfold reports
  rw [contains_eq]
  cases hget : cache.get? id with
  | some owner => simp
  | none =>
      by_cases hmissed : id ∈ cache.missed
      · simp [hmissed]
      · simp [hmissed]

theorem ascending_unresolved (cache : OwnerCache) : cache.unresolved.Pairwise (· < ·) :=
  pairwise_toList cache.missed

theorem nodup_keys_owners (cache : OwnerCache) : cache.owners.keys.Nodup := by
  refine Std.TreeMap.distinct_keys.imp fun {a b} hne heq => hne ?_
  exact Std.LawfulEqCmp.compare_eq_iff_eq.2 heq

theorem size_eq_length {cache : OwnerCache} {ids : List Int} (hnodup : ids.Nodup)
    (h : ∀ id, id ∈ ids ↔ cache.contains id = true) : cache.size = ids.length := by
  have hperm : cache.owners.keys.Perm ids := by
    rw [List.perm_ext_iff_of_nodup cache.nodup_keys_owners hnodup]
    intro id
    rw [Std.TreeMap.mem_keys, ← Std.TreeMap.contains_iff_mem, h]
    rfl
  rw [size, ← Std.TreeMap.length_keys, hperm.length_eq]

theorem size_eq_of_contains_eq {a b : OwnerCache} (h : ∀ id, a.contains id = b.contains id) :
    a.size = b.size := by
  have hb : b.size = b.owners.keys.length := Std.TreeMap.length_keys.symm
  rw [hb]
  apply size_eq_length b.nodup_keys_owners
  intro id
  rw [Std.TreeMap.mem_keys, ← Std.TreeMap.contains_iff_mem, h]
  rfl

theorem unresolved_eq_of_mem_iff {a b : OwnerCache} (h : ∀ id, id ∈ a.missed ↔ id ∈ b.missed) :
    a.unresolved = b.unresolved :=
  (Std.TreeSet.Equiv.of_forall_mem_iff h).toList_eq

end OwnerCache

end Rollup
