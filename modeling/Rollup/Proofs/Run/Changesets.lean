import Rollup.Proofs.Attribution.Lookups
import Rollup.Proofs.Results
import Rollup.Proofs.Store.Queries

namespace Rollup

open Store (Cell Content Table cell? columnIndex? storedRow)

theorem Row.eq_of_requireInteger {row : Row} {column : String} {n : Int}
    (h : row.requireInteger column = .ok n) : row column = .ok (.integer n) := by
  obtain ⟨found, hfound, h⟩ := bind_eq_ok.1 h
  obtain ⟨value, hvalue, hfound⟩ := bind_eq_ok.1 hfound
  rw [hvalue]
  cases value with
  | null =>
      cases hfound
      cases h
  | integer m =>
      cases hfound
      cases h
      rfl
  | text text => cases hfound

theorem requireInteger_of_read {options : Options} {kind : RecordKind} {row : Row}
    {draft : Draft} (h : Draft.read options kind row = .ok draft) :
    row.requireInteger kind.changesetColumn = .ok draft.changeset := by
  cases kind with
  | element kind =>
      obtain ⟨head, hhead, h⟩ := bind_eq_ok.1 h
      cases h
      obtain ⟨id, -, hhead⟩ := bind_eq_ok.1 hhead
      obtain ⟨version, -, hhead⟩ := bind_eq_ok.1 hhead
      obtain ⟨timestamp, -, hhead⟩ := bind_eq_ok.1 hhead
      obtain ⟨changeset, hchangeset, hhead⟩ := bind_eq_ok.1 hhead
      obtain ⟨visible, -, hhead⟩ := bind_eq_ok.1 hhead
      cases hhead
      exact mapError_eq_ok.1 hchangeset
  | changeset =>
      obtain ⟨id, hid, h⟩ := bind_eq_ok.1 h
      obtain ⟨createdAt, -, h⟩ := bind_eq_ok.1 h
      obtain ⟨closedAt, -, h⟩ := bind_eq_ok.1 h
      obtain ⟨numChanges, -, h⟩ := bind_eq_ok.1 h
      obtain ⟨boundingBox?, -, h⟩ := bind_eq_ok.1 h
      obtain ⟨tags, -, h⟩ := bind_eq_ok.1 h
      obtain ⟨comments, -, h⟩ := bind_eq_ok.1 h
      cases h
      exact mapError_eq_ok.1 hid

theorem Store.cell?_of_storedRow {columns : List String} {cells : List Cell} {column : String}
    {n : Int} (h : storedRow columns cells column = .ok (.integer n)) :
    cell? columns cells column = some (.integer n) := by
  rw [storedRow] at h
  split at h
  · next cell hcell =>
      rw [hcell]
      cases cell with
      | integer m =>
          cases h
          rfl
      | null | real x | blob bytes => cases h
      | text bytes =>
          rw [Cell.value] at h
          split at h <;> cases h
  · cases h

section

variable {content : Content} {name : String} {table : Table} {options : Options}
  {kind : RecordKind}

theorem hasCell_of_read (htable : content.Has name table) {row : Row} (hrow : row ∈ table.toRows)
    {draft : Draft} (h : Draft.read options kind row = .ok draft) :
    content.HasCell name kind.changesetColumn (.integer draft.changeset) := by
  obtain ⟨cells, hcells, rfl⟩ := List.mem_map.1 hrow
  have hcell := Store.cell?_of_storedRow (Row.eq_of_requireInteger (requireInteger_of_read h))
  obtain ⟨index, hindex, hcell⟩ := Option.bind_eq_some_iff.1 hcell
  refine ⟨table, index, htable, hindex, List.mem_map.2 ⟨cells, hcells, ?_⟩⟩
  rw [hcell]
  rfl

theorem mem_lookUps_iff (htable : content.Has name table)
    (hread : ∀ row ∈ table.toRows, ∃ draft, Draft.read options kind row = .ok draft) (id : Int) :
    id ∈ table.toRows.filterMap (lookUp? options kind) ↔
      content.HasCell name kind.changesetColumn (.integer id) := by
  rw [List.mem_filterMap]
  constructor
  · rintro ⟨row, hrow, hlookUp⟩
    obtain ⟨draft, hdraft, rfl⟩ := lookUp?_eq_some.1 hlookUp
    exact hasCell_of_read htable hrow hdraft
  · rintro ⟨other, index, hother, hindex, hcell⟩
    obtain rfl := htable.unique hother
    obtain ⟨cells, hcells, hcell⟩ := List.mem_map.1 hcell
    have hrow : storedRow table.columns cells ∈ table.toRows := List.mem_map_of_mem hcells
    obtain ⟨draft, hdraft⟩ := hread _ hrow
    refine ⟨_, hrow, ?_⟩
    have hfound := Store.cell?_of_storedRow
      (Row.eq_of_requireInteger (requireInteger_of_read hdraft))
    rw [cell?, hindex] at hfound
    change cells[index]? = some _ at hfound
    rw [hfound, Option.getD_some, Cell.integer.injEq] at hcell
    exact lookUp?_eq_some.2 ⟨draft, hdraft, hcell⟩

end

end Rollup
