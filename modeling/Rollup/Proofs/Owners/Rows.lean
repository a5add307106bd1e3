import Rollup.Owners
import Rollup.Proofs.Results
import Rollup.Proofs.Store.Queries

namespace Rollup.Owners

open Store (Cell Content Queried Table cell? columnIndex?)

def isFor (owners : Table) (changeset : Int) (cells : List Cell) : Bool :=
  (cell? owners.columns cells "changeset_id").any (Cell.isNumber changeset)

/-- The rows for a changeset, in storage order. -/
def rowsFor (owners : Table) (changeset : Int) : List (List Cell) :=
  owners.rows.filter (isFor owners changeset)

/-- What a row says of the owner of a changeset. -/
structure Says (owners : Table) (cells : List Cell) (changeset : Int) (owner : Owner) : Prop where
  changeset : cell? owners.columns cells "changeset_id" = some (.integer changeset)
  userId : cell? owners.columns cells "user_id" = some (.integer owner.author.uid)
  displayName :
    cell? owners.columns cells "display_name" = some (.text owner.author.displayName.toUTF8)
  isPublic : ∃ n, cell? owners.columns cells "data_public" = some (.integer n) ∧
    (owner.isPublic ↔ n ≠ 0)

/-- There is a row for the changeset. -/
def IsListed (content : Content) (changeset : Int) : Prop :=
  ∃ owners, content.Has "changeset_owners" owners ∧ rowsFor owners changeset ≠ []

/-- Whether the last row for a changeset says that this is its owner, and public. -/
def Discloses (content : Content) (changeset : Int) (author : Author) : Prop :=
  ∃ owners cells, content.Has "changeset_owners" owners ∧
    (rowsFor owners changeset).getLast? = some cells ∧ Says owners cells changeset ⟨author, true⟩

theorem Discloses.isListed {content : Content} {changeset : Int} {author : Author}
    (h : Discloses content changeset author) : IsListed content changeset := by
  obtain ⟨owners, cells, howners, hlast, -⟩ := h
  refine ⟨owners, howners, ?_⟩
  intro hnone
  rw [hnone] at hlast
  cases hlast

/-- Whether the changesets that a column of a table names are all integers, and whatever the rows
for them say of their owners can be read. -/
structure Loadable (content : Content) (name column : String) : Prop where
  changesets : ∃ table index, content.Has name table ∧
    columnIndex? table.columns column = some index ∧
    ∀ cell ∈ table.cellsAt index, ∃ n, cell = .integer n
  owners : ∃ owners, content.Has "changeset_owners" owners ∧
    (∀ name ∈ columns, (columnIndex? owners.columns name).isSome) ∧
    ∀ id, content.HasCell name column (.integer id) → ∀ cells ∈ rowsFor owners id,
      ∃ owner, Says owners cells id owner

theorem isFor_iff_of_cell?_eq {owners : Table} {cells : List Cell} {changeset : Int}
    (h : cell? owners.columns cells "changeset_id" = some (.integer changeset)) (other : Int) :
    isFor owners other cells ↔ changeset = other := by
  rw [isFor, h]
  simp [Cell.isNumber]

theorem Says.isFor_iff {owners : Table} {cells : List Cell} {changeset : Int} {owner : Owner}
    (h : Says owners cells changeset owner) (other : Int) :
    isFor owners other cells ↔ changeset = other :=
  isFor_iff_of_cell?_eq h.changeset other

theorem Says.unique {owners : Table} {cells : List Cell} {changeset : Int} {owner other : Owner}
    (h : Says owners cells changeset owner) (hother : Says owners cells changeset other) :
    owner = other := by
  obtain ⟨n, hn, hpublic⟩ := h.isPublic
  obtain ⟨m, hm, hpublic'⟩ := hother.isPublic
  obtain rfl : n = m := by simpa using hn.symm.trans hm
  have huid : owner.author.uid = other.author.uid := by
    simpa [Int.natCast_inj] using h.userId.symm.trans hother.userId
  have hname : owner.author.displayName = other.author.displayName := by
    simpa [String.toByteArray_inj] using h.displayName.symm.trans hother.displayName
  have hvisible : owner.isPublic = other.isPublic := by rw [Bool.eq_iff_iff, hpublic, hpublic']
  rcases owner with ⟨⟨uid, name⟩, visible⟩
  rcases other with ⟨⟨uid', name'⟩, visible'⟩
  cases huid
  cases hname
  cases hvisible
  rfl

/-- The cells of a row in the columns that are asked for; a cell that is not there is null. -/
def picked (owners : Table) (cells : List Cell) : List Cell :=
  columns.map fun name => (cell? owners.columns cells name).getD .null

theorem findColumns_eq_ok {owners : Table} {statement : String} {offset : Nat}
    {names : List String} {indexes : List Nat}
    (h : findColumns owners statement offset names = .ok indexes) :
    names.map (columnIndex? owners.columns) = indexes.map some := by
  induction names generalizing offset indexes with
  | nil =>
      cases h
      rfl
  | cons name rest ih =>
      obtain ⟨index, hindex, h⟩ := bind_eq_ok.1 h
      obtain ⟨others, hothers, h⟩ := bind_eq_ok.1 h
      cases h
      rw [List.map_cons, List.map_cons, ih hothers]
      rw [Table.column] at hindex
      split at hindex
      · next found hfound =>
          cases hindex
          rw [hfound]
      · cases hindex

theorem findColumns_of_isSome {owners : Table} {names : List String} (statement : String)
    (offset : Nat) (h : ∀ name ∈ names, (columnIndex? owners.columns name).isSome) :
    ∃ indexes, findColumns owners statement offset names = .ok indexes := by
  induction names generalizing offset with
  | nil => exact ⟨[], rfl⟩
  | cons name rest ih =>
      obtain ⟨index, hindex⟩ := Option.isSome_iff_exists.1 (h name List.mem_cons_self)
      obtain ⟨others, hothers⟩ := ih (offset + name.utf8ByteSize + 2) fun other hother =>
        h other (List.mem_cons_of_mem name hother)
      refine ⟨index :: others, ?_⟩
      rw [findColumns, bind_eq_ok]
      refine ⟨index, by rw [Table.column, hindex], ?_⟩
      rw [bind_eq_ok]
      exact ⟨others, hothers, rfl⟩

theorem getD_null_eq_iff {found : Option Cell} {cell : Cell} (h : cell ≠ .null) :
    found.getD .null = cell ↔ found = some cell := by
  cases found with
  | none => simp [h.symm]
  | some other => simp

theorem readRow_eq_ok {names : List String} {owners : Table} {cells : List Cell}
    {entry : Int × Owner} :
    readRow names (picked owners cells) = .ok entry ↔ Says owners cells entry.1 entry.2 := by
  simp only [readRow, picked, columns, List.map_cons, List.map_nil, bind_eq_ok, mapError_eq_ok,
    Cell.integerAt_eq_ok, Cell.textAt_eq_ok, List.getElem?_cons_zero, List.getElem?_cons_succ,
    Option.getD_some, getD_null_eq_iff, ne_eq, reduceCtorEq, not_false_eq_true]
  constructor
  · rintro ⟨id, hid, userId, huser, name, hname, visible, hvisible, h⟩
    split at h
    · cases h
    · next hnonneg =>
        cases h
        refine ⟨hid, ?_, hname, visible, hvisible, by simp⟩
        rw [huser, Int.toNat_of_nonneg (Int.not_lt.1 hnonneg)]
  · rintro ⟨hid, huser, hname, visible, hvisible, hpublic⟩
    refine ⟨_, hid, _, huser, _, hname, visible, hvisible, ?_⟩
    rw [if_neg (Int.not_lt.2 (Int.natCast_nonneg _))]
    have hbool : (visible != 0) = entry.2.isPublic := by
      rw [Bool.eq_iff_iff, hpublic, bne_iff_ne]
    rw [hbool]
    simp

end Rollup.Owners
