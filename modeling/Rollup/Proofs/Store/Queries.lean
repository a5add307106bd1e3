import Rollup.Proofs.Results
import Rollup.Proofs.Text.Bytes
import Rollup.Store.Database

namespace Rollup.Store

theorem Cell.integerAt_eq_ok {cell : Cell} {index : Nat} {column : String} {n : Int} :
    cell.integerAt index column = .ok n ↔ cell = .integer n := by
  cases cell with
  | integer m => simp [integerAt]
  | null | real x | text bytes | blob bytes => simp [integerAt]

theorem Cell.textAt_eq_ok {cell : Cell} {index : Nat} {column text : String} :
    cell.textAt index column = .ok text ↔ cell = .text text.toUTF8 := by
  cases cell with
  | text bytes =>
      rw [textAt, mapError_eq_ok, Text.decodeUtf8, Cell.text.injEq, ← Text.fromUTF8?_eq_some]
      cases String.fromUTF8? bytes <;> simp
  | null | integer n | real x | blob bytes => simp [textAt]

/-- A cell of a type that is no number. -/
def Cell.IsNoNumber (cell : Cell) : Prop :=
  cell.type = .null ∨ cell.type = .text ∨ cell.type = .blob

theorem Cell.isNumber_eq_false {cell : Cell} (h : cell.IsNoNumber) (n : Int) :
    cell.isNumber n = false := by
  cases cell with
  | integer m => simp [IsNoNumber, type] at h
  | real x => simp [IsNoNumber, type] at h
  | null | text bytes | blob bytes => rfl

theorem Cell.integerAt_of_isNoNumber {cell : Cell} (h : cell.IsNoNumber) (index : Nat)
    (column : String) : ∃ fault, cell.integerAt index column = .error fault := by
  cases cell with
  | integer m => simp [IsNoNumber, type] at h
  | real x => simp [IsNoNumber, type] at h
  | null | text bytes | blob bytes => exact ⟨_, rfl⟩

section

variable {column : String} {seen : List Int} {cell : Cell} {cells : List Cell}

theorem distinctIntegers_of_isNoNumber (hmem : cell ∈ cells) (h : cell.IsNoNumber) :
    ∃ fault, distinctIntegers column seen cells = .error fault := by
  induction cells generalizing seen with
  | nil => cases hmem
  | cons first rest ih =>
      rw [distinctIntegers]
      rcases List.mem_cons.1 hmem with rfl | hrest
      · obtain ⟨fault, hfault⟩ := Cell.integerAt_of_isNoNumber h 0 column
        simp [Cell.isNumber_eq_false h, hfault, bind, Except.bind]
      · split
        · exact ih hrest
        · cases first.integerAt 0 column with
          | error fault => exact ⟨fault, rfl⟩
          | ok n =>
              obtain ⟨fault, hfault⟩ := @ih (n :: seen) hrest
              exact ⟨fault, by simp [hfault, bind, Except.bind]⟩

theorem distinctIntegers_of_integers (h : ∀ cell ∈ cells, ∃ n, cell = .integer n) :
    ∃ integers, distinctIntegers column seen cells = .ok integers := by
  induction cells generalizing seen with
  | nil => exact ⟨[], rfl⟩
  | cons first rest ih =>
      have hrest : ∀ cell ∈ rest, ∃ n, cell = .integer n :=
        fun cell hcell => h cell (List.mem_cons_of_mem first hcell)
      obtain ⟨n, rfl⟩ := h first List.mem_cons_self
      rw [distinctIntegers]
      split
      · exact ih hrest
      · obtain ⟨integers, hintegers⟩ := @ih (n :: seen) hrest
        exact ⟨n :: integers, by simp [Cell.integerAt, hintegers, bind, Except.bind]⟩

theorem mem_distinctIntegers {integers : List Int}
    (h : distinctIntegers column seen cells = .ok integers) (n : Int) :
    (n ∈ integers → .integer n ∈ cells) ∧ (.integer n ∈ cells → n ∈ integers ∨ n ∈ seen) := by
  induction cells generalizing seen integers with
  | nil =>
      cases h
      simp
  | cons first rest ih =>
      rw [distinctIntegers] at h
      split at h
      · next hseen =>
          -- The first cell is left out, which loses nothing since its number came before.
          obtain ⟨hin, hout⟩ := ih h
          refine ⟨fun hn => List.mem_cons_of_mem first (hin hn), fun hn => ?_⟩
          rcases List.mem_cons.1 hn with rfl | hrest
          · simp only [Cell.isNumber, List.any_beq] at hseen
            exact .inr (by simpa using hseen)
          · exact hout hrest
      · cases hfirst : first.integerAt 0 column with
        | error fault => simp [hfirst, bind, Except.bind] at h
        | ok m =>
            obtain rfl := Cell.integerAt_eq_ok.1 hfirst
            cases hrest : distinctIntegers column (m :: seen) rest with
            | error fault => simp [hfirst, hrest, bind, Except.bind] at h
            | ok others =>
                simp only [hfirst, hrest, bind, Except.bind, Except.ok.injEq] at h
                subst h
                obtain ⟨hin, hout⟩ := ih hrest
                rw [List.mem_cons, List.mem_cons, Cell.integer.injEq]
                rw [List.mem_cons] at hout
                grind

end

namespace Content

variable {content : Content} {name : String}

/-- The content has a table under a name, whatever statement asks for it. -/
def Has (content : Content) (name : String) (table : Table) : Prop :=
  ∀ statement, content.table statement name = .ok table

theorem has_of_table_eq_ok {statement : String} {table : Table}
    (h : content.table statement name = .ok table) : content.Has name table := by
  intro other
  unfold Content.table at h ⊢
  split at h
  · cases h
  · next hreserved =>
      rw [if_neg hreserved]
      cases content with
      | unreadable cause => cases h
      | database found => exact h

theorem Has.unique {table other : Table} (h : content.Has name table)
    (hother : content.Has name other) : table = other :=
  Except.ok.inj ((h "").symm.trans (hother ""))

/-- Some row of a table has a cell in a column, where a cell that is not there is null. -/
def HasCell (content : Content) (name column : String) (cell : Cell) : Prop :=
  ∃ table index, content.Has name table ∧ columnIndex? table.columns column = some index ∧
    cell ∈ table.cellsAt index

variable {column : String}

theorem distinct_eq {table : Table} {index : Nat} (htable : content.Has name table)
    (hindex : columnIndex? table.columns column = some index) :
    content.distinct column name =
      distinctIntegers (table.columns[index]?.getD column) [] (table.cellsAt index) := by
  simp only [distinct, htable _, Table.column, hindex, bind, Except.bind]

theorem distinct_of_isNoNumber {cell : Cell} (hcell : content.HasCell name column cell)
    (h : cell.IsNoNumber) : ∃ fault, content.distinct column name = .error fault := by
  obtain ⟨table, index, htable, hindex, hmem⟩ := hcell
  rw [distinct_eq htable hindex]
  exact distinctIntegers_of_isNoNumber hmem h

theorem exists_of_distinct_eq_ok {integers : List Int}
    (h : content.distinct column name = .ok integers) :
    ∃ table index, content.Has name table ∧ columnIndex? table.columns column = some index := by
  unfold distinct at h
  cases htable : content.table ("SELECT DISTINCT " ++ column ++ " FROM " ++ name) name with
  | error fault => simp [htable, bind, Except.bind] at h
  | ok table =>
      cases hindex : columnIndex? table.columns column with
      | none => simp [htable, Table.column, hindex, bind, Except.bind] at h
      | some index => exact ⟨table, index, has_of_table_eq_ok htable, hindex⟩

theorem mem_distinct {integers : List Int} (h : content.distinct column name = .ok integers)
    (n : Int) : n ∈ integers ↔ content.HasCell name column (.integer n) := by
  obtain ⟨table, index, htable, hindex⟩ := exists_of_distinct_eq_ok h
  rw [distinct_eq htable hindex] at h
  obtain ⟨hin, hout⟩ := mem_distinctIntegers h n
  constructor
  · intro hn
    exact ⟨table, index, htable, hindex, hin hn⟩
  · rintro ⟨other, place, hother, hplace, hmem⟩
    obtain rfl := htable.unique hother
    rw [hindex] at hplace
    cases hplace
    exact (hout hmem).resolve_right List.not_mem_nil

end Content

end Rollup.Store
