import Mathlib
import Rollup.Proofs.Row.Columns
import Rollup.Proofs.Text.Bytes
import Rollup.Row.Memory
import Rollup.Store.Basic

namespace Rollup

namespace Store

/-- The value in a cell; there is none in a real number, a blob or a text that is not UTF-8. -/
def Cell.value? : Cell → Option Value
  | .null => some .null
  | .integer n => some (.integer n)
  | .text bytes => (String.fromUTF8? bytes).map .text
  | .real _ | .blob _ => none

theorem Cell.value?_text (content : String) :
    (Cell.text content.toUTF8).value? = some (.text content) :=
  Option.map_eq_some_iff.2 ⟨content, Text.fromUTF8?_eq_some.2 rfl, rfl⟩

theorem Cell.value_eq_ok {cell : Cell} {value : Value} (h : cell.value? = some value)
    (column : String) : cell.value column = .ok value := by
  cases cell with
  | null => cases h; rfl
  | integer n => cases h; rfl
  | real x => cases h
  | blob bytes => cases h
  | text bytes =>
      obtain ⟨content, hcontent, rfl⟩ := Option.map_eq_some_iff.1 h
      rw [Cell.value, hcontent]

/-- A table of values, row by row. -/
def Table.Holds (table : Table) (values : List (List Value)) : Prop :=
  List.Forall₂ (fun cells row => cells.map Cell.value? = row.map some) table.rows values

/-- No two columns have the same name. -/
def Table.IsUnambiguous (table : Table) : Prop := (table.columns.map String.toLower).Nodup

theorem cell?_eq_find? (columns : List String) (cells : List Cell) (column : String) :
    cell? columns cells column =
      ((columns.zip cells).find? fun entry => SameName entry.1 column).map Prod.snd := by
  induction columns generalizing cells with
  | nil => rfl
  | cons name columns ih =>
      cases cells with
      | nil => simp [cell?]
      | cons cell cells =>
          rw [cell?, columnIndex?, List.findIdx?_cons, List.zip_cons_cons, List.find?_cons]
          split
          · next h => simp [h]
          · next h =>
              rw [Bool.not_eq_true] at h
              rw [h, ← ih, cell?, columnIndex?, Option.bind_map]
              rfl

end Store

/-- The values that a row holds under names in lower case. -/
def MemoryRow.lowered (columns : List String) (values : List Value) : MemoryRow :=
  .ofList ((columns.map String.toLower).zip values)

theorem MemoryRow.columns_foldl_set (row : MemoryRow) (entries : List (String × Value))
    (h : (row.columns.map Prod.fst ++ entries.map Prod.fst).Nodup) :
    (entries.foldl (fun row entry => row.set entry.1 entry.2) row).columns =
      row.columns ++ entries := by
  induction entries generalizing row with
  | nil => exact (List.append_nil _).symm
  | cons entry entries ih =>
      have hset : (row.set entry.1 entry.2).columns = row.columns ++ [entry] := by
        rw [set, erase, List.filter_eq_self.2]
        intro other hother
        rw [decide_eq_true_eq]
        intro heq
        rw [List.nodup_append] at h
        exact h.2.2 other.1 (List.mem_map_of_mem hother) entry.1 List.mem_cons_self heq
      rw [List.foldl_cons, ih, hset, List.append_assoc]
      · rfl
      · rw [hset, List.map_append, List.append_assoc]
        exact h

theorem MemoryRow.columns_ofList {entries : List (String × Value)}
    (h : (entries.map Prod.fst).Nodup) : (ofList entries).columns = entries :=
  columns_foldl_set {} entries h

theorem MemoryRow.columns_lowered {columns : List String} (h : (columns.map String.toLower).Nodup)
    (values : List Value) :
    (lowered columns values).columns = (columns.map String.toLower).zip values := by
  apply columns_ofList
  rw [List.zip_eq_zip_take_min, List.map_fst_zip (by simp)]
  exact h.sublist (List.take_sublist _ _)

theorem lookup_eq_find? {α : Type} (entries : List (String × α)) (column : String) :
    entries.lookup column = (entries.find? fun entry => entry.1 = column).map Prod.snd := by
  induction entries with
  | nil => rfl
  | cons entry entries ih =>
      rw [List.lookup_cons, List.find?_cons, ih]
      by_cases h : entry.1 = column
      · simp [h]
      · have hbeq : (column == entry.1) = false := beq_false_of_ne (Ne.symm h)
        simp [h, hbeq]

namespace Store

theorem lookup_zip_lowered (columns : List String) {cells : List Cell} {values : List Value}
    {column : String} (hcells : cells.map Cell.value? = values.map some)
    (hlower : column.toLower = column) :
    ((columns.map String.toLower).zip values).lookup column =
      (cell? columns cells column).bind Cell.value? := by
  rw [cell?_eq_find?, lookup_eq_find?]
  induction columns generalizing cells values with
  | nil => rfl
  | cons name columns ih =>
      cases cells with
      | nil =>
          rw [List.map_eq_nil_iff.1 hcells.symm]
          rfl
      | cons cell cells =>
          cases values with
          | nil => cases hcells
          | cons value values =>
              obtain ⟨hcell, hrest⟩ := List.cons.inj hcells
              rw [List.map_cons, List.zip_cons_cons, List.zip_cons_cons, List.find?_cons,
                List.find?_cons]
              by_cases hname : name.toLower = column
              · simp [SameName, hname, hlower, hcell]
              · simpa [SameName, hname, hlower] using ih hrest

theorem agreeOn_lowered {columns wanted : List String} {cells : List Cell} {values : List Value}
    (hdistinct : (columns.map String.toLower).Nodup)
    (hcells : cells.map Cell.value? = values.map some)
    (hlower : ∀ column ∈ wanted, column.toLower = column) :
    Row.AgreeOn wanted (storedRow columns cells) (MemoryRow.lowered columns values).toRow := by
  intro column hcolumn
  have hlookup := lookup_zip_lowered columns hcells (hlower column hcolumn)
  rw [storedRow, MemoryRow.toRow, MemoryRow.columns_lowered hdistinct, hlookup]
  cases hcell : cell? columns cells column with
  | none => rfl
  | some cell =>
      -- The cell is one of the row's, and each of these holds a value.
      have hmem : cell.value? ∈ cells.map Cell.value? := by
        obtain ⟨index, -, hindex⟩ := Option.bind_eq_some_iff.1 hcell
        exact List.mem_map_of_mem (List.mem_of_getElem? hindex)
      rw [hcells] at hmem
      obtain ⟨value, -, hvalue⟩ := List.mem_map.1 hmem
      rw [Option.bind_some, ← hvalue]
      exact Cell.value_eq_ok hvalue.symm column

theorem columnIndex?_eq (columns : List String) (column : String) :
    columnIndex? columns column =
      (columns.map String.toLower).findIdx? fun name => name = column.toLower := by
  rw [List.findIdx?_map]
  rfl

theorem storedRow_congr {columns others : List String}
    (h : columns.map String.toLower = others.map String.toLower) (cells : List Cell) :
    storedRow columns cells = storedRow others cells := by
  funext column
  rw [storedRow, storedRow, cell?, cell?, columnIndex?_eq, columnIndex?_eq, h]

end Store

theorem RecordKind.toLower_of_mem_columns {kind : RecordKind} {column : String}
    (h : column ∈ kind.columns) : column.toLower = column := by
  have hall : ∀ kind ∈ RecordKind.all, ∀ column ∈ kind.columns, column.toLower = column := by
    decide +kernel
  refine hall kind ?_ column h
  rcases kind with ⟨_ | _ | _⟩ | _ <;> decide

/-- What is held in the columns of a kind, the case of ASCII letters in their names apart. -/
def RecordKind.entries {α : Type} (kind : RecordKind) (held : List (String × α)) :
    List (String × α) :=
  held.filter fun entry => kind.columns.any fun column => Store.SameName entry.1 column

theorem RecordKind.entries_append {α : Type} {kind : RecordKind} (held : List (String × α))
    {others : List (String × α)} (h : kind.entries others = []) :
    kind.entries (held ++ others) = kind.entries held := by
  rw [entries, List.filter_append]
  exact (congrArg (_ ++ ·) h).trans (List.append_nil _)

theorem RecordKind.find?_entries {α : Type} {kind : RecordKind} (held : List (String × α))
    {p : String × α → Bool}
    (hp : ∀ entry, p entry → ∃ column ∈ kind.columns, Store.SameName entry.1 column) :
    (kind.entries held).find? p = held.find? p := by
  rw [entries, List.find?_filter]
  congr 1
  funext entry
  by_cases h : p entry
  · have hkept : kind.columns.any fun column => Store.SameName entry.1 column := by
      simpa [List.any_eq_true] using hp entry h
    simp [h, hkept]
  · simp [h]

theorem Store.agreeOn_of_entries {kind : RecordKind} {columns others : List String}
    {cells otherCells : List Cell}
    (h : kind.entries (columns.zip cells) = kind.entries (others.zip otherCells)) :
    Row.AgreeOn kind.columns (storedRow columns cells) (storedRow others otherCells) := by
  intro column hcolumn
  have hcell : cell? columns cells column = cell? others otherCells column := by
    have hp : ∀ entry : String × Cell, decide (SameName entry.1 column) →
        ∃ column ∈ kind.columns, SameName entry.1 column :=
      fun entry hentry => ⟨column, hcolumn, of_decide_eq_true hentry⟩
    rw [cell?_eq_find?, cell?_eq_find?, ← kind.find?_entries _ hp, h, kind.find?_entries _ hp]
  rw [storedRow, storedRow, hcell]

theorem MemoryRow.agreeOn_of_entries {kind : RecordKind} {row other : MemoryRow}
    (h : kind.entries row.columns = kind.entries other.columns) :
    Row.AgreeOn kind.columns row.toRow other.toRow := by
  intro column hcolumn
  have hp : ∀ entry : String × Value, decide (entry.1 = column) →
      ∃ column ∈ kind.columns, Store.SameName entry.1 column :=
    fun entry hentry => ⟨column, hcolumn, congrArg String.toLower (of_decide_eq_true hentry)⟩
  rw [toRow, toRow, lookup_eq_find?, lookup_eq_find?, ← kind.find?_entries _ hp, h,
    kind.find?_entries _ hp]

variable {σ : Type}

open Store (Table)

/-- An extraction does not depend on where its rows come from. A stored table of values gives the
same as rows of these values in memory under the names of the columns in lower case; the case of
ASCII letters in the names of stored columns does not count; and rows of either sort may differ in
whatever columns have other names than those of the kind. -/
theorem extract_of_source (request : Request σ) (failure : Option String) (target : σ)
    (cache : OwnerCache) :
    (∀ (table : Table) (values : List (List Value)), table.Holds values → table.IsUnambiguous →
      extract request ⟨table.toRows, failure⟩ target cache =
        extract request
          ⟨values.map fun row => (MemoryRow.lowered table.columns row).toRow, failure⟩
          target cache) ∧
    (∀ (rows : List (List Store.Cell)) (columns others : List String),
      columns.map String.toLower = others.map String.toLower →
      extract request ⟨(Table.mk columns rows).toRows, failure⟩ target cache =
        extract request ⟨(Table.mk others rows).toRows, failure⟩ target cache) ∧
    (∀ table other : Table,
      List.Forall₂ (fun cells otherCells => request.kind.entries (table.columns.zip cells) =
        request.kind.entries (other.columns.zip otherCells)) table.rows other.rows →
      extract request ⟨table.toRows, failure⟩ target cache =
        extract request ⟨other.toRows, failure⟩ target cache) ∧
    ∀ rows others : List MemoryRow,
      List.Forall₂ (fun row other => request.kind.entries row.columns =
        request.kind.entries other.columns) rows others →
      extract request ⟨rows.map MemoryRow.toRow, failure⟩ target cache =
        extract request ⟨others.map MemoryRow.toRow, failure⟩ target cache := by
  refine ⟨?_, ?_, ?_, ?_⟩
  · intro table values hholds hdistinct
    apply extract_congr
    rw [Table.toRows, List.forall₂_map_left_iff, List.forall₂_map_right_iff]
    refine hholds.imp fun cells row hrow => ?_
    exact Store.agreeOn_lowered hdistinct hrow fun _ => RecordKind.toLower_of_mem_columns
  · intro rows columns others h
    simp only [Table.toRows, funext (Store.storedRow_congr h)]
  · intro table other h
    apply extract_congr
    rw [Table.toRows, Table.toRows, List.forall₂_map_left_iff, List.forall₂_map_right_iff]
    exact h.imp fun _ _ => Store.agreeOn_of_entries
  · intro rows others h
    apply extract_congr
    rw [List.forall₂_map_left_iff, List.forall₂_map_right_iff]
    exact h.imp fun _ _ => MemoryRow.agreeOn_of_entries

/-- A way stored under names in mixed case, beside a user of its own and a blob, is extracted as a
plain way in memory that has a name of its own. -/
theorem extract_of_source_way :
    let request : Request Recorder :=
      { kind := .element .way, announce := true, formatter := Recorder.take }
    let cache := OwnerCache.ofList [(7, ⟨⟨1, "alice"⟩, false⟩)]
    let columns := ["Id", "VERSION", "timestamp", "Changeset_ID", "visible", "tag_k", "tag_v",
      "node_ids"]
    let stored (text : String) : Store.Cell := .text text.toUTF8
    let cells := [.integer 5, .integer 1, stored "2024-01-01T00:00:00Z", .integer 7, .integer 1,
      stored MemoryRow.emptyArray, stored MemoryRow.emptyArray, stored MemoryRow.emptyArray]
    let table : Table := ⟨columns ++ ["Uid", "photo"], [cells ++ [.integer 9, .blob ⟨#[0xFF]⟩]]⟩
    let row : MemoryRow := ⟨(MemoryRow.way 5 7).columns ++ [("display_name", .text "bob")]⟩
    extract request { rows := table.toRows } {} cache =
      extract request { rows := [row.toRow] } {} cache := by
  intro request cache columns stored cells table row
  obtain ⟨hmemory, hcase, hstored, hrows⟩ := extract_of_source request none {} cache
  let lower := ["id", "version", "timestamp", "changeset_id", "visible", "tag_k", "tag_v",
    "node_ids"]
  let values : List Value := [.integer 5, .integer 1, .text "2024-01-01T00:00:00Z", .integer 7,
    .integer 1, .text MemoryRow.emptyArray, .text MemoryRow.emptyArray,
    .text MemoryRow.emptyArray]
  have hlower : lower.map String.toLower = lower := by cbv
  have hdistinct : (Table.mk lower [cells]).IsUnambiguous := by
    rw [Table.IsUnambiguous, hlower]
    decide
  have hholds : (Table.mk lower [cells]).Holds [values] := by
    refine .cons ?_ .nil
    simp only [cells, stored, values, List.map_cons, List.map_nil, Store.Cell.value?_text]
    rfl
  have hway : MemoryRow.lowered lower values = MemoryRow.way 5 7 := by cbv
  calc extract request { rows := table.toRows } {} cache
      = extract request { rows := (Table.mk columns [cells]).toRows } {} cache := by
        refine hstored table ⟨columns, [cells]⟩ (.cons ?_ .nil)
        have hzip : table.columns.zip (cells ++ [.integer 9, .blob ⟨#[0xFF]⟩]) =
            columns.zip cells ++ [("Uid", .integer 9), ("photo", .blob ⟨#[0xFF]⟩)] := rfl
        rw [hzip]
        exact RecordKind.entries_append _ (by cbv)
    _ = extract request { rows := (Table.mk lower [cells]).toRows } {} cache :=
        hcase [cells] columns lower (by cbv)
    _ = extract request { rows := [(MemoryRow.lowered lower values).toRow] } {} cache :=
        hmemory ⟨lower, [cells]⟩ [values] hholds hdistinct
    _ = extract request { rows := [row.toRow] } {} cache := by
        refine hrows [.lowered lower values] [row] (.cons ?_ .nil)
        rw [hway]
        exact (RecordKind.entries_append _ (by cbv)).symm

end Rollup
