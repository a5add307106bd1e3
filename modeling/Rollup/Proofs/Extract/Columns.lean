import Rollup.Extract.Children
import Rollup.Proofs.ArrayLiteral.Numbers
import Rollup.Proofs.Results

namespace Rollup

open ArrayLiteral (Item Rendering items)

namespace Parallel

variable {α : Type} {n : Nat}

theorem transpose_map (fs : Vector (α → Item) n) (xs : List α) :
    transpose (fs.map fun f => xs.map f) xs.length = xs.map fun x => fs.map fun f => f x := by
  induction xs with
  | nil => rfl
  | cons x xs ih =>
      rw [List.length_cons, transpose, List.map_cons, Vector.map_map, Vector.map_map]
      exact congrArg (_ :: ·) ih

theorem transpose_of_projections {lists : Vector (List Item) n} {positions : List (Vector Item n)}
    (h : ∀ i (hi : i < n), lists[i] = positions.map (·[i])) :
    transpose lists positions.length = positions := by
  induction positions generalizing lists with
  | nil => rfl
  | cons items positions ih =>
      rw [List.length_cons, transpose]
      congr 1
      · ext i hi
        rw [Vector.getElem_map, h i hi]
        rfl
      · apply ih
        intro i hi
        rw [Vector.getElem_map, h i hi]
        rfl

theorem map_getElem_transpose {lists : Vector (List Item) n} {length i : Nat} (hi : i < n)
    (hlength : lists[i].length = length) : (transpose lists length).map (·[i]) = lists[i] := by
  induction length generalizing lists with
  | zero => rw [transpose, List.map_nil, List.length_eq_zero_iff.1 hlength]
  | succ length ih =>
      obtain ⟨item, others, hlist⟩ := List.exists_cons_of_length_eq_add_one hlength
      have htail : (lists.map List.tail)[i].length = length := by
        rw [Vector.getElem_map, List.length_tail, hlength, Nat.add_sub_cancel]
      rw [transpose, List.map_cons, ih htail, Vector.getElem_map, Vector.getElem_map, hlist]
      rfl

theorem literals_eq_ok {row : Row} {columns texts : Vector String n}
    (h : ∀ i (hi : i < n), row columns[i] = .ok (.text texts[i])) :
    literals row columns = .ok texts := by
  apply vector_mapM_eq_ok.2
  ext i hi
  simp only [Vector.getElem_map, Row.text, h i hi]
  rfl

theorem elements_eq_ok {column literal : String} {list : List Item} :
    elements column literal = .ok list ↔ items literal .keep = .ok list := mapError_eq_ok

theorem mapM_elements_eq_ok {columns texts : Vector String n} {lists : Vector (List Item) n} :
    (columns.zip texts).mapM (fun (column, literal) => elements column literal) = .ok lists ↔
      ∀ i (hi : i < n), items texts[i] .keep = .ok lists[i] := by
  rw [vector_mapM_eq_ok, Vector.ext_iff]
  simp only [Vector.getElem_map, Vector.getElem_zip, elements_eq_ok]

theorem read_of_lists {row : Row} {columns texts : Vector String n}
    {lists : Vector (List Item) n} {length : Nat} (hn : n ≠ 0)
    (htexts : literals row columns = .ok texts)
    (hlists : ∀ i (hi : i < n), items texts[i] .keep = .ok lists[i])
    (hlength : ∀ i (hi : i < n), lists[i].length = length) :
    read row columns = .ok (transpose lists length) := by
  have hlengths : lists.toList.map List.length = List.replicate n length := by
    apply List.ext_getElem
    · simp
    · intro i hi _
      simpa using hlength i (by simpa using hi)
  rw [read, bind_eq_ok]
  refine ⟨texts, htexts, ?_⟩
  rw [bind_eq_ok]
  refine ⟨lists, mapM_elements_eq_ok.2 hlists, ?_⟩
  obtain ⟨n, rfl⟩ := Nat.exists_eq_succ_of_ne_zero hn
  simp only [hlengths, List.replicate_succ, List.headD_cons]
  rw [if_pos (by simp)]

theorem read_of_elements {row : Row} {columns texts : Vector String n}
    {lists : Vector (List Item) n} {length : Nat} (hn : n ≠ 0)
    (htexts : ∀ i (hi : i < n), row columns[i] = .ok (.text texts[i]))
    (hlists : ∀ i (hi : i < n), elements columns[i] texts[i] = .ok lists[i])
    (hlength : ∀ i (hi : i < n), lists[i].length = length) :
    read row columns = .ok (transpose lists length) :=
  read_of_lists hn (literals_eq_ok htexts) (fun i hi => elements_eq_ok.1 (hlists i hi)) hlength

theorem exists_lists_of_read_eq_ok {row : Row} {columns : Vector String n}
    {positions : List (Vector Item n)} (h : read row columns = .ok positions) :
    ∃ (texts : Vector String n) (lists : Vector (List Item) n) (length : Nat),
      (∀ i (hi : i < n), ∃ literal?, row.text columns[i] = .ok literal? ∧
        texts[i] = literal?.getD "") ∧
      (∀ i (hi : i < n), elements columns[i] texts[i] = .ok lists[i]) ∧
      (∀ i (hi : i < n), lists[i].length = length) ∧ positions = transpose lists length := by
  obtain ⟨texts, htexts, h⟩ := bind_eq_ok.1 h
  obtain ⟨lists, hlists, h⟩ := bind_eq_ok.1 h
  dsimp only at h
  split at h
  · next hlengths =>
      cases h
      refine ⟨texts, lists, _, ?_, ?_, ?_, rfl⟩
      · intro i hi
        have hcolumn := congrArg (·[i]) (vector_mapM_eq_ok.1 htexts)
        simp only [Vector.getElem_map] at hcolumn
        have hread := mapError_eq_ok.1 hcolumn
        cases hliteral : row.text columns[i] with
        | error fault =>
            rw [hliteral] at hread
            cases hread
        | ok literal? =>
            rw [hliteral] at hread
            exact ⟨literal?, rfl, (Except.ok.inj hread).symm⟩
      · intro i hi
        have hcolumn := congrArg (·[i]) (vector_mapM_eq_ok.1 hlists)
        simpa only [Vector.getElem_map, Vector.getElem_zip] using hcolumn
      · intro i hi
        have hall := List.all_eq_true.1 hlengths lists[i].length
          (List.mem_map_of_mem (Vector.mem_toList_iff.2 (Vector.getElem_mem hi)))
        exact of_decide_eq_true hall
  · cases h

theorem read_of_renderings (row : Row) (columns : Vector String n) (hn : n ≠ 0)
    (fs : Vector (α → Rendering) n) (xs : List α)
    (h : ∀ i (hi : i < n), row columns[i] = .ok (.text (Rendering.literal (xs.map fs[i])))) :
    read row columns = .ok (xs.map fun x => fs.map fun f => (f x).item .keep) := by
  have htranspose := transpose_map (fs.map fun f x => (f x).item .keep) xs
  simp only [Vector.map_map, Function.comp_def] at htranspose
  have htexts : ∀ i (hi : i < n), row columns[i] =
      .ok (.text (fs.map fun f => Rendering.literal (xs.map f))[i]) := by
    intro i hi
    rw [h i hi, Vector.getElem_map]
  rw [← htranspose]
  apply read_of_elements hn htexts
  · intro i hi
    rw [elements, Vector.getElem_map, Vector.getElem_map, Rendering.items_literal .keep _ (by simp),
      List.map_map]
    rfl
  · intro i hi
    rw [Vector.getElem_map, List.length_map]

end Parallel

end Rollup
