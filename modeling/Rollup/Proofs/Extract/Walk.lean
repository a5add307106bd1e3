import Rollup.Extract.Parallel
import Rollup.Proofs.ArrayLiteral.Calls
import Rollup.Proofs.Results

namespace Rollup

open ArrayLiteral (Item Scanner)

namespace ArrayLiteral.Scanner

theorem next_of_toList {s : Scanner} {list : List Item} (h : s.toList = list.map .ok) :
    s.next.1 = list.head?.map .ok ∧ s.next.2.toList = list.tail.map .ok := by
  rw [toList_eq] at h
  cases hnext : s.next.1 with
  | none =>
      rw [hnext] at h
      rw [List.map_eq_nil_iff.1 h.symm]
      exact ⟨rfl, toList_next_of_none hnext⟩
  | some reading =>
      rw [hnext] at h
      cases list with
      | nil => cases h
      | cons item rest =>
          obtain ⟨rfl, hrest⟩ := List.cons.inj h
          exact ⟨rfl, hrest⟩

end ArrayLiteral.Scanner

namespace Parallel

variable {n : Nat}

theorem head?_transpose (lists : Vector (List Item) n) (length : Nat) :
    (transpose lists length).head? =
      if length = 0 then none else some (lists.map fun list => list.headD .absent) := by
  cases length <;> rfl

theorem tail_transpose (lists : Vector (List Item) n) (length : Nat) :
    (transpose lists length).tail = transpose (lists.map List.tail) (length - 1) := by
  cases length <;> rfl

namespace Walk

theorem advance_of_toList (column : String) {s : Scanner} {list : List Item}
    (h : s.toList = list.map .ok) : advance column s = .ok (list.head?, s.next.2) := by
  have hfirst := (Scanner.next_of_toList h).1
  rw [advance]
  rcases hnext : s.next with ⟨reading?, rest⟩
  rw [hnext] at hfirst
  cases list <;> cases hfirst <;> rfl

/-- The elements that are still to come in each column. -/
def IsBefore (walk : Walk n) (lists : Vector (List Item) n) : Prop :=
  ∀ i (hi : i < n), walk.scanners[i].toList = lists[i].map .ok

theorem exists_steps {walk : Walk n} {lists : Vector (List Item) n} (h : walk.IsBefore lists) :
    ∃ steps, (walk.columns.zip walk.scanners).mapM (fun (column, s) => advance column s) =
        .ok steps ∧
      ∀ i (hi : i < n), steps[i] = (lists[i].head?, walk.scanners[i].next.2) := by
  refine ⟨(lists.zip walk.scanners).map fun column => (column.1.head?, column.2.next.2), ?_, ?_⟩
  · apply vector_mapM_eq_ok.2
    ext i hi
    simp only [Vector.getElem_map, Vector.getElem_zip]
    exact advance_of_toList walk.columns[i] (h i hi)
  · intro i hi
    simp only [Vector.getElem_map, Vector.getElem_zip]

theorem next_of_isBefore {walk : Walk (n + 1)} {lists : Vector (List Item) (n + 1)} {length : Nat}
    (h : walk.IsBefore lists) (hlength : ∀ i (hi : i < n + 1), lists[i].length = length) :
    ∃ rest, walk.next = .ok ((transpose lists length).head?, rest) ∧
      rest.IsBefore (lists.map List.tail) := by
  obtain ⟨steps, hsteps, hstep⟩ := exists_steps h
  refine ⟨{ walk with scanners := steps.map Prod.snd }, ?_, ?_⟩
  · have hended : steps.any (fun step => step.1.isNone) ↔ length = 0 := by
      simp only [Vector.any_eq_true, Option.isNone_iff_eq_none]
      constructor
      · rintro ⟨i, hi, hnone⟩
        rw [hstep i hi, List.head?_eq_none_iff] at hnone
        rw [← hlength i hi, hnone, List.length_nil]
      · rintro rfl
        have hfirst := hlength 0 (Nat.zero_lt_succ n)
        refine ⟨0, Nat.zero_lt_succ n, ?_⟩
        rw [hstep, List.head?_eq_none_iff, List.length_eq_zero_iff.1 hfirst]
    have hheads : steps.map (fun step => step.1.getD .absent) =
        lists.map fun list => list.headD .absent := by
      ext i hi
      rw [Vector.getElem_map, Vector.getElem_map, hstep i hi, List.headD_eq_head?_getD]
    rw [next, hsteps, head?_transpose]
    simp only [bind, Except.bind, hended, hheads]
  · intro i hi
    rw [Vector.getElem_map, Vector.getElem_map, hstep i hi]
    exact (Scanner.next_of_toList (h i hi)).2

theorem nextAfter_of_isBefore {walk : Walk (n + 1)} {lists : Vector (List Item) (n + 1)}
    {length : Nat} (h : walk.IsBefore lists)
    (hlength : ∀ i (hi : i < n + 1), lists[i].length = length) (steps : Nat) :
    walk.nextAfter steps = .ok (transpose lists length)[steps]? := by
  induction steps generalizing walk lists length with
  | zero =>
      obtain ⟨rest, hnext, -⟩ := next_of_isBefore h hlength
      rw [nextAfter, hnext, ← List.head?_eq_getElem?]
      rfl
  | succ steps ih =>
      obtain ⟨rest, hnext, hrest⟩ := next_of_isBefore h hlength
      rw [nextAfter, hnext]
      change rest.nextAfter steps = _
      have htails : ∀ i (hi : i < n + 1), (lists.map List.tail)[i].length = length - 1 := by
        intro i hi
        rw [Vector.getElem_map, List.length_tail, hlength i hi]
      rw [ih hrest htails, ← tail_transpose, List.getElem?_tail]

end Walk

end Parallel

end Rollup
