import Rollup.Proofs.ArrayLiteral.Progress
import Rollup.Proofs.Extract.Walk

namespace Rollup

open ArrayLiteral ArrayLiteral.Scanner Parallel

namespace ArrayLiteral

variable {literal : String} {absence : Absence}

theorem length_le_of_items {list : List Item} (h : items literal absence = .ok list) :
    list.length ≤ literal.toList.count ',' + 1 := by
  have hlength := length_readings_le literal absence
  rwa [items_eq_ok.1 h, List.length_map] at hlength

theorem items_cases (literal : String) (absence : Absence) :
    (∃ list : List Item, items literal absence = .ok list ∧
        ∀ call, returned literal absence call = list[call]?.map .ok) ∨
      ∃ call fault, items literal absence = .error fault ∧
        returned literal absence call = some (.error fault) ∧
        ∀ earlier < call, ∃ item, returned literal absence earlier = some (.ok item) := by
  cases hitems : items literal absence with
  | ok list =>
      refine Or.inl ⟨list, rfl, ?_⟩
      intro call
      rw [← getElem?_readings, items_eq_ok.1 hitems, List.getElem?_map]
  | error fault =>
      rcases list_mapM_eq_error.1 hitems with ⟨call, hlt, hfault, hbefore⟩
      refine Or.inr ⟨call, fault, rfl, ?_, ?_⟩
      · rw [← getElem?_readings, List.getElem?_eq_getElem hlt]
        exact congrArg some hfault
      · intro earlier hearlier
        rcases hbefore earlier (Nat.lt_trans hearlier hlt) hearlier with ⟨item, hitem⟩
        refine ⟨item, ?_⟩
        rw [← getElem?_readings, List.getElem?_eq_getElem (Nat.lt_trans hearlier hlt)]
        exact congrArg some hitem

end ArrayLiteral

namespace Parallel

theorem count_cases (column literal : String) :
    (∃ number ≤ literal.toList.count ',' + 1, count column literal = .ok number ∧
        returned literal .keep number = none) ∨
      ∃ call ≤ literal.toList.count ',', ∃ fault,
        count column literal = .error (.malformedArray column fault) ∧
          returned literal .keep call = some (.error fault) := by
  rw [count, elements]
  rcases items_cases literal .keep with ⟨list, hitems, hcalls⟩ | ⟨call, fault, hitems, hcall, -⟩
  · refine Or.inl ⟨list.length, length_le_of_items hitems, ?_, ?_⟩
    · rw [hitems]
      rfl
    · rw [hcalls, List.getElem?_eq_none (Nat.le_refl _)]
      rfl
  · refine Or.inr ⟨call, call_le_count (by rw [hcall]; rfl), fault, ?_, hcall⟩
    rw [hitems]
    rfl

namespace Walk

variable {n : Nat}

theorem advance_eq_ok {column : String} {s : Scanner} {step : Option Item × Scanner}
    (h : advance column s = .ok step) :
    step.2 = s.next.2 ∧ (step.1.isSome → s.next.1.isSome) := by
  rw [advance] at h
  rcases hnext : s.next with ⟨_ | _ | item, rest⟩
  · rw [hnext] at h
    cases h
    exact ⟨rfl, id⟩
  · rw [hnext] at h
    cases h
  · rw [hnext] at h
    cases h
    exact ⟨rfl, id⟩

theorem next_eq_ok {walk rest : Walk n} {items? : Option (Vector Item n)}
    (h : walk.next = .ok (items?, rest)) (i : Nat) (hi : i < n) :
    rest.scanners[i] = walk.scanners[i].next.2 ∧
      (items?.isSome → walk.scanners[i].next.1.isSome) := by
  rw [next] at h
  obtain ⟨steps, hsteps, h⟩ := bind_eq_ok.1 h
  have hadvance : advance walk.columns[i] walk.scanners[i] = .ok steps[i] := by
    have hstep := congrArg (·[i]) (vector_mapM_eq_ok.1 hsteps)
    simpa only [Vector.getElem_map, Vector.getElem_zip] using hstep
  obtain ⟨hrest, hsome⟩ := advance_eq_ok hadvance
  cases h
  refine ⟨by rw [Vector.getElem_map, hrest], ?_⟩
  intro hitems
  apply hsome
  by_contra hnone
  rw [Bool.not_eq_true, Option.isSome_eq_false_iff] at hnone
  have hany : steps.any fun step => step.1.isNone := Vector.any_eq_true.2 ⟨i, hi, hnone⟩
  rw [if_pos hany] at hitems
  cases hitems

theorem isSome_of_nextAfter {walk : Walk n} {literals : Vector String n} {absence : Absence}
    {call steps : Nat} {items : Vector Item n}
    (hwalk : ∀ i (hi : i < n), walk.scanners[i] = before literals[i] absence call)
    (h : walk.nextAfter steps = .ok (some items)) (i : Nat) (hi : i < n) :
    (returned literals[i] absence (call + steps)).isSome := by
  induction steps generalizing walk call with
  | zero =>
      obtain ⟨⟨items?, rest⟩, hnext, h⟩ := bind_eq_ok.1 h
      cases h
      have hsome := (next_eq_ok hnext i hi).2 rfl
      rwa [hwalk i hi] at hsome
  | succ steps ih =>
      obtain ⟨⟨items?, rest⟩, hnext, h⟩ := bind_eq_ok.1 h
      have hrest : ∀ j (hj : j < n), rest.scanners[j] = before literals[j] absence (call + 1) := by
        intro j hj
        rw [(next_eq_ok hnext j hj).1, hwalk j hj]
        rfl
      rw [← Nat.add_assoc, Nat.add_right_comm]
      exact ih hrest h

end Walk

end Parallel

/-- A call moves the reader of a literal on or leaves it at the end, and there it stays, as it does
after a call that returns nothing or a fault. What the calls return until then is what is collected,
and it is one reading more at most than there are commas. So collecting and counting come to the
elements or to the fault of one of these calls, and a walk takes no more steps than that in any of
its columns. A position and a mark for the end tell all places apart that a reader can stand at. -/
theorem calls_end_within_commas (literal : String) (absence : Absence) :
    (∀ call, (before literal absence (call + 1)).isDone ∨
      (before literal absence call).position < (before literal absence (call + 1)).position) ∧
    (∀ call, (before literal absence call).isDone ∨ returned literal absence call = none →
      ∀ later, call < later →
        (before literal absence later).isDone ∧ returned literal absence later = none) ∧
    (∀ call, (before literal absence call).cursor =
      .ofPosition (before literal absence call).position (before literal absence call).isDone) ∧
    (∀ call, (readings literal absence)[call]? = returned literal absence call) ∧
    (readings literal absence).length ≤ literal.toList.count ',' + 1 ∧
    (∀ call fault, returned literal absence call = some (.error fault) →
      (readings literal absence).length = call + 1 ∧
        ∀ later, call < later → returned literal absence later = none) ∧
    ((∃ list : List Item, items literal absence = .ok list ∧
        list.length ≤ literal.toList.count ',' + 1 ∧
        ∀ call, returned literal absence call = list[call]?.map .ok) ∨
      ∃ call fault, items literal absence = .error fault ∧ call ≤ literal.toList.count ',' ∧
        returned literal absence call = some (.error fault) ∧
        ∀ earlier < call, ∃ item, returned literal absence earlier = some (.ok item)) ∧
    (∀ column,
      (∃ number ≤ literal.toList.count ',' + 1, Parallel.count column literal = .ok number ∧
        returned literal .keep number = none) ∨
      ∃ call ≤ literal.toList.count ',', ∃ fault,
        Parallel.count column literal = .error (.malformedArray column fault) ∧
          returned literal .keep call = some (.error fault)) ∧
    ∀ (n : Nat) (columns literals : Vector String n) (steps : Nat) (list : Vector Item n),
      ({ columns, scanners := literals.map fun text => { input := text, absence } } :
          Walk n).nextAfter steps = .ok (some list) →
        ∀ i (hi : i < n), steps ≤ literals[i].toList.count ',' := by
  refine ⟨isDone_or_position_lt literal absence, ?_, cursor_eq_ofPosition literal absence,
    getElem?_readings literal absence, length_readings_le literal absence, ?_, ?_, ?_, ?_⟩
  · rintro call hcall later hlt
    have hsucc : (before literal absence (call + 1)).isDone := by
      rcases hcall with hdone | hnone
      · rwa [before_succ_of_isDone hdone]
      · exact isDone_succ_of_none hnone
    have hlater := isDone_of_le hsucc hlt
    exact ⟨hlater, returned_of_isDone hlater⟩
  · intro call fault hfault
    refine ⟨length_readings_of_error hfault, ?_⟩
    intro later hlt
    exact returned_of_isDone (isDone_of_le (isDone_succ_of_error hfault) hlt)
  · rcases items_cases literal absence with
      ⟨list, hitems, hcalls⟩ | ⟨call, fault, hitems, hcall, hbefore⟩
    · exact Or.inl ⟨list, hitems, length_le_of_items hitems, hcalls⟩
    · exact Or.inr ⟨call, fault, hitems, call_le_count (by rw [hcall]; rfl), hcall, hbefore⟩
  · exact fun column => count_cases column literal
  · intro n columns literals steps list hnext i hi
    have hwalk : ∀ j (hj : j < n),
        (literals.map fun text => ({ input := text, absence } : Scanner))[j] =
          before literals[j] absence 0 := fun j hj => Vector.getElem_map ..
    have hsome := Walk.isSome_of_nextAfter hwalk hnext i hi
    rw [Nat.zero_add] at hsome
    exact call_le_count hsome

/-- As many elements as commas and one more; the second literal has no element after its comma. -/
example : ["\x7ba,b", "\x7ba,"].map (fun literal => (Grammar.readings literal .keep).length) =
    [2, 1] := by
  cbv

end Rollup
