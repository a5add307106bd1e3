import Rollup.Proofs.ArrayLiteral.Calls

namespace Rollup.ArrayLiteral

open Text

variable {literal : String} {absence : Absence} {call later : Nat}

namespace Scanner

theorem isDone_iff {s : Scanner} : s.isDone ↔ s.cursor = .ended := decide_eq_true_iff

theorem before_succ_of_isDone (h : (before literal absence call).isDone) :
    before literal absence (call + 1) = before literal absence call := by
  rw [before, next_of_ended (isDone_iff.1 h)]

theorem isDone_of_le (h : (before literal absence call).isDone) (hle : call ≤ later) :
    (before literal absence later).isDone := by
  induction hle with
  | refl => exact h
  | step _ ih => rwa [before_succ_of_isDone ih]

theorem returned_of_isDone (h : (before literal absence call).isDone) :
    returned literal absence call = none := by
  rw [returned, next_of_ended (isDone_iff.1 h)]

theorem isDone_succ (h : ∀ item, returned literal absence call ≠ some (.ok item)) :
    (before literal absence (call + 1)).isDone := by
  rcases before_succ_cases literal absence call with hended | ⟨item, -, hitem, -⟩
  · exact isDone_iff.2 hended
  · exact absurd hitem (h item)

theorem isDone_succ_of_none (h : returned literal absence call = none) :
    (before literal absence (call + 1)).isDone :=
  isDone_succ (by simp [h])

theorem isDone_succ_of_error {fault : ArrayFault}
    (h : returned literal absence call = some (.error fault)) :
    (before literal absence (call + 1)).isDone :=
  isDone_succ (by simp [h])

theorem isDone_or_position_lt (literal : String) (absence : Absence) (call : Nat) :
    (before literal absence (call + 1)).isDone ∨
      (before literal absence call).position < (before literal absence (call + 1)).position := by
  rcases before_succ_cases literal absence call with hended | ⟨item, comma, -, hcursor, hle, -⟩
  · exact Or.inl (isDone_iff.2 hended)
  · right
    rw [position.eq_def (before literal absence (call + 1)), hcursor]
    exact Nat.lt_succ_of_le hle

theorem cursor_eq_ofPosition (literal : String) (absence : Absence) (call : Nat) :
    (before literal absence call).cursor =
      .ofPosition (before literal absence call).position (before literal absence call).isDone := by
  cases call with
  | zero => rfl
  | succ call =>
      rcases before_succ_cases literal absence call with hended | ⟨item, comma, -, hcursor, -⟩
      · rw [isDone, hended]
        rfl
      · rw [isDone, position, hcursor]
        rfl

theorem exists_commas (h : ¬ (before literal absence call).isDone) :
    ∃ read rest, literal.toList = read ++ rest ∧
      width read = (before literal absence call).position ∧ call ≤ read.count ',' := by
  induction call with
  | zero => exact ⟨[], literal.toList, rfl, rfl, Nat.zero_le _⟩
  | succ call ih =>
      rcases before_succ_cases literal absence call with
        hended | ⟨item, comma, hitem, hcursor, hle, hcomma⟩
      · exact absurd (isDone_iff.2 hended) h
      · have hgoing : ¬ (before literal absence call).isDone := by
          intro hdone
          rw [returned_of_isDone hdone] at hitem
          cases hitem
        rcases ih hgoing with ⟨read, rest, htext, hwidth, hcount⟩
        rcases exists_append_of_byteAt? (d := ',') rfl hcomma with ⟨upTo, after, hsplit, rfl⟩
        rcases exists_between (htext.symm.trans hsplit) (hwidth ▸ hle) with ⟨between, rfl, -⟩
        refine ⟨read ++ between ++ [','], after, by rw [hsplit, List.append_cons], ?_, ?_⟩
        · rw [position, hcursor, width_concat]
          rfl
        · simp only [List.count_append, List.count_singleton_self]
          omega

theorem call_le_count (h : (returned literal absence call).isSome) :
    call ≤ literal.toList.count ',' := by
  have hgoing : ¬ (before literal absence call).isDone := by
    intro hdone
    rw [returned_of_isDone hdone] at h
    cases h
  rcases exists_commas hgoing with ⟨read, rest, htext, -, hcount⟩
  rw [htext, List.count_append]
  omega

theorem toList_before (literal : String) (absence : Absence) (call : Nat) :
    (before literal absence call).toList = (readings literal absence).drop call := by
  induction call with
  | zero => rfl
  | succ call ih =>
      rw [← List.drop_drop, ← ih, toList_eq (before literal absence call), List.drop_one]
      change (before literal absence call).next.2.toList = _
      cases hnext : (before literal absence call).next.1 with
      | none => exact toList_next_of_none hnext
      | some reading => rfl

end Scanner

open Scanner

theorem getElem?_readings (literal : String) (absence : Absence) (call : Nat) :
    (readings literal absence)[call]? = returned literal absence call := by
  rw [← List.head?_drop, ← toList_before, toList_eq, returned]
  cases (before literal absence call).next.1 <;> rfl

theorem lt_length_iff_isSome :
    call < (readings literal absence).length ↔ (returned literal absence call).isSome := by
  rw [← getElem?_readings]
  simp

theorem length_readings_le (literal : String) (absence : Absence) :
    (readings literal absence).length ≤ literal.toList.count ',' + 1 := by
  rcases Nat.eq_zero_or_pos (readings literal absence).length with hzero | hpos
  · omega
  · have hlast : (readings literal absence).length - 1 < (readings literal absence).length := by
      omega
    have hcount := call_le_count (lt_length_iff_isSome.1 hlast)
    omega

theorem length_readings_of_error {fault : ArrayFault}
    (h : returned literal absence call = some (.error fault)) :
    (readings literal absence).length = call + 1 := by
  have hlt : call < (readings literal absence).length := by
    rw [lt_length_iff_isSome, h]
    rfl
  have hge : ¬ call + 1 < (readings literal absence).length := by
    rw [lt_length_iff_isSome, returned_of_isDone (isDone_succ_of_error h)]
    exact Bool.false_ne_true
  omega

end Rollup.ArrayLiteral
