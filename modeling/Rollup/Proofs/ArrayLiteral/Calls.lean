import Rollup.Proofs.ArrayLiteral.Scan

namespace Rollup.ArrayLiteral

open Text

variable {input literal : String} {absence : Absence}

theorem ending_bare_isSound (input : String) (first : Nat) :
    (ending input (.bare first) first).IsSound input first := by
  by_cases hle : first ≤ input.utf8ByteSize
  · exact ending_isSound hle (.bare (Nat.le_refl first))
  · have hend : byteAt? input first = none := byteAt?_eq_none_iff.2 (Nat.le_of_not_le hle)
    rw [ending_of_end hend]
    simp only [Nat.lt_irrefl, if_false]
    exact .nothing

theorem Ending.IsSound.reading_cases {first : Nat} {e : Ending} (h : e.IsSound input first)
    (absence : Absence) :
    (e.reading input absence).2 = .ended ∨
      ∃ item comma, first ≤ comma ∧ byteAt? input comma = some commaByte ∧
        e.reading input absence = (some (.ok item), .inside (comma + 1)) := by
  cases h with
  | nothing | close | bareEnd | unclosed => exact Or.inl rfl
  | comma hle hcomma => exact Or.inr ⟨_, _, hle, hcomma, rfl⟩
  | @quoted opening closing escaped _ _ hle hlt =>
      rw [reading]
      rcases closeQuote_cases input opening closing escaped with
        ⟨hcomma, hread⟩ | hread | ⟨b, -, -, -, hread⟩
      · exact Or.inr ⟨_, closing + 1, by omega, hcomma, hread⟩
      · exact Or.inl (congrArg Prod.snd hread)
      · exact Or.inl (congrArg Prod.snd hread)

namespace Scanner

theorem first_cases (input : String) (absence : Absence) :
    let s : Scanner := { input, absence }
    (byteAt? input 0 = some openByte ∧ s.start? = some 1 ∧
        first input absence = scan input absence (.bare 1) 1) ∨
      s.start? = none ∧ (first input absence = (none, .ended) ∨
        first input absence = (some (.error .missingOpeningBrace), .ended)) := by
  simp only [start?, first]
  split
  · exact Or.inr ⟨rfl, Or.inl rfl⟩
  · split
    · exact Or.inr ⟨rfl, Or.inr rfl⟩
    · next hopen =>
        split
        · exact Or.inr ⟨rfl, Or.inl rfl⟩
        · exact Or.inl ⟨not_not.1 hopen, rfl, rfl⟩

theorem next_of_start? {s : Scanner} {first : Nat} (h : s.start? = some first) :
    s.next = (((ending s.input (.bare first) first).reading s.input s.absence).1,
      { s with cursor := ((ending s.input (.bare first) first).reading s.input s.absence).2 }) := by
  obtain ⟨input, absence, cursor⟩ := s
  rw [← scan_eq_reading]
  cases cursor with
  | unopened =>
      rcases first_cases input absence with ⟨-, hstart, hfirst⟩ | ⟨hstart, -⟩
      · obtain rfl : 1 = first := Option.some_inj.1 (hstart.symm.trans h)
        simp only [next, hfirst]
      · cases hstart.symm.trans h
  | inside offset =>
      obtain rfl : offset = first := Option.some_inj.1 h
      rfl
  | ended => cases h

theorem next_of_start?_eq_none {s : Scanner} (h : s.start? = none) :
    (s.next.1 = none ∨ s.next.1 = some (.error .missingOpeningBrace)) ∧
      s.next.2.cursor = .ended := by
  obtain ⟨input, absence, cursor⟩ := s
  cases cursor with
  | unopened =>
      rcases first_cases input absence with ⟨-, hstart, -⟩ | ⟨-, hfirst | hfirst⟩
      · cases hstart.symm.trans h
      · simp only [next, hfirst, true_or, true_and]
      · simp only [next, hfirst, or_true, true_and]
  | inside offset => cases h
  | ended => exact ⟨Or.inl rfl, rfl⟩

theorem position_le_of_start? {s : Scanner} {first : Nat} (h : s.start? = some first) :
    s.position ≤ first := by
  obtain ⟨input, absence, cursor⟩ := s
  cases cursor with
  | unopened => exact Nat.zero_le first
  | inside offset => exact Nat.le_of_eq (Option.some_inj.1 h)
  | ended => cases h

theorem next_cases (s : Scanner) :
    s.next.2.cursor = .ended ∨
      ∃ item comma, s.next.1 = some (.ok item) ∧ s.next.2.cursor = .inside (comma + 1) ∧
        s.position ≤ comma ∧ byteAt? s.input comma = some commaByte := by
  cases hstart : s.start? with
  | none => exact Or.inl (next_of_start?_eq_none hstart).2
  | some first =>
      rw [next_of_start? hstart]
      rcases (ending_bare_isSound s.input first).reading_cases s.absence with
        hended | ⟨item, comma, hle, hcomma, hread⟩
      · exact Or.inl hended
      · rw [hread]
        have hposition := Nat.le_trans (position_le_of_start? hstart) hle
        exact Or.inr ⟨item, comma, rfl, rfl, hposition, hcomma⟩

theorem next_ended_of_none {s : Scanner} (h : s.next.1 = none) : s.next.2.cursor = .ended := by
  rcases next_cases s with hended | ⟨item, comma, hitem, -⟩
  · exact hended
  · rw [h] at hitem
    cases hitem

theorem next_of_ended {s : Scanner} (h : s.cursor = .ended) : s.next = (none, s) := by
  obtain ⟨input, absence, cursor⟩ := s
  cases h
  rfl

theorem toList_next_of_none {s : Scanner} (h : s.next.1 = none) : s.next.2.toList = [] := by
  rw [toList_eq, next_of_ended (next_ended_of_none h)]
  rfl

@[simp] theorem before_input (literal : String) (absence : Absence) (call : Nat) :
    (before literal absence call).input = literal := by
  induction call with
  | zero => rfl
  | succ call ih => exact ih

@[simp] theorem before_absence (literal : String) (absence : Absence) (call : Nat) :
    (before literal absence call).absence = absence := by
  induction call with
  | zero => rfl
  | succ call ih => exact ih

theorem before_succ_cases (literal : String) (absence : Absence) (call : Nat) :
    (before literal absence (call + 1)).cursor = .ended ∨
      ∃ item comma, returned literal absence call = some (.ok item) ∧
        (before literal absence (call + 1)).cursor = .inside (comma + 1) ∧
        (before literal absence call).position ≤ comma ∧
        byteAt? literal comma = some commaByte := by
  have hcases := next_cases (before literal absence call)
  rwa [before_input] at hcases

end Scanner

end Rollup.ArrayLiteral
