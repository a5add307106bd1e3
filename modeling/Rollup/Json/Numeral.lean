import Rollup.Numeral

namespace Rollup.Json

/-- What is left of a numeral after its fraction. -/
def isExponent : List Char → Bool
  | [] => true
  | mark :: rest => (mark = 'e' ∨ mark = 'E') ∧ IsDigits (dropSign rest)

/-- What is left of a numeral after its whole part. -/
def isFraction : List Char → Bool
  | '.' :: rest => IsDigits (rest.takeWhile Char.isDigit) ∧ isExponent (rest.dropWhile Char.isDigit)
  | rest => isExponent rest

/-- Digits that do not begin with a zero, unless that is all of them. -/
def IsWhole (digits : List Char) : Prop :=
  IsDigits digits ∧ (digits = ['0'] ∨ digits.head? ≠ some '0')

instance (digits : List Char) : Decidable (IsWhole digits) := inferInstanceAs (Decidable (_ ∧ _))

/-- Whether a text is a numeral without a sign. -/
def isUnsigned (text : List Char) : Bool :=
  IsWhole (text.takeWhile Char.isDigit) ∧ isFraction (text.dropWhile Char.isDigit)

/-- Whether a text is a numeral: a whole part without needless zeros, with a minus before it and a
fraction and an exponent after it as there may be. -/
def isNumeral : List Char → Bool
  | '-' :: rest => isUnsigned rest
  | text => isUnsigned text

theorem isExponent_cons {mark : Char} {rest : List Char} (hmark : mark = 'e' ∨ mark = 'E')
    (hrest : IsDigits (dropSign rest)) : isExponent (mark :: rest) :=
  decide_eq_true ⟨hmark, hrest⟩

theorem not_isDigit_of_isExponent {c : Char} {rest : List Char} (h : isExponent (c :: rest)) :
    ¬ c.isDigit := by
  rcases (of_decide_eq_true h).1 with rfl | rfl <;> decide

theorem isFraction_of_isExponent {rest : List Char} (h : isExponent rest) : isFraction rest := by
  unfold isFraction
  split
  · simp [isExponent] at h
  · exact h

theorem not_isDigit_of_isFraction {c : Char} {rest : List Char} (h : isFraction (c :: rest)) :
    ¬ c.isDigit := by
  unfold isFraction at h
  split at h
  · next heq =>
      cases heq
      decide
  · exact not_isDigit_of_isExponent h

theorem takeWhile_isDigit_append {digits rest : List Char} (hdigits : IsDigits digits)
    (hrest : ∀ c ∈ rest.head?, ¬ c.isDigit) :
    (digits ++ rest).takeWhile Char.isDigit = digits ∧
      (digits ++ rest).dropWhile Char.isDigit = rest := by
  rw [List.takeWhile_append_of_pos hdigits.2, List.dropWhile_append_of_pos hdigits.2]
  cases rest with
  | nil => exact ⟨List.append_nil digits, rfl⟩
  | cons c rest =>
      have hc := hrest c rfl
      rw [List.takeWhile_cons_of_neg hc, List.dropWhile_cons_of_neg hc]
      exact ⟨List.append_nil digits, rfl⟩

theorem isFraction_cons {digits rest : List Char} (hdigits : IsDigits digits)
    (hrest : isExponent rest) : isFraction ('.' :: (digits ++ rest)) := by
  have hhead : ∀ c ∈ rest.head?, ¬ c.isDigit := by
    rintro c hc
    obtain ⟨rest, rfl⟩ := List.head?_eq_some_iff.1 hc
    exact not_isDigit_of_isExponent hrest
  obtain ⟨htake, hdrop⟩ := takeWhile_isDigit_append hdigits hhead
  rw [isFraction, htake, hdrop]
  exact decide_eq_true ⟨hdigits, hrest⟩

theorem isFraction_of_isDigits {digits : List Char} (h : IsDigits digits) :
    isFraction ('.' :: digits) := by
  rw [← List.append_nil digits]
  exact isFraction_cons h rfl

theorem isUnsigned_append {whole rest : List Char} (hwhole : IsWhole whole)
    (hrest : isFraction rest) : isUnsigned (whole ++ rest) := by
  have hhead : ∀ c ∈ rest.head?, ¬ c.isDigit := by
    rintro c hc
    obtain ⟨rest, rfl⟩ := List.head?_eq_some_iff.1 hc
    exact not_isDigit_of_isFraction hrest
  obtain ⟨htake, hdrop⟩ := takeWhile_isDigit_append hwhole.1 hhead
  rw [isUnsigned, htake, hdrop]
  exact decide_eq_true ⟨hwhole, hrest⟩

theorem isNumeral_of_isUnsigned {text : List Char} (h : isUnsigned text) : isNumeral text := by
  unfold isNumeral
  split
  · exact absurd (of_decide_eq_true h).1.1.1 (by simp)
  · exact h

theorem digitChar_ne_zero : ∀ n < 10, n ≠ 0 → Nat.digitChar n ≠ '0' := by decide

theorem head?_toDigits {n : Nat} (hn : n ≠ 0) : (Nat.toDigits 10 n).head? ≠ some '0' := by
  induction n using Nat.strongRecOn with
  | ind n ih =>
      rw [Nat.toDigits_eq_if (by decide)]
      split
      · next hlt =>
          rw [List.head?_cons, ne_eq, Option.some_inj]
          exact digitChar_ne_zero n hlt hn
      · next hge =>
          have htens := ih (n / 10) (by omega) (by omega)
          obtain ⟨c, rest, hdigits⟩ :=
            List.exists_cons_of_ne_nil (Nat.toDigits_ne_nil (n := n / 10) (b := 10))
          rw [hdigits] at htens ⊢
          exact htens

theorem isWhole_toDigits (n : Nat) : IsWhole (Nat.toDigits 10 n) := by
  refine ⟨isDigits_toDigits n, ?_⟩
  rcases Nat.eq_zero_or_pos n with rfl | hn
  · exact .inl (Nat.toDigits_zero 10)
  · exact .inr (head?_toDigits (Nat.ne_of_gt hn))

theorem isWhole_zero : IsWhole ['0'] := isWhole_toDigits 0

theorem isUnsigned_toDigits (n : Nat) : isUnsigned (Nat.toDigits 10 n) := by
  rw [← List.append_nil (Nat.toDigits 10 n)]
  exact isUnsigned_append (isWhole_toDigits n) rfl

theorem isNumeral_toString (n : Int) : isNumeral (toString n).toList := by
  cases n with
  | ofNat n =>
      rw [Int.ofNat_eq_natCast, toList_toString_natCast]
      exact isNumeral_of_isUnsigned (isUnsigned_toDigits n)
  | negSucc n =>
      rw [toList_toString_negSucc]
      exact isUnsigned_toDigits (n + 1)

structure Numeral where
  text : String
  valid : isNumeral text.toList

namespace Numeral

def ofInt (n : Int) : Numeral := ⟨toString n, isNumeral_toString n⟩

def ofChars? (chars : List Char) : Option Numeral :=
  if h : isNumeral chars then some ⟨String.ofList chars, by rwa [String.toList_ofList]⟩ else none

end Numeral

end Rollup.Json
