import Rollup.Decimal.Shortest
import Rollup.Json.Numeral

namespace Rollup.Decimal

/-- Where positional notation is used, given the power of ten of the first digit. -/
structure Notation where
  leastPower : Int
  greatestPower : Int
deriving DecidableEq, Repr

/-- Coordinates are positional from 0.00001 up to 10^16. -/
def coordinateNotation : Notation := ⟨-5, 15⟩

/-- Digits with a point after the first `whole` of them, zeros filled in and at least one digit on
either side. -/
def positional (digits : List Char) (whole : Int) : List Char :=
  if whole ≤ 0 then '0' :: '.' :: List.replicate (-whole).toNat '0' ++ digits
  else
    let whole := whole.toNat
    if digits.length ≤ whole then
      digits ++ List.replicate (whole - digits.length) '0' ++ ['.', '0']
    else digits.take whole ++ '.' :: digits.drop whole

/-- Digits with a point after the first, unless it is the only one, and a power of ten with its
sign. -/
def exponential (digits : List Char) (power : Int) : List Char :=
  let mantissa :=
    match digits with
    | first :: second :: rest => first :: '.' :: second :: rest
    | _ => digits
  let sign := if power < 0 then '-' else '+'
  mantissa ++ 'e' :: sign :: Nat.toDigits 10 power.natAbs

/-- Writes a number that is not negative. -/
def Notation.write (style : Notation) (number : Scientific) : List Char :=
  if number.digits = 0 then ['0', '.', '0']
  else
    let digits := Nat.toDigits 10 number.digits
    let power := number.exponent + digits.length - 1
    if style.leastPower ≤ power ∧ power ≤ style.greatestPower then
      positional digits (power + 1)
    else exponential digits power

def render (x : Float) : String :=
  let sign := if isNegative x then ['-'] else []
  String.ofList (sign ++ coordinateNotation.write (shortest x))

open Json (IsWhole isWhole_zero isUnsigned isUnsigned_append isFraction_cons isFraction_of_isDigits
  isFraction_of_isExponent isExponent_cons)

theorem isDigit_of_mem_zeros {count : Nat} {c : Char} (h : c ∈ List.replicate count '0') :
    c.isDigit := by
  rw [List.eq_of_mem_replicate h]
  decide

section

variable {digits : List Char} (hdigits : IsDigits digits) (hhead : digits.head? ≠ some '0')

include hdigits in
theorem isDigits_zeros_append (count : Nat) : IsDigits (List.replicate count '0' ++ digits) := by
  refine ⟨List.append_ne_nil_of_right_ne_nil _ hdigits.1, ?_⟩
  intro c hc
  exact (List.mem_append.1 hc).elim isDigit_of_mem_zeros (hdigits.2 c)

include hdigits hhead in
theorem isWhole_append_zeros (count : Nat) : IsWhole (digits ++ List.replicate count '0') := by
  obtain ⟨first, rest, rfl⟩ := List.exists_cons_of_ne_nil hdigits.1
  refine ⟨⟨by simp, ?_⟩, .inr hhead⟩
  intro c hc
  exact (List.mem_append.1 hc).elim (hdigits.2 c) isDigit_of_mem_zeros

include hdigits hhead in
theorem isWhole_take {count : Nat} (hcount : 0 < count) : IsWhole (digits.take count) := by
  obtain ⟨first, rest, rfl⟩ := List.exists_cons_of_ne_nil hdigits.1
  obtain ⟨count, rfl⟩ := Nat.exists_eq_succ_of_ne_zero (Nat.ne_of_gt hcount)
  refine ⟨⟨by simp, ?_⟩, .inr hhead⟩
  intro c hc
  exact hdigits.2 c (List.mem_of_mem_take hc)

include hdigits in
theorem isDigits_drop {count : Nat} (hcount : count < digits.length) :
    IsDigits (digits.drop count) := by
  refine ⟨?_, ?_⟩
  · rw [ne_eq, List.drop_eq_nil_iff]
    exact Nat.not_le.2 hcount
  · intro c hc
    exact hdigits.2 c (List.mem_of_mem_drop hc)

include hdigits hhead in
theorem isUnsigned_positional (whole : Int) : isUnsigned (positional digits whole) := by
  rw [positional]
  split
  · have hall := isUnsigned_append isWhole_zero
      (isFraction_of_isDigits (isDigits_zeros_append hdigits (-whole).toNat))
    exact hall
  · next hpos =>
      simp only
      split
      · exact isUnsigned_append (isWhole_append_zeros hdigits hhead _)
          (isFraction_of_isDigits isWhole_zero.1)
      · next hlength =>
          have hfraction := isFraction_of_isDigits (isDigits_drop hdigits (Nat.not_le.1 hlength))
          exact isUnsigned_append (isWhole_take hdigits hhead (by omega)) hfraction

theorem isExponent_power (power : Int) :
    Json.isExponent ('e' :: (if power < 0 then '-' else '+') :: Nat.toDigits 10 power.natAbs) := by
  refine isExponent_cons (.inl rfl) ?_
  split <;> exact isDigits_toDigits power.natAbs

include hdigits hhead in
theorem isUnsigned_exponential (power : Int) : isUnsigned (exponential digits power) := by
  have hexponent := isExponent_power power
  obtain ⟨first, rest, rfl⟩ := List.exists_cons_of_ne_nil hdigits.1
  have hfirst : IsWhole [first] := isWhole_take hdigits hhead Nat.one_pos
  cases rest with
  | nil => exact isUnsigned_append hfirst (isFraction_of_isExponent hexponent)
  | cons second rest =>
      have hrest : IsDigits (second :: rest) :=
        ⟨List.cons_ne_nil second rest, fun c hc => hdigits.2 c (List.mem_cons_of_mem first hc)⟩
      have hall := isUnsigned_append hfirst (isFraction_cons hrest hexponent)
      exact hall

end

theorem isUnsigned_write (style : Notation) (number : Scientific) :
    isUnsigned (style.write number) := by
  rw [Notation.write]
  split
  · have hzero := isUnsigned_append isWhole_zero (isFraction_of_isDigits isWhole_zero.1)
    exact hzero
  · next hdigits =>
      simp only
      split
      · exact isUnsigned_positional (isDigits_toDigits _) (Json.head?_toDigits hdigits) _
      · exact isUnsigned_exponential (isDigits_toDigits _) (Json.head?_toDigits hdigits) _

theorem isNumeral_render (x : Float) : Json.isNumeral (render x).toList := by
  rw [render, String.toList_ofList]
  split
  · exact isUnsigned_write _ _
  · exact Json.isNumeral_of_isUnsigned (isUnsigned_write _ _)

def numeral (x : Float) : Json.Numeral := ⟨render x, isNumeral_render x⟩

end Rollup.Decimal
