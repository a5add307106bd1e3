import Rollup.ArrayLiteral.Ids
import Rollup.Proofs.ArrayLiteral.RoundTrip

namespace Rollup

theorem mem_toString {n : Int} {c : Char} (h : c ∈ (toString n).toList) :
    c = '-' ∨ c.isDigit := by
  cases n with
  | ofNat n =>
      rw [Int.ofNat_eq_natCast, toList_toString_natCast] at h
      exact Or.inr ((isDigits_toDigits n).2 c h)
  | negSucc n =>
      rw [toList_toString_negSucc, List.mem_cons] at h
      exact h.imp_right ((isDigits_toDigits (n + 1)).2 c)

theorem toString_ne_empty (n : Int) : toString n ≠ "" := by
  intro heq
  have hchars := congrArg String.toList heq
  cases n with
  | ofNat n =>
      rw [Int.ofNat_eq_natCast, toList_toString_natCast] at hchars
      exact Nat.toDigits_ne_nil hchars
  | negSucc n =>
      rw [toList_toString_negSucc] at hchars
      cases hchars

namespace IntegerType

theorem read?_of_isDigits (type : IntegerType) {text : List Char} (h : IsDigits text) :
    type.read? text =
      (some (digitsValue text : Int)).filter fun n => type.Holds n := by
  obtain ⟨c, rest, rfl, hc⟩ := h.exists_cons
  rw [read?, if_pos h]
  rintro digits ⟨⟩
  exact hc rfl

theorem read?_neg (type : IntegerType) {digits : List Char} (hsigned : type.signed)
    (h : IsDigits digits) :
    type.read? ('-' :: digits) =
      (some (-(digitsValue digits : Int))).filter fun n => type.Holds n := by
  rw [read?, if_pos ⟨hsigned, h⟩]

theorem signed_of_holds_neg {type : IntegerType} {n : Int} (h : type.Holds n) (hn : n < 0) :
    type.signed := by
  by_contra hsigned
  have hleast : type.least = 0 := by rw [least, if_neg hsigned]
  have := h.1
  omega

theorem read?_toString {type : IntegerType} {n : Int} (h : type.Holds n) :
    type.read? (toString n).toList = some n := by
  cases n with
  | ofNat n =>
      rw [Int.ofNat_eq_natCast] at h ⊢
      rw [toList_toString_natCast, read?_of_isDigits type (isDigits_toDigits n),
        digitsValue_toDigits, Option.filter_some, if_pos (decide_eq_true h)]
  | negSucc n =>
      have hsigned := signed_of_holds_neg h (Int.negSucc_lt_zero n)
      rw [toList_toString_negSucc, read?_neg type hsigned (isDigits_toDigits (n + 1)),
        digitsValue_toDigits, Int.neg_ofNat_succ, Option.filter_some,
        if_pos (decide_eq_true h)]

end IntegerType

/-- Identifiers are numbers from zero on that fit into 64 bits. -/
def IsId (id : Nat) : Prop := id < UInt64.size

theorem holds_of_isId {id : Nat} (h : IsId id) : IntegerType.unsigned64.Holds id := by
  have hsize : IntegerType.unsigned64.size = UInt64.size := rfl
  rw [IsId] at h
  refine ⟨?_, ?_⟩
  · rw [IntegerType.least, if_neg (by decide)]
    omega
  · rw [IntegerType.greatest, hsize]
    omega

theorem isId_of_holds {n : Nat} (h : IntegerType.unsigned64.Holds n) : IsId n := by
  have hsize : IntegerType.unsigned64.size = UInt64.size := rfl
  have hgreatest := h.2
  rw [IntegerType.greatest, hsize] at hgreatest
  rw [IsId]
  omega

theorem readId?_toString {id : Nat} (h : IsId id) : readId? (toString (id : Int)) = some id := by
  rw [readId?, IntegerType.read?_toString (holds_of_isId h)]
  rfl

namespace ArrayLiteral

open Grammar (isBare)

theorem isBare_of_mem_toString {n : Int} {c : Char} (h : c ∈ (toString n).toList) : isBare c := by
  rcases mem_toString h with rfl | hdigit
  · decide
  · simp only [isBare, Bool.and_eq_true, bne_iff_ne]
    refine ⟨⟨?_, ?_⟩, ?_⟩ <;> (rintro rfl; exact absurd hdigit (by decide))

theorem toString_ne_nullWord (n : Int) : toString n ≠ nullWord := by
  intro heq
  have hmem : 'N' ∈ (toString n).toList := by
    rw [heq]
    decide
  exact absurd (mem_toString hmem) (by decide)

/-- A number as it is written into an array. -/
def Rendering.number (n : Int) : Rendering :=
  .bare (toString n) (toString_ne_empty n) (toString_ne_nullWord n)
    (List.all_eq_true.2 fun _ => isBare_of_mem_toString)

theorem encodeIds_eq_literal (numbers : List Int) :
    encodeIds numbers = Rendering.literal (numbers.map Rendering.number) := by
  rw [encodeIds, Rendering.literal, List.map_map]
  rfl

theorem comma_notMem_toString (n : Int) : ',' ∉ (toString n).toList :=
  fun h => absurd (isBare_of_mem_toString h) (by decide)

theorem toList_encodeIds (numbers : List Int) :
    (encodeIds numbers).toList =
      '\x7b' :: ([','].intercalate (numbers.map fun n => (toString n).toList) ++ ['\x7d']) := by
  rw [encodeIds_eq_literal, Rendering.toList_literal, List.map_map]
  rfl

end ArrayLiteral

end Rollup
