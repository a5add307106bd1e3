namespace Rollup

/-- A binary integer type: two's complement if signed. -/
structure IntegerType where
  signed : Bool
  bits : Nat
deriving DecidableEq, Repr

namespace IntegerType

def unsigned32 : IntegerType := ⟨false, 32⟩

def unsigned64 : IntegerType := ⟨false, 64⟩

def signed64 : IntegerType := ⟨true, 64⟩

/-- How many numbers of the type are not negative. -/
def size (type : IntegerType) : Nat := Nat.pow 2 (if type.signed then type.bits - 1 else type.bits)

def least (type : IntegerType) : Int := if type.signed then -type.size else 0

def greatest (type : IntegerType) : Int := type.size - 1

/-- Whether a number is one of a type. -/
def Holds (type : IntegerType) (n : Int) : Prop := type.least ≤ n ∧ n ≤ type.greatest

instance (type : IntegerType) (n : Int) : Decidable (type.Holds n) :=
  inferInstanceAs (Decidable (_ ∧ _))

end IntegerType

/-- Whether a text is one or more digits. -/
def IsDigits (text : List Char) : Prop := text ≠ [] ∧ ∀ c ∈ text, c.isDigit

instance (text : List Char) : Decidable (IsDigits text) :=
  decidable_of_iff (text ≠ [] ∧ text.all Char.isDigit) (by rw [IsDigits, List.all_eq_true])

/-- A text without the sign it begins with, if it begins with one. -/
def dropSign : List Char → List Char
  | '+' :: rest | '-' :: rest => rest
  | text => text

/-- The number that digits write. -/
def digitsValue (text : List Char) : Nat := Nat.ofDigitChars 10 text 0

theorem IsDigits.exists_cons {text : List Char} (h : IsDigits text) :
    ∃ c rest, text = c :: rest ∧ c ≠ '-' := by
  obtain ⟨c, rest, rfl⟩ := List.exists_cons_of_ne_nil h.1
  refine ⟨c, rest, rfl, ?_⟩
  rintro rfl
  exact absurd (h.2 '-' List.mem_cons_self) (by decide)

theorem isDigits_toDigits (n : Nat) : IsDigits (Nat.toDigits 10 n) := by
  refine ⟨Nat.toDigits_ne_nil, ?_⟩
  intro c hc
  exact Nat.isDigit_of_mem_toDigits (by decide) (by decide) hc

theorem digitsValue_toDigits (n : Nat) : digitsValue (Nat.toDigits 10 n) = n :=
  Nat.ofDigitChars_ten_toDigits

theorem toList_toString_natCast (n : Nat) :
    (toString (n : Int)).toList = Nat.toDigits 10 n := by
  change (toString n).toList = _
  rw [Nat.toString_eq_ofList_toDigits, String.toList_ofList]

theorem toList_toString_negSucc (n : Nat) :
    (toString (Int.negSucc n)).toList = '-' :: Nat.toDigits 10 (n + 1) := by
  change ("-" ++ toString (n + 1)).toList = _
  rw [String.toList_append, Nat.toString_eq_ofList_toDigits, String.toList_ofList,
    String.toList_ofList]
  rfl

namespace IntegerType

/-- Reads digits with at most a minus before them, which only a signed type allows. Leading zeros
are fine, and the number must be in the type. -/
def read? (type : IntegerType) (text : List Char) : Option Int :=
  let number? : Option Int :=
    match text with
    | '-' :: digits => if type.signed ∧ IsDigits digits then some (-digitsValue digits) else none
    | digits => if IsDigits digits then some (digitsValue digits) else none
  number?.filter fun n => type.Holds n

end IntegerType

/-- The number that an identifier is. -/
def readId? (text : String) : Option Nat :=
  (IntegerType.unsigned64.read? text.toList).map Int.toNat

end Rollup
