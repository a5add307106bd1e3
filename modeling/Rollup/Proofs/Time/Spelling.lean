import Mathlib.Data.List.TakeWhile
import Rollup.Timestamp

namespace Rollup.Timestamp

open Rollup.Text

variable {blank digits text rest : List Char}

theorem trimStart_append (hblank : IsBlank blank) (hrest : ∀ c ∈ rest.head?, ¬ isBlank c) :
    trimStart (blank ++ rest) = rest := by
  rw [trimStart, List.dropWhile_append_of_pos hblank]
  cases rest with
  | nil => rfl
  | cons c rest => exact List.dropWhile_cons_of_neg (hrest c rfl)

theorem exists_blank (text : List Char) :
    ∃ blank, IsBlank blank ∧ text = blank ++ trimStart text := by
  refine ⟨text.takeWhile isBlank, ?_, List.takeWhile_append_dropWhile.symm⟩
  intro c hc
  exact List.mem_takeWhile_imp hc

theorem not_isBlank {c : Char} (hlow : 0x21 ≤ c.toNat) (hhigh : c.toNat ≤ 0x7E) : ¬ isBlank c := by
  simp [isBlank, blanks, CodePoints.has]
  omega

theorem not_isBlank_of_isDigit {c : Char} (hc : c.isDigit) : ¬ isBlank c := by
  simp only [Char.isDigit, Bool.and_eq_true, decide_eq_true_eq, ge_iff_le,
    UInt32.le_iff_toNat_le] at hc
  have hlow : 48 ≤ c.toNat := hc.1
  have hhigh : c.toNat ≤ 57 := hc.2
  apply not_isBlank <;> omega

theorem digits?_append {most : Nat} (hdigits : IsDigits digits) (hlength : digits.length ≤ most)
    (hrest : ∀ c ∈ rest.head?, ¬ c.isDigit) :
    digits? most (digits ++ rest) = some (digitsValue digits, rest) := by
  have htake : ((digits ++ rest).take most).takeWhile Char.isDigit = digits := by
    rw [List.take_append, List.take_of_length_le hlength,
      List.takeWhile_append_of_pos hdigits.2]
    cases rest with
    | nil => simp
    | cons c rest =>
        cases most - digits.length with
        | zero => simp
        | succ n => simp [hrest c rfl]
  simp only [digits?, htake, if_neg hdigits.1, List.drop_left]

theorem exists_of_digits?_eq_some {most n : Nat} (h : digits? most text = some (n, rest)) :
    ∃ digits, text = digits ++ rest ∧ IsDigits digits ∧ digits.length ≤ most ∧
      digitsValue digits = n := by
  have hprefix : (text.take most).takeWhile Char.isDigit <+: text :=
    (List.takeWhile_prefix _).trans (List.take_prefix most text)
  have hlength : ((text.take most).takeWhile Char.isDigit).length ≤ most :=
    ((List.takeWhile_prefix _).length_le).trans (List.length_take_le most text)
  simp only [digits?, Option.ite_none_left_eq_some, Option.some.injEq, Prod.mk.injEq] at h
  rcases h with ⟨hne, hvalue, hrest⟩
  refine ⟨_, ?_, ⟨hne, ?_⟩, hlength, hvalue⟩
  · rw [← hrest]
    exact (List.prefix_iff_eq_append.1 hprefix).symm
  · intro c hc
    exact List.mem_takeWhile_imp hc

theorem mark?_eq_some_iff {c : Char} : mark? c text = some rest ↔ text = c :: rest := by
  cases text with
  | nil => simp [mark?]
  | cons d tail =>
      rw [mark?, Option.ite_none_right_eq_some, Option.some.injEq, List.cons.injEq]

theorem mark?_cons (c : Char) (rest : List Char) : mark? c (c :: rest) = some rest :=
  mark?_eq_some_iff.2 rfl

theorem head?_append_digits (hdigits : IsDigits digits) (rest : List Char) :
    ∀ c ∈ (digits ++ rest).head?, c.isDigit := by
  rcases List.exists_cons_of_ne_nil hdigits.1 with ⟨d, tail, rfl⟩
  rintro c hc
  cases hc
  exact hdigits.2 d List.mem_cons_self

theorem field?_append {field : List Char} {n : Nat} {c : Char} (h : IsField field n)
    (hc : ¬ c.isDigit) : field? (field ++ c :: rest) = some (n, c :: rest) := by
  rcases h with ⟨hblank, hdigits, hlength⟩
  rw [field?, List.append_assoc, trimStart_append hblank, digits?_append hdigits hlength]
  · rintro d hd
    cases hd
    exact hc
  · rintro d hd
    exact not_isBlank_of_isDigit (head?_append_digits hdigits _ d hd)

theorem exists_of_field?_eq_some {n : Nat} (h : field? text = some (n, rest)) :
    ∃ field, text = field ++ rest ∧ IsField field n := by
  rcases exists_blank text with ⟨blank, hblank, htext⟩
  rcases exists_of_digits?_eq_some h with ⟨digits, htrim, hdigits, hlength, rfl⟩
  refine ⟨blank ++ digits, ?_, .intro hblank hdigits hlength⟩
  rw [htext, htrim, List.append_assoc]

theorem trimStart_append_sign {sign : Char} (hblank : IsBlank blank) (hlow : 0x21 ≤ sign.toNat)
    (hhigh : sign.toNat ≤ 0x7E) : trimStart (blank ++ sign :: rest) = sign :: rest := by
  apply trimStart_append hblank
  rintro c hc
  cases hc
  exact not_isBlank hlow hhigh

theorem year?_append {year : List Char} {n : Int} {c : Char} (h : IsYear year n)
    (hc : ¬ c.isDigit) : year? (year ++ c :: rest) = some (n, c :: rest) := by
  have hend : ∀ d ∈ (c :: rest).head?, ¬ d.isDigit := by
    rintro d hd
    cases hd
    exact hc
  have hall {digits : List Char} : digits.length ≤ (digits ++ c :: rest).length := by
    rw [List.length_append]
    exact Nat.le_add_right _ _
  rw [year?]
  rcases h with ⟨hblank, hdigits, hlength⟩ | ⟨hblank, hdigits⟩ | ⟨hblank, hdigits⟩
  · have hhead := head?_append_digits hdigits (c :: rest)
    rw [List.append_assoc, trimStart_append hblank fun d hd => not_isBlank_of_isDigit (hhead d hd)]
    split
    · next heq =>
        rw [heq] at hhead
        exact absurd (hhead '-' rfl) (by decide)
    · next heq =>
        rw [heq] at hhead
        exact absurd (hhead '+' rfl) (by decide)
    · rw [digits?_append hdigits hlength hend]
      rfl
  · rw [List.append_assoc, List.cons_append,
      trimStart_append_sign hblank (by decide) (by decide)]
    simp only [digits?_append hdigits hall hend]
    rfl
  · rw [List.append_assoc, List.cons_append,
      trimStart_append_sign hblank (by decide) (by decide)]
    simp only [digits?_append hdigits hall hend]
    rfl

theorem exists_of_year?_eq_some {n : Int} (h : year? text = some (n, rest)) :
    ∃ year, text = year ++ rest ∧ IsYear year n := by
  rcases exists_blank text with ⟨blank, hblank, htext⟩
  rw [year?] at h
  split at h
  · next signed htrim =>
      rcases Option.map_eq_some_iff.1 h with ⟨⟨m, rest'⟩, hread, heq⟩
      cases heq
      rcases exists_of_digits?_eq_some hread with ⟨digits, rfl, hdigits, -, rfl⟩
      refine ⟨blank ++ '-' :: digits, ?_, .minus hblank hdigits⟩
      rw [htext, htrim, List.append_assoc, List.cons_append]
  · next signed htrim =>
      rcases Option.map_eq_some_iff.1 h with ⟨⟨m, rest'⟩, hread, heq⟩
      cases heq
      rcases exists_of_digits?_eq_some hread with ⟨digits, rfl, hdigits, -, rfl⟩
      refine ⟨blank ++ '+' :: digits, ?_, .plus hblank hdigits⟩
      rw [htext, htrim, List.append_assoc, List.cons_append]
  · rcases Option.map_eq_some_iff.1 h with ⟨⟨m, rest'⟩, hread, heq⟩
    cases heq
    rcases exists_of_digits?_eq_some hread with ⟨digits, htrim, hdigits, hlength, rfl⟩
    refine ⟨blank ++ digits, ?_, .plain hblank hdigits hlength⟩
    rw [htext, htrim, List.append_assoc]

theorem setOut_of_fields?_eq_some {t : Calendar.DateTime} (h : fields? text = some t) :
    SetOut IsYear IsField text t := by
  simp only [fields?, Option.bind_eq_bind, Option.bind_eq_some_iff, Prod.exists,
    Option.ite_none_right_eq_some, Option.some.injEq, mark?_eq_some_iff] at h
  rcases h with ⟨_, _, hyear, _, rfl, _, _, hmonth, _, rfl, _, _, hday, _, rfl, _, _, hhour, _, rfl,
    _, _, hminute, _, rfl, _, _, hsecond, _, rfl, rfl, rfl⟩
  rcases exists_of_year?_eq_some hyear with ⟨year, rfl, hyear'⟩
  rcases exists_of_field?_eq_some hmonth with ⟨month, rfl, hmonth'⟩
  rcases exists_of_field?_eq_some hday with ⟨day, rfl, hday'⟩
  rcases exists_of_field?_eq_some hhour with ⟨hour, rfl, hhour'⟩
  rcases exists_of_field?_eq_some hminute with ⟨minute, rfl, hminute'⟩
  rcases exists_of_field?_eq_some hsecond with ⟨second, rfl, hsecond'⟩
  exact .intro hyear' hmonth' hday' hhour' hminute' hsecond'

theorem fields?_of_setOut {t : Calendar.DateTime} (h : SetOut IsYear IsField text t) :
    fields? text = some t := by
  have hdash : ¬ Char.isDigit '-' := by decide
  have hcolon : ¬ Char.isDigit ':' := by decide
  have htime : ¬ Char.isDigit 'T' := by decide
  have hzone : ¬ Char.isDigit 'Z' := by decide
  rcases h with ⟨hyear, hmonth, hday, hhour, hminute, hsecond⟩
  rw [fields?, year?_append hyear hdash]
  simp only [Option.bind_eq_bind, Option.bind_some, mark?_cons, field?_append hmonth hdash,
    field?_append hday htime, field?_append hhour hcolon, field?_append hminute hcolon,
    field?_append hsecond hzone, if_true]

/-- A text is read into the fields that it writes, and no other text is read. -/
theorem fields?_eq_some_iff {t : Calendar.DateTime} :
    fields? text = some t ↔ SetOut IsYear IsField text t :=
  ⟨setOut_of_fields?_eq_some, fields?_of_setOut⟩

theorem read?_eq_some_iff {text : String} {now : Instant} :
    read? text = some now ↔ ∃ t, IsSpelled text t ∧ t.Exists ∧ t.instant = now := by
  rw [read?, Option.map_eq_some_iff]
  constructor
  · rintro ⟨t, ht, rfl⟩
    rw [Option.filter_eq_some_iff, decide_eq_true_eq] at ht
    exact ⟨t, fields?_eq_some_iff.1 ht.1, ht.2, rfl⟩
  · rintro ⟨t, hspelled, hexists, rfl⟩
    refine ⟨t, ?_, rfl⟩
    rw [Option.filter_eq_some_iff, decide_eq_true_eq]
    exact ⟨fields?_eq_some_iff.2 hspelled, hexists⟩

end Rollup.Timestamp
