import Rollup.Proofs.Time.Stored

namespace Rollup

open Calendar

namespace Timestamp

open Text

variable {text : List Char} {t u : DateTime}

theorem IsField.isPadded {n : Nat} (h : IsField text n) (hblank : ∀ c ∈ text, ¬ isBlank c) :
    text.length ≤ 2 ∧ (text.length = 2 → IsPadded 2 text n) := by
  rcases h with @⟨blank, digits, hspace, hdigits, hlength⟩
  obtain rfl : blank = [] := by
    rw [List.eq_nil_iff_forall_not_mem]
    intro c hc
    exact hblank c (List.mem_append_left digits hc) (hspace c hc)
  exact ⟨hlength, fun htwo => ⟨hdigits, htwo, rfl⟩⟩

theorem IsYear.isPadded {n : Int} (h : IsYear text n) (hhead : ∀ c ∈ text.head?, c.isDigit) :
    text.length ≤ 4 ∧ (text.length = 4 → IsPaddedYear text n) := by
  have hnil {blank rest : List Char} (hspace : IsBlank blank)
      (hfirst : ∀ c ∈ (blank ++ rest).head?, c.isDigit) : blank = [] := by
    cases blank with
    | nil => rfl
    | cons c blank =>
        exact absurd (hspace c List.mem_cons_self) (not_isBlank_of_isDigit (hfirst c rfl))
  rcases h with ⟨hspace, hdigits, hlength⟩ | ⟨hspace, -⟩ | ⟨hspace, -⟩
  · obtain rfl := hnil hspace hhead
    exact ⟨hlength, fun hfour => .intro ⟨hdigits, hfour, rfl⟩⟩
  · obtain rfl := hnil hspace hhead
    exact absurd (hhead '+' rfl) (by decide)
  · obtain rfl := hnil hspace hhead
    exact absurd (hhead '-' rfl) (by decide)

/-- Twenty characters, of which the first is a digit and none is white space. -/
def IsCompact (text : String) : Prop :=
  text.length = 20 ∧ (∀ c ∈ text.toList.head?, c.isDigit) ∧ ∀ c ∈ text.toList, ¬ isBlank c

theorem IsStored.isCompact {text : String} (h : IsStored text t) : IsCompact text := by
  rw [IsStored] at h
  rw [IsCompact, ← String.length_toList]
  generalize text.toList = chars at h
  rcases h with ⟨hyear, hmonth, hday, hhour, hminute, hsecond⟩
  rcases hyear.exists_natCast with ⟨year, hyear, -⟩
  have hpart {width n : Nat} {part : List Char} (h : IsPadded width part n) (c : Char)
      (hc : c ∈ part) : ¬ isBlank c := not_isBlank_of_isDigit (h.digits.2 c hc)
  have hdash : ¬ isBlank '-' := not_isBlank (by decide) (by decide)
  have hcolon : ¬ isBlank ':' := not_isBlank (by decide) (by decide)
  have htime : ¬ isBlank 'T' := not_isBlank (by decide) (by decide)
  have hzone : ¬ isBlank 'Z' := not_isBlank (by decide) (by decide)
  refine ⟨?_, head?_append_digits hyear.digits _, ?_⟩
  · simp only [List.length_append, List.length_cons, List.length_nil, hyear.length, hmonth.length,
      hday.length, hhour.length, hminute.length, hsecond.length]
  · simp only [List.forall_mem_append, List.forall_mem_cons]
    exact ⟨hpart hyear, hdash, hpart hmonth, hdash, hpart hday, htime, hpart hhour, hcolon,
      hpart hminute, hcolon, hpart hsecond, hzone, List.forall_mem_nil _⟩

theorem IsSpelled.isStored {text : String} (h : IsSpelled text t) (hcompact : IsCompact text) :
    IsStored text t := by
  rw [IsSpelled] at h
  rw [IsCompact, ← String.length_toList] at hcompact
  rw [IsStored]
  generalize text.toList = chars at h hcompact ⊢
  rcases h with ⟨hyear, hmonth, hday, hhour, hminute, hsecond⟩
  rcases hcompact with ⟨hlength, hhead, hblank⟩
  simp only [List.forall_mem_append, List.forall_mem_cons] at hblank
  rcases hblank with ⟨-, -, hmonth', -, hday', -, hhour', -, hminute', -, hsecond', -⟩
  rcases hyear.isPadded fun c hc => hhead c (List.mem_head?_append_of_mem_head? hc) with ⟨hy, hyear⟩
  rcases hmonth.isPadded hmonth' with ⟨hmo, hmonth⟩
  rcases hday.isPadded hday' with ⟨hd, hday⟩
  rcases hhour.isPadded hhour' with ⟨hh, hhour⟩
  rcases hminute.isPadded hminute' with ⟨hmi, hminute⟩
  rcases hsecond.isPadded hsecond' with ⟨hs, hsecond⟩
  simp only [List.length_append, List.length_cons, List.length_nil] at hlength
  exact .intro (hyear (by omega)) (hmonth (by omega)) (hday (by omega)) (hhour (by omega))
    (hminute (by omega)) (hsecond (by omega))

theorem IsSpelled.isStored_iff {text : String} (h : IsSpelled text t) :
    IsStored text t ↔ IsCompact text := ⟨IsStored.isCompact, h.isStored⟩

theorem IsStored.eq_of_read? {a b : String} {now : Instant} (ha : IsStored a t)
    (hb : IsStored b u) (hnow : read? a = some now) (hnow' : read? b = some now) : a = b := by
  have hirrefl : ¬ now < now := by
    rw [Instant.lt_iff]
    omega
  rcases lt_trichotomy a b with hlt | heq | hgt
  · exact absurd ((ha.lt_iff_instant_lt hb hnow hnow').1 hlt) hirrefl
  · exact heq
  · exact absurd ((hb.lt_iff_instant_lt ha hnow' hnow).1 hgt) hirrefl

/-- Whether a timestamp is written in some way that is read, and names an instant. -/
def IsAccepted (text : String) : Prop := ∃ t, IsSpelled text t ∧ t.Exists

theorem read?_eq_none_iff {text : String} : read? text = none ↔ ¬ IsAccepted text := by
  rw [Option.eq_none_iff_forall_ne_some]
  simp only [ne_eq, read?_eq_some_iff, IsAccepted]
  constructor
  · rintro hnone ⟨t, hspelled, hexists⟩
    exact hnone t.instant ⟨t, hspelled, hexists, rfl⟩
  · rintro hnot now ⟨t, hspelled, hexists, -⟩
    exact hnot ⟨t, hspelled, hexists⟩

end Timestamp

theorem Config.readAsOf_eq_error {value : String} {fault : ConfigFault} :
    Config.readAsOf value = .error fault ↔
      fault = .badTimestamp "as-of" value ∧ Timestamp.read? value = none := by
  rw [Config.readAsOf]
  cases Timestamp.read? value with
  | none => simp [eq_comm]
  | some instant => simp

/-- What is read as a timestamp are the texts that write one with white space before any number, a
sign before the year, and numbers of fewer digits, and of those the ones in the stored layout are
the ones of twenty characters that begin with a digit and hold no white space. So a text that is
read is a stored timestamp just if it is such a text. Stored timestamps that name one instant are
the same text. A reference time that is not read is refused as such, and a changeset whose closing
time is not read is closed. -/
theorem read_as_spelled (text : String) :
    (∀ now, Timestamp.read? text = some now ↔
      ∃ t, Timestamp.IsSpelled text t ∧ t.Exists ∧ t.instant = now) ∧
    (∀ t, Timestamp.IsSpelled text t →
      (Timestamp.IsStored text t ↔ Timestamp.IsCompact text)) ∧
    ((∀ now, Timestamp.read? text = some now → ∃ t, Timestamp.IsStored text t) ↔
      (Timestamp.IsAccepted text → Timestamp.IsCompact text)) ∧
    (∀ other t u now, Timestamp.IsStored text t → Timestamp.IsStored other u →
      Timestamp.read? text = some now → Timestamp.read? other = some now → text = other) ∧
    (∀ fault, Config.readAsOf text = .error fault ↔
      fault = .badTimestamp "as-of" text ∧ ¬ Timestamp.IsAccepted text) ∧
    ∀ (changeset : Changeset) now, changeset.closedAt = text → changeset.isOpenAt now →
      Timestamp.IsAccepted text := by
  refine ⟨fun now => Timestamp.read?_eq_some_iff, fun t => Timestamp.IsSpelled.isStored_iff,
    ?_, ?_, ?_, ?_⟩
  · constructor
    · rintro hstored ⟨t, hspelled, hexists⟩
      rcases hstored t.instant (Timestamp.read?_eq_some_iff.2 ⟨t, hspelled, hexists, rfl⟩) with
        ⟨u, hu⟩
      exact hu.isCompact
    · intro hcompact now hnow
      rcases Timestamp.read?_eq_some_iff.1 hnow with ⟨t, hspelled, hexists, -⟩
      exact ⟨t, hspelled.isStored (hcompact ⟨t, hspelled, hexists⟩)⟩
  · intro other t u now ht hu hnow hnow'
    exact ht.eq_of_read? hu hnow hnow'
  · intro fault
    rw [Config.readAsOf_eq_error, Timestamp.read?_eq_none_iff]
  · rintro changeset now rfl hopen
    rw [Changeset.isOpenAt, isOpenAt_iff] at hopen
    rcases hopen with ⟨closing, hclosing, -⟩
    by_contra hnot
    rw [Timestamp.read?_eq_none_iff.2 hnot] at hclosing
    cases hclosing

/-- A text outside of the stored layout that is read as the instant of a stored one, taken for a
reference time, and keeps a changeset open. -/
theorem reads_other_layout :
    (¬ ∃ t, Timestamp.IsStored " 2024-3-1T12:30:0Z" t) ∧
    Timestamp.read? " 2024-3-1T12:30:0Z" = some ⟨1709296200, 0⟩ ∧
    Timestamp.read? "2024-03-01T12:30:00Z" = some ⟨1709296200, 0⟩ ∧
    Config.readAsOf " 2024-3-1T12:30:0Z" = .ok ⟨1709296200, 0⟩ ∧
    isOpenAt " 2024-3-1T12:30:0Z" ⟨0, 0⟩ = true := by
  refine ⟨?_, by cbv, by cbv, by cbv, by cbv⟩
  rintro ⟨t, ht⟩
  have hlength := ht.isCompact.1
  revert hlength
  decide

end Rollup
