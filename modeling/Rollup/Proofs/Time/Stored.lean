import Mathlib
import Rollup.Record
import Rollup.Settings.Config
import Rollup.Proofs.Time.Days
import Rollup.Proofs.Time.Spelling

namespace Rollup

open Calendar

namespace Timestamp

variable {text : List Char} {t u : DateTime}

theorem SetOut.mono {Year Year' : List Char → Int → Prop} {Field Field' : List Char → Nat → Prop}
    (hyear : ∀ text n, Year text n → Year' text n)
    (hfield : ∀ text n, Field text n → Field' text n) (h : SetOut Year Field text t) :
    SetOut Year' Field' text t := by
  rcases h with ⟨hy, hmo, hd, hh, hmi, hs⟩
  exact .intro (hyear _ _ hy) (hfield _ _ hmo) (hfield _ _ hd) (hfield _ _ hh) (hfield _ _ hmi)
    (hfield _ _ hs)

theorem isBlank_nil : IsBlank [] := List.forall_mem_nil _

theorem IsPadded.isField {n : Nat} (h : IsPadded 2 text n) : IsField text n := by
  rcases h with ⟨hdigits, hlength, rfl⟩
  show IsField ([] ++ text) _
  exact .intro isBlank_nil hdigits (Nat.le_of_eq hlength)

theorem IsPaddedYear.isYear {n : Int} (h : IsPaddedYear text n) : IsYear text n := by
  rcases h with ⟨hdigits, hlength, rfl⟩
  show IsYear ([] ++ text) _
  exact .plain isBlank_nil hdigits (Nat.le_of_eq hlength)

theorem IsStored.of_parts {text : String} (year month day hour minute second : List Char)
    (htext : text.toList = year ++ '-' :: (month ++ '-' :: (day ++ 'T' :: (hour ++ ':' ::
      (minute ++ ':' :: (second ++ ['Z']))))))
    (hlengths : [year, month, day, hour, minute, second].map List.length = [4, 2, 2, 2, 2, 2])
    (hdigits : ∀ part ∈ [year, month, day, hour, minute, second], IsDigits part) :
    IsStored text ⟨digitsValue year, digitsValue month, digitsValue day, digitsValue hour,
      digitsValue minute, digitsValue second⟩ := by
  simp only [List.map_cons, List.map_nil, List.cons.injEq, and_true] at hlengths
  simp only [List.forall_mem_cons, List.not_mem_nil, false_imp_iff, implies_true,
    and_true] at hdigits
  rcases hlengths with ⟨hy, hmo, hd, hh, hmi, hs⟩
  rcases hdigits with ⟨hy', hmo', hd', hh', hmi', hs'⟩
  rw [IsStored, htext]
  exact .intro (.intro ⟨hy', hy, rfl⟩) ⟨hmo', hmo, rfl⟩ ⟨hd', hd, rfl⟩ ⟨hh', hh, rfl⟩
    ⟨hmi', hmi, rfl⟩ ⟨hs', hs, rfl⟩

theorem IsStored.isSpelled {text : String} (h : IsStored text t) : IsSpelled text t :=
  h.mono (fun _ _ => IsPaddedYear.isYear) (fun _ _ => IsPadded.isField)

theorem IsSpelled.unique {text : String} (ht : IsSpelled text t) (hu : IsSpelled text u) : t = u :=
  Option.some.inj ((fields?_of_setOut ht).symm.trans (fields?_of_setOut hu))

theorem read?_of_isSpelled {text : String} (h : IsSpelled text t) (now : Instant) :
    read? text = some now ↔ t.Exists ∧ t.instant = now := by
  rw [read?_eq_some_iff]
  constructor
  · rintro ⟨u, hu, hexists, hnow⟩
    rw [h.unique hu]
    exact ⟨hexists, hnow⟩
  · rintro ⟨hexists, hnow⟩
    exact ⟨t, h, hexists, hnow⟩

theorem toNat_sub_lt_ten {c : Char} (hc : c.isDigit) : c.toNat - '0'.toNat < 10 ∧ 48 ≤ c.toNat := by
  simp only [Char.isDigit, Bool.and_eq_true, decide_eq_true_eq, ge_iff_le,
    UInt32.le_iff_toNat_le] at hc
  have hlow : 48 ≤ c.toNat := hc.1
  have hhigh : c.toNat ≤ 57 := hc.2
  have hzero : '0'.toNat = 48 := rfl
  omega

theorem ofDigitChars_lt_iff {first second rest rest' : List Char}
    (hlength : first.length = second.length) (hfirst : ∀ c ∈ first, c.isDigit)
    (hsecond : ∀ c ∈ second, c.isDigit) (m n : Nat) :
    (Nat.ofDigitChars 10 first m < Nat.ofDigitChars 10 second n ∨
        Nat.ofDigitChars 10 first m = Nat.ofDigitChars 10 second n ∧ rest < rest') ↔
      m < n ∨ m = n ∧ first ++ rest < second ++ rest' := by
  induction first generalizing second m n with
  | nil =>
      rw [List.eq_nil_of_length_eq_zero hlength.symm]
      exact Iff.rfl
  | cons c first ih =>
      rcases second with _ | ⟨d, second⟩
      · cases hlength
      rw [List.forall_mem_cons] at hfirst hsecond
      have hc := toNat_sub_lt_ten hfirst.1
      have hd := toNat_sub_lt_ten hsecond.1
      have hzero : '0'.toNat = 48 := rfl
      have hlt : c < d ↔ c.toNat < d.toNat := Iff.rfl
      have heq : c = d ↔ c.toNat = d.toNat := Char.toNat_inj.symm
      rw [Nat.ofDigitChars_cons, Nat.ofDigitChars_cons,
        ih (Nat.succ.inj hlength) hfirst.2 hsecond.2, List.cons_append, List.cons_append,
        List.cons_lt_cons_iff, hlt, heq]
      by_cases htails : first ++ rest < second ++ rest'
      · simp only [htails, and_true]
        omega
      · simp only [htails, and_false, or_false]
        omega

theorem IsPadded.append_lt_iff {width m n : Nat} {first second : List Char}
    (hfirst : IsPadded width first m) (hsecond : IsPadded width second n) (rest rest' : List Char) :
    first ++ rest < second ++ rest' ↔ m < n ∨ m = n ∧ rest < rest' := by
  rw [← hfirst.value, ← hsecond.value, digitsValue, digitsValue,
    ofDigitChars_lt_iff (hfirst.length.trans hsecond.length.symm) hfirst.digits.2 hsecond.digits.2]
  simp only [lt_irrefl, true_and, false_or]

theorem cons_lt_cons_self (c : Char) (first second : List Char) :
    c :: first < c :: second ↔ first < second := by
  rw [List.cons_lt_cons_iff]
  simp only [lt_irrefl, true_and, false_or]

theorem IsPaddedYear.exists_natCast {n : Int} (h : IsPaddedYear text n) :
    ∃ m : Nat, IsPadded 4 text m ∧ n = m := by
  rcases h with ⟨h⟩
  exact ⟨_, h, rfl⟩

theorem IsStored.lt_iff {a b : String} (ha : IsStored a t) (hb : IsStored b u) :
    a < b ↔ t.Before u := by
  rw [IsStored] at ha hb
  rw [String.lt_iff]
  generalize a.toList = first at ha ⊢
  generalize b.toList = second at hb ⊢
  rcases ha with ⟨hyear, hmonth, hday, hhour, hminute, hsecond⟩
  rcases hb with ⟨hyear', hmonth', hday', hhour', hminute', hsecond'⟩
  rcases hyear.exists_natCast with ⟨year, hyear, hnat⟩
  rcases hyear'.exists_natCast with ⟨year', hyear', hnat'⟩
  rw [hyear.append_lt_iff hyear', cons_lt_cons_self, hmonth.append_lt_iff hmonth',
    cons_lt_cons_self, hday.append_lt_iff hday', cons_lt_cons_self, hhour.append_lt_iff hhour',
    cons_lt_cons_self, hminute.append_lt_iff hminute', cons_lt_cons_self,
    hsecond.append_lt_iff hsecond']
  simp only [lt_irrefl, and_false, or_false, DateTime.Before, Date.Before, DateTime.date,
    Date.mk.injEq, hnat, hnat']
  omega

theorem digitsValue_lt {digits : List Char} (h : ∀ c ∈ digits, c.isDigit) :
    digitsValue digits < 10 ^ digits.length := by
  induction digits with
  | nil => exact Nat.one_pos
  | cons c digits ih =>
      rw [List.forall_mem_cons] at h
      have hc := (toNat_sub_lt_ten h.1).1
      have htail : Nat.ofDigitChars 10 digits 0 < 10 ^ digits.length := ih h.2
      have hfirst := Nat.mul_le_mul_left (10 ^ digits.length) (Nat.le_of_lt_succ hc)
      rw [digitsValue, Nat.ofDigitChars_cons, Nat.ofDigitChars_eq_ofDigitChars_zero,
        List.length_cons, pow_succ, Nat.mul_zero, Nat.zero_add]
      omega

theorem IsStored.yearInRange {text : String} (h : IsStored text t) : YearInRange t.year := by
  rw [IsStored] at h
  generalize text.toList = chars at h
  rcases h with ⟨hyear, -, -, -, -, -⟩
  rcases hyear.exists_natCast with ⟨year, hyear, hnat⟩
  have hlt := digitsValue_lt hyear.digits.2
  rw [hyear.length, hyear.value] at hlt
  rw [YearInRange, hnat]
  omega

theorem read?_of_isStored {text : String} (h : IsStored text t) (now : Instant) :
    read? text = some now ↔ (t.date.Exists ∧ t.IsOnClock) ∧ t.instant = now := by
  rw [read?_of_isSpelled h.isSpelled, DateTime.exists_iff, and_iff_right h.yearInRange]

theorem IsStored.lt_iff_instant_lt {a b : String} {first second : Instant} (ha : IsStored a t)
    (hb : IsStored b u) (hfirst : read? a = some first) (hsecond : read? b = some second) :
    a < b ↔ first < second := by
  rcases (read?_of_isSpelled ha.isSpelled first).1 hfirst with ⟨ht, rfl⟩
  rcases (read?_of_isSpelled hb.isSpelled second).1 hsecond with ⟨hu, rfl⟩
  rw [ha.lt_iff hb, DateTime.instant_lt_iff ht hu]

end Timestamp

theorem Instant.lt_trans {a b c : Instant} (hab : a < b) (hbc : b < c) : a < c := by
  rw [Instant.lt_iff] at hab hbc ⊢
  omega

theorem isOpenAt_iff {closedAt : String} {now : Instant} :
    isOpenAt closedAt now ↔ ∃ closing, Timestamp.read? closedAt = some closing ∧ now < closing := by
  rw [isOpenAt]
  cases Timestamp.read? closedAt with
  | none => simp
  | some closing => simp

theorem Config.readAsOf_eq_ok {value : String} {now : Instant} :
    Config.readAsOf value = .ok now ↔ Timestamp.read? value = some now := by
  rw [Config.readAsOf]
  cases Timestamp.read? value with
  | none => simp
  | some instant => simp

/-- A timestamp in the layout `YYYY-MM-DDTHH:MM:SSZ` is read just if there is such a date and such a
time of day. It names the instant that lies as many days of 86400 seconds after the beginning of
1970 as there are days from then to its date, counted one by one, and its time of day after that; a
leap second is held as the second before it and a whole second of nanoseconds. Of two such
timestamps the one that comes first as a text comes first in time. So a changeset that closes at
such a timestamp is open at such another just if the latter is the smaller text. Whatever the
closing time, a changeset that is open at an instant is open before it. -/
theorem stored_in_order :
    (∀ text t, Timestamp.IsStored text t →
      ((∃ now, Timestamp.read? text = some now) ↔ t.date.Exists ∧ t.IsOnClock) ∧
      ∀ now, Timestamp.read? text = some now →
        (∃ days, Date.epoch.Apart t.date days) ∧
        ∀ days, Date.epoch.Apart t.date days →
          now.secs = 86400 * days + 3600 * t.hour + 60 * t.minute + min t.second 59 ∧
            now.nanos = if t.second = 60 then 1000000000 else 0) ∧
    (∀ a b t u first second, Timestamp.IsStored a t → Timestamp.IsStored b u →
      Timestamp.read? a = some first → Timestamp.read? b = some second →
        (a < b ↔ first < second)) ∧
    (∀ (changeset : Changeset) (reference : String) t u closing now,
      Timestamp.IsStored changeset.closedAt t → Timestamp.IsStored reference u →
      Timestamp.read? changeset.closedAt = some closing → Config.readAsOf reference = .ok now →
        (changeset.isOpenAt now ↔ reference < changeset.closedAt)) ∧
    ∀ (changeset : Changeset) (earlier now : Instant), earlier < now →
      changeset.isOpenAt now → changeset.isOpenAt earlier := by
  refine ⟨?_, ?_, ?_, ?_⟩
  · intro text t hstored
    refine ⟨?_, ?_⟩
    · simp only [Timestamp.read?_of_isStored hstored, exists_and_left, exists_eq', and_true]
    · intro now hread
      rcases (Timestamp.read?_of_isStored hstored now).1 hread with ⟨⟨hdate, -⟩, rfl⟩
      refine ⟨⟨t.daysSince1970, (DateTime.apart_epoch_iff hdate _).2 rfl⟩, ?_⟩
      intro days hdays
      rw [← (DateTime.apart_epoch_iff hdate days).1 hdays]
      exact ⟨rfl, rfl⟩
  · intro a b t u first second ha hb hfirst hsecond
    exact ha.lt_iff_instant_lt hb hfirst hsecond
  · intro changeset reference t u closing now hclosed hreference hclosing hnow
    rw [hreference.lt_iff_instant_lt hclosed (Config.readAsOf_eq_ok.1 hnow) hclosing,
      Changeset.isOpenAt, isOpenAt_iff, hclosing]
    simp only [Option.some.injEq, exists_eq_left']
  · intro changeset earlier now hearlier hopen
    rw [Changeset.isOpenAt, isOpenAt_iff] at hopen ⊢
    rcases hopen with ⟨closing, hclosing, hnow⟩
    exact ⟨closing, hclosing, Instant.lt_trans hearlier hnow⟩

/-- The year 2000 was a leap year, and 1900 was not. A changeset that closes within a leap second is
open a second before. -/
theorem stored_in_order_leap_second :
    (∃ now, Timestamp.read? "2000-02-29T23:59:60Z" = some now) ∧
    (∀ now, Timestamp.read? "2000-02-29T23:59:60Z" = some now →
      now.secs = 951868799 ∧ now.nanos = 1000000000) ∧
    (¬ ∃ now, Timestamp.read? "1900-02-29T23:59:60Z" = some now) ∧
    Config.readAsOf "2000-02-29T23:59:59Z" = .ok ⟨951868799, 0⟩ ∧
    ∀ changeset : Changeset, changeset.closedAt = "2000-02-29T23:59:60Z" →
      changeset.isOpenAt ⟨951868799, 0⟩ := by
  rcases stored_in_order with ⟨hread, -, hopen, -⟩
  have hleap : Timestamp.IsStored "2000-02-29T23:59:60Z" ⟨2000, 2, 29, 23, 59, 60⟩ :=
    .of_parts "2000".toList "02".toList "29".toList "23".toList "59".toList "60".toList rfl rfl
      (by decide)
  have hbefore : Timestamp.IsStored "2000-02-29T23:59:59Z" ⟨2000, 2, 29, 23, 59, 59⟩ :=
    .of_parts "2000".toList "02".toList "29".toList "23".toList "59".toList "59".toList rfl rfl
      (by decide)
  have hcommon : Timestamp.IsStored "1900-02-29T23:59:60Z" ⟨1900, 2, 29, 23, 59, 60⟩ :=
    .of_parts "1900".toList "02".toList "29".toList "23".toList "59".toList "60".toList rfl rfl
      (by decide)
  have hdays : Date.epoch.Apart ⟨2000, 2, 29⟩ 11016 :=
    (Date.apart_iff (by decide) (by decide) _).2 (by decide)
  have hreference : Config.readAsOf "2000-02-29T23:59:59Z" = .ok ⟨951868799, 0⟩ := by cbv
  refine ⟨(hread _ _ hleap).1.2 (by decide), ?_, ?_, hreference, ?_⟩
  · intro now hnow
    exact ((hread _ _ hleap).2 now hnow).2 11016 hdays
  · rw [(hread _ _ hcommon).1]
    decide
  · intro changeset hclosed
    rcases (hread _ _ hleap).1.2 (by decide) with ⟨closing, hclosing⟩
    rw [← hclosed] at hleap hclosing
    rw [hopen changeset _ _ _ closing _ hleap hbefore hclosing hreference, hclosed]
    decide

end Rollup
