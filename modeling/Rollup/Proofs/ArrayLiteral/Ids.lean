import Mathlib.Data.List.Forall2
import Mathlib.Data.List.Induction
import Mathlib.Data.Nat.Digits.Defs
import Rollup.Proofs.ArrayLiteral.Numbers

namespace Rollup

/-- The number that decimal digits write, the last of them worth the least. -/
def decimalValue (digits : List Char) : Nat :=
  Nat.ofDigits 10 (digits.reverse.map fun c => c.toNat - '0'.toNat)

theorem digitsValue_eq_decimalValue (digits : List Char) :
    digitsValue digits = decimalValue digits := by
  induction digits using List.reverseRecOn with
  | nil => rfl
  | append_singleton digits c ih =>
      calc digitsValue (digits ++ [c])
          = 10 * digitsValue digits + (c.toNat - '0'.toNat) := by
            rw [digitsValue, Nat.ofDigitChars_append, Nat.ofDigitChars_cons, Nat.ofDigitChars_nil]
            rfl
        _ = (c.toNat - '0'.toNat) + 10 * decimalValue digits := by rw [ih, Nat.add_comm]
        _ = decimalValue (digits ++ [c]) := by
            rw [decimalValue, decimalValue, List.reverse_append, List.reverse_singleton,
              List.singleton_append, List.map_cons, Nat.ofDigits_cons]

namespace IntegerType

/-- A text is a number of the type in decimal digits. -/
inductive Writes (type : IntegerType) : List Char → Int → Prop where
  | plain {digits : List Char} (h : IsDigits digits) (hn : type.Holds (decimalValue digits)) :
      Writes type digits (decimalValue digits)
  | minus {digits : List Char} (hsigned : type.signed) (h : IsDigits digits)
      (hn : type.Holds (-decimalValue digits)) : Writes type ('-' :: digits) (-decimalValue digits)

theorem read?_eq_some {type : IntegerType} {text : List Char} {n : Int} :
    type.read? text = some n ↔ type.Writes text n := by
  constructor
  · intro h
    obtain ⟨hnumber, hholds⟩ := Option.filter_eq_some_iff.1 h
    have hholds := of_decide_eq_true hholds
    split at hnumber
    · split at hnumber
      · next digits hdigits =>
          cases hnumber
          rw [digitsValue_eq_decimalValue] at hholds ⊢
          exact .minus hdigits.1 hdigits.2 hholds
      · cases hnumber
    · split at hnumber
      · next hdigits =>
          cases hnumber
          rw [digitsValue_eq_decimalValue] at hholds ⊢
          exact .plain hdigits hholds
      · cases hnumber
  · intro h
    cases h with
    | plain h hn =>
        rw [read?_of_isDigits type h, digitsValue_eq_decimalValue, Option.filter_some,
          if_pos (decide_eq_true hn)]
    | minus hsigned h hn =>
        rw [read?_neg type hsigned h, digitsValue_eq_decimalValue, Option.filter_some,
          if_pos (decide_eq_true hn)]

theorem read?_eq_none {type : IntegerType} {text : List Char} :
    type.read? text = none ↔ ∀ n, ¬ type.Writes text n := by
  rw [Option.eq_none_iff_forall_ne_some]
  exact forall_congr' fun n => not_congr read?_eq_some

theorem Writes.holds {type : IntegerType} {text : List Char} {n : Int} (h : type.Writes text n) :
    type.Holds n := by
  cases h with
  | plain h hn => exact hn
  | minus hsigned h hn => exact hn

theorem Writes.mem {type : IntegerType} {text : List Char} {n : Int} (h : type.Writes text n)
    {c : Char} (hc : c ∈ text) : c = '-' ∨ c.isDigit := by
  cases h with
  | plain h hn => exact Or.inr (h.2 c hc)
  | minus hsigned h hn => exact (List.mem_cons.1 hc).imp_right (h.2 c)

theorem size_pos (type : IntegerType) : 0 < type.size := Nat.pow_pos (by decide)

theorem least_le_greatest (type : IntegerType) : type.least ≤ type.greatest := by
  have := type.size_pos
  rw [least, greatest]
  split <;> omega

end IntegerType

namespace ArrayLiteral

theorem spans_eq_splitOn (text : List Char) : spans text = text.splitOn ',' := by
  induction text with
  | nil => rfl
  | cons c rest ih =>
      rw [spans, ih, List.splitOn_cons_eq_if_modifyHead]
      obtain ⟨first, others, hrest⟩ := List.exists_cons_of_ne_nil (List.splitOn_ne_nil ',' rest)
      by_cases hc : c = ',' <;> simp [hrest, hc]

theorem spans_ne_nil (text : List Char) : spans text ≠ [] := by
  rw [spans_eq_splitOn]
  exact List.splitOn_ne_nil ',' text

theorem spans_intercalate {texts : List (List Char)} (hne : texts ≠ [])
    (h : ∀ text ∈ texts, ',' ∉ text) : spans ([','].intercalate texts) = texts := by
  rw [spans_eq_splitOn, List.splitOn_intercalate ',' h hne]

theorem intercalate_spans (text : List Char) : [','].intercalate (spans text) = text := by
  rw [spans_eq_splitOn, List.intercalate_splitOn]

theorem comma_notMem_of_mem_spans {text span : List Char} (h : span ∈ spans text) :
    ',' ∉ span := by
  rw [spans_eq_splitOn] at h
  induction text generalizing span with
  | nil =>
      rw [List.mem_singleton.1 h]
      exact List.not_mem_nil
  | cons c rest ih =>
      obtain ⟨first, others, hrest⟩ := List.exists_cons_of_ne_nil (List.splitOn_ne_nil ',' rest)
      rw [hrest] at ih
      rw [List.splitOn_cons_eq_if_modifyHead, hrest] at h
      split at h
      · rcases List.mem_cons.1 h with rfl | hspan
        · exact List.not_mem_nil
        · exact ih hspan
      · next hc =>
          rcases List.mem_cons.1 h with rfl | hspan
          · rw [List.mem_cons, not_or]
            exact ⟨fun heq => hc (beq_iff_eq.2 heq.symm), ih List.mem_cons_self⟩
          · exact ih (List.mem_cons_of_mem first hspan)

/-- The texts that stand for no numbers without being split at commas. -/
def StandsForNone (literal : List Char) : Prop :=
  literal = [] ∨ literal = ['\x7b', '\x7d'] ∨ literal = ['\x7b', 'N', 'U', 'L', 'L', '\x7d']

/-- What a text is read as, where numbers of a type are wanted. -/
inductive Reads (type : IntegerType) : List Char → Except IdFault (List Int) → Prop where
  | nothing {literal : List Char} (hnone : StandsForNone literal) : Reads type literal (.ok [])
  | unopened {literal : List Char} (hnone : ¬ StandsForNone literal)
      (hopen : literal.head? ≠ some '\x7b') :
      Reads type literal (.error (.malformed .missingOpeningBrace))
  | unclosed {rest : List Char} (hclose : rest.getLast? ≠ some '\x7d') :
      Reads type ('\x7b' :: rest) (.error (.malformed .missingClosingBrace))
  | numbers {texts : List (List Char)} {numbers : List Int} (hne : texts ≠ [])
      (hcomma : ∀ text ∈ texts, ',' ∉ text) (hwritten : List.Forall₂ type.Writes texts numbers) :
      Reads type ('\x7b' :: ([','].intercalate texts ++ ['\x7d'])) (.ok numbers)
  /-- The first text that is no number is reported, whatever comes after it. -/
  | conversion {before after : List (List Char)} {text : List Char} {numbers : List Int}
      (hcomma : ∀ t ∈ before ++ text :: after, ',' ∉ t)
      (hnone :
        ¬ StandsForNone ('\x7b' :: ([','].intercalate (before ++ text :: after) ++ ['\x7d'])))
      (hbefore : List.Forall₂ type.Writes before numbers) (htext : ∀ n, ¬ type.Writes text n) :
      Reads type ('\x7b' :: ([','].intercalate (before ++ text :: after) ++ ['\x7d']))
        (.error (.conversion (.ofList text)))

theorem standsForNone_toList {literal : String} :
    StandsForNone literal.toList ↔
      literal = "" ∨ literal = "\x7b\x7d" ∨ literal = "\x7bNULL\x7d" := by
  rw [← String.toList_inj, ← String.toList_inj, ← String.toList_inj]
  exact Iff.rfl

theorem decodeIds_of_standsForNone (type : IntegerType) {literal : String}
    (h : StandsForNone literal.toList) : decodeIds type literal = .ok [] := by
  rw [decodeIds, if_pos (standsForNone_toList.1 h)]

theorem bracedBody_braced (body : List Char) :
    bracedBody ('\x7b' :: (body ++ ['\x7d'])) = .ok body := by
  simp [bracedBody]

theorem decodeIds_of_body (type : IntegerType) {literal : String} {body : List Char}
    (h : literal.toList = '\x7b' :: (body ++ ['\x7d'])) (hnone : ¬ StandsForNone literal.toList) :
    decodeIds type literal = readSpans type (spans body) := by
  rw [decodeIds, if_neg (standsForNone_toList.not.1 hnone), h, bracedBody_braced]

theorem decodeIds_of_fault (type : IntegerType) {literal : String} {fault : ArrayFault}
    (hnone : ¬ StandsForNone literal.toList) (h : bracedBody literal.toList = .error fault) :
    decodeIds type literal = .error (.malformed fault) := by
  rw [decodeIds, if_neg (standsForNone_toList.not.1 hnone), h]

theorem bracedBody_of_unopened {literal : List Char} (h : literal.head? ≠ some '\x7b') :
    bracedBody literal = .error .missingOpeningBrace := by
  unfold bracedBody
  split
  · exact absurd rfl h
  · rfl

theorem bracedBody_of_unclosed {rest : List Char} (h : rest.getLast? ≠ some '\x7d') :
    bracedBody ('\x7b' :: rest) = .error .missingClosingBrace := by
  rw [bracedBody, if_neg h]

theorem readSpans_append {type : IntegerType} {before : List (List Char)} {numbers : List Int}
    (h : List.Forall₂ type.Writes before numbers) (after : List (List Char)) :
    readSpans type (before ++ after) = (readSpans type after).map (numbers ++ ·) := by
  induction h with
  | nil =>
      change readSpans type after = (readSpans type after).map id
      rw [Except.map_id]
      rfl
  | @cons text n before numbers htext hbefore ih =>
      rw [List.cons_append, readSpans, IntegerType.read?_eq_some.2 htext]
      simp only [ih]
      cases readSpans type after with
      | error fault => rfl
      | ok others => rfl

theorem readSpans_of_unwritten {type : IntegerType} {text : List Char}
    (h : ∀ n, ¬ type.Writes text n) (after : List (List Char)) :
    readSpans type (text :: after) = .error (.conversion (.ofList text)) := by
  rw [readSpans, IntegerType.read?_eq_none.2 h]

theorem exists_first_unwritten (type : IntegerType) (texts : List (List Char)) :
    (∃ numbers, List.Forall₂ type.Writes texts numbers) ∨
      ∃ before text after numbers, texts = before ++ text :: after ∧
        List.Forall₂ type.Writes before numbers ∧ ∀ n, ¬ type.Writes text n := by
  induction texts with
  | nil => exact Or.inl ⟨[], .nil⟩
  | cons text others ih =>
      by_cases htext : ∃ n, type.Writes text n
      · obtain ⟨n, hn⟩ := htext
        rcases ih with ⟨numbers, hothers⟩ | ⟨before, bad, after, numbers, rfl, hbefore, hbad⟩
        · exact Or.inl ⟨n :: numbers, .cons hn hothers⟩
        · exact Or.inr ⟨text :: before, bad, after, n :: numbers, rfl, .cons hn hbefore, hbad⟩
      · exact Or.inr ⟨[], text, others, [], rfl, .nil, not_exists.1 htext⟩

theorem readSpans_eq_ok {type : IntegerType} {texts : List (List Char)} {numbers : List Int} :
    readSpans type texts = .ok numbers ↔ List.Forall₂ type.Writes texts numbers := by
  have hwhole {numbers : List Int} (h : List.Forall₂ type.Writes texts numbers) :
      readSpans type texts = .ok numbers := by
    simpa [readSpans, Except.map] using readSpans_append h []
  constructor
  · intro hread
    rcases exists_first_unwritten type texts with
      ⟨others, hwritten⟩ | ⟨before, text, after, others, rfl, hbefore, htext⟩
    · rw [hwhole hwritten] at hread
      cases hread
      exact hwritten
    · rw [readSpans_append hbefore, readSpans_of_unwritten htext] at hread
      cases hread
  · exact hwhole

theorem exists_readSpans_eq_conversion {type : IntegerType} {texts : List (List Char)} :
    (∃ value, readSpans type texts = .error (.conversion value)) ↔
      ∃ text ∈ texts, ∀ n, ¬ type.Writes text n := by
  constructor
  · rintro ⟨value, hread⟩
    rcases exists_first_unwritten type texts with
      ⟨numbers, hwritten⟩ | ⟨before, text, after, numbers, rfl, hbefore, htext⟩
    · rw [readSpans_eq_ok.2 hwritten] at hread
      cases hread
    · exact ⟨text, List.mem_append_cons_self, htext⟩
  · rintro ⟨bad, hbad, hunwritten⟩
    rcases exists_first_unwritten type texts with
      ⟨numbers, hwritten⟩ | ⟨before, text, after, numbers, rfl, hbefore, htext⟩
    · obtain ⟨i, hi, rfl⟩ := List.getElem_of_mem hbad
      exact absurd (hwritten.get hi (hwritten.length_eq ▸ hi)) (hunwritten _)
    · refine ⟨.ofList text, ?_⟩
      rw [readSpans_append hbefore, readSpans_of_unwritten htext]
      rfl

theorem not_standsForNone_of_written {type : IntegerType} {texts : List (List Char)}
    {numbers : List Int} (hne : texts ≠ []) (hcomma : ∀ text ∈ texts, ',' ∉ text)
    (h : List.Forall₂ type.Writes texts numbers) :
    ¬ StandsForNone ('\x7b' :: ([','].intercalate texts ++ ['\x7d'])) := by
  have hspans := spans_intercalate hne hcomma
  -- Between the braces there would be one piece, empty or the word `NULL`, and neither is a number.
  rintro (heq | heq | heq)
  · cases heq
  · have hbody : [','].intercalate texts = [] := List.append_cancel_right (List.cons.inj heq).2
    rw [hbody] at hspans
    subst hspans
    cases h with
    | cons hn hothers => cases IntegerType.read?_eq_some.2 hn
  · have hbody : [','].intercalate texts = ['N', 'U', 'L', 'L'] :=
      List.append_cancel_right (List.cons.inj heq).2
    rw [hbody] at hspans
    subst hspans
    cases h with
    | cons hn hothers => cases IntegerType.read?_eq_some.2 hn

theorem decodeIds_of_reads {type : IntegerType} {literal : String}
    {result : Except IdFault (List Int)} (h : Reads type literal.toList result) :
    decodeIds type literal = result := by
  generalize hchars : literal.toList = chars at h
  cases h with
  | nothing hnone =>
      rw [← hchars] at hnone
      exact decodeIds_of_standsForNone type hnone
  | unopened hnone hopen =>
      rw [← hchars] at hnone hopen
      exact decodeIds_of_fault type hnone (bracedBody_of_unopened hopen)
  | @unclosed rest hclose =>
      have hnone : ¬ StandsForNone literal.toList := by
        rw [hchars]
        rintro (heq | heq | heq)
        · cases heq
        · cases heq
          exact hclose rfl
        · cases heq
          exact hclose rfl
      refine decodeIds_of_fault type hnone ?_
      rw [hchars]
      exact bracedBody_of_unclosed hclose
  | @numbers texts numbers hne hcomma hwritten =>
      have hnone := not_standsForNone_of_written hne hcomma hwritten
      rw [← hchars] at hnone
      rw [decodeIds_of_body type hchars hnone, spans_intercalate hne hcomma]
      exact readSpans_eq_ok.2 hwritten
  | @conversion before after text numbers hcomma hnone hbefore htext =>
      rw [← hchars] at hnone
      rw [decodeIds_of_body type hchars hnone, spans_intercalate (by simp) hcomma,
        readSpans_append hbefore, readSpans_of_unwritten htext]
      rfl

theorem exists_reads (type : IntegerType) (literal : List Char) :
    ∃ result, Reads type literal result := by
  by_cases hnone : StandsForNone literal
  · exact ⟨_, .nothing hnone⟩
  by_cases hopen : literal.head? = some '\x7b'
  · obtain ⟨rest, rfl⟩ := List.head?_eq_some_iff.1 hopen
    by_cases hclose : rest.getLast? = some '\x7d'
    · obtain ⟨body, rfl⟩ := List.getLast?_eq_some_iff.1 hclose
      have hcomma : ∀ text ∈ spans body, ',' ∉ text := fun _ => comma_notMem_of_mem_spans
      rw [← intercalate_spans body] at hnone ⊢
      rcases exists_first_unwritten type (spans body) with
        ⟨numbers, hwritten⟩ | ⟨before, text, after, numbers, hspans, hbefore, htext⟩
      · exact ⟨_, .numbers (spans_ne_nil body) hcomma hwritten⟩
      · rw [hspans] at hcomma hnone ⊢
        exact ⟨_, .conversion hcomma hnone hbefore htext⟩
    · exact ⟨_, .unclosed hclose⟩
  · exact ⟨_, .unopened hnone hopen⟩

theorem decodeIds_eq_iff {type : IntegerType} {literal : String}
    {result : Except IdFault (List Int)} :
    decodeIds type literal = result ↔ Reads type literal.toList result := by
  constructor
  · rintro rfl
    obtain ⟨result, hreads⟩ := exists_reads type literal.toList
    rwa [decodeIds_of_reads hreads]
  · exact decodeIds_of_reads

theorem reads_encodeIds {type : IntegerType} {numbers : List Int}
    (h : ∀ n ∈ numbers, type.Holds n) : Reads type (encodeIds numbers).toList (.ok numbers) := by
  by_cases hnil : numbers = []
  · subst hnil
    exact .nothing (Or.inr (Or.inl rfl))
  · rw [toList_encodeIds]
    apply Reads.numbers (List.map_eq_nil_iff.not.2 hnil)
    · intro text htext
      obtain ⟨n, -, rfl⟩ := List.mem_map.1 htext
      exact comma_notMem_toString n
    · rw [List.forall₂_map_left_iff]
      apply List.forall₂_same.2
      intro n hn
      exact IntegerType.read?_eq_some.1 (IntegerType.read?_toString (h n hn))

/-- An array of numbers that a type holds is read back as these numbers. -/
theorem decodeIds_encodeIds {type : IntegerType} {numbers : List Int}
    (h : ∀ n ∈ numbers, type.Holds n) : decodeIds type (encodeIds numbers) = .ok numbers :=
  decodeIds_of_reads (reads_encodeIds h)

theorem holds_of_written {type : IntegerType} {texts : List (List Char)} {numbers : List Int}
    (h : List.Forall₂ type.Writes texts numbers) : ∀ n ∈ numbers, type.Holds n := by
  induction h with
  | nil => simp
  | cons hn hothers ih => exact List.forall_mem_cons.2 ⟨hn.holds, ih⟩

theorem Reads.holds {type : IntegerType} {literal : List Char} {numbers : List Int}
    (h : Reads type literal (.ok numbers)) : ∀ n ∈ numbers, type.Holds n := by
  cases h with
  | nothing hnone => simp
  | numbers hne hcomma hwritten => exact holds_of_written hwritten

/-- The decoder answers what the grammar says, on every text and for every type, and arrays of the
numbers of a type, the least and the greatest among them, are decoded to these numbers. -/
theorem decodeIds_eq_reads (type : IntegerType) :
    (∀ literal result, decodeIds type literal = result ↔ Reads type literal.toList result) ∧
      (∀ numbers : List Int, decodeIds type (encodeIds numbers) = .ok numbers ↔
        ∀ n ∈ numbers, type.Holds n) ∧
      decodeIds type (encodeIds [type.least, type.greatest]) =
        .ok [type.least, type.greatest] := by
  refine ⟨fun _ _ => decodeIds_eq_iff, ?_, ?_⟩
  · intro numbers
    exact ⟨fun h => (decodeIds_eq_iff.1 h).holds, decodeIds_encodeIds⟩
  · apply decodeIds_encodeIds
    have hle := type.least_le_greatest
    simp [IntegerType.Holds, hle]

/-- In bytes with a sign, the greatest number is 127. -/
example : decodeIds ⟨true, 8⟩ "\x7b-128,007,128,x\x7d" = .error (.conversion "128") := by decide

end ArrayLiteral

end Rollup
