import Rollup.Proofs.ArrayLiteral.Endings
import Rollup.Proofs.ArrayLiteral.Grammar
import Rollup.Proofs.Results

/-!
The scanner reads bytes and the grammar reads characters. A scan that stands at a character steps
over its bytes as over one; hence it reads the same first element as the grammar, and stops where
the grammar goes on.
-/

namespace Rollup.ArrayLiteral

open Rollup.Text

variable {input : String} {absence : Absence} {before after : List Char}

theorem ending_through {mode : Mode} {c : Char} {i : Nat} (hi : i ≤ c.utf8Size)
    (hstep : ∀ j, i ≤ j → j < c.utf8Size →
      ending input mode (width before + j) = ending input mode (width before + j + 1)) :
    ending input mode (width before + i) =
      ending input mode (width before + c.utf8Size) := by
  obtain ⟨n, hn⟩ := Nat.exists_eq_add_of_le hi
  induction n generalizing i with
  | zero => rw [hn, Nat.add_zero]
  | succ n ih =>
      rw [hstep i (Nat.le_refl i) (by omega), Nat.add_assoc]
      exact ih (by omega) (fun j hj => hstep j (Nat.le_of_succ_le hj)) (by omega)

theorem ending_bare_of_isBare {start : Nat} {c : Char} (h : input.toList = before ++ c :: after)
    (hc : Grammar.isBare c) :
    ending input (.bare start) (width before) =
      ending input (.bare start) (width before + c.utf8Size) := by
  simp only [Grammar.isBare, Bool.and_eq_true, bne_iff_ne, ne_eq] at hc
  obtain ⟨⟨hquote, hcomma⟩, hclose⟩ := hc
  apply ending_through (Nat.zero_le _)
  intro j _ hj
  obtain ⟨b, hb⟩ := exists_byteAt? h hj
  have hquoteByte : b ≠ quoteByte := ne_of_byteAt? (d := '"') h rfl hj (Or.inr hquote) hb
  have hcommaByte : b ≠ commaByte := ne_of_byteAt? (d := ',') h rfl hj (Or.inr hcomma) hb
  have hcloseByte : b ≠ closeByte := ne_of_byteAt? (d := '\x7d') h rfl hj (Or.inr hclose) hb
  rw [ending_bare_of_byte hb, if_neg hquoteByte, if_neg hcommaByte, if_neg hcloseByte]

theorem ending_quoted_of_ne {opening : Nat} {escaped : Bool} {c : Char} {i : Nat}
    (h : input.toList = before ++ c :: after) (hi : i ≤ c.utf8Size) (hquote : i ≠ 0 ∨ c ≠ '"')
    (hback : i ≠ 0 ∨ c ≠ '\\') :
    ending input (.quoted opening escaped) (width before + i) =
      ending input (.quoted opening escaped) (width before + c.utf8Size) := by
  apply ending_through hi
  intro j hij hj
  obtain ⟨b, hb⟩ := exists_byteAt? h hj
  have hquoteByte : b ≠ quoteByte :=
    ne_of_byteAt? (d := '"') h rfl hj (hquote.imp_left (by omega)) hb
  have hbackByte : b ≠ backslashByte :=
    ne_of_byteAt? (d := '\\') h rfl hj (hback.imp_left (by omega)) hb
  rw [ending_quoted_of_byte hb, if_neg hquoteByte, if_neg hbackByte]

theorem ending_quoted_of_char {opening : Nat} {escaped : Bool} {c : Char}
    (h : input.toList = before ++ c :: after) (hquote : c ≠ '"') (hback : c ≠ '\\') :
    ending input (.quoted opening escaped) (width before) =
      ending input (.quoted opening escaped) (width before + c.utf8Size) :=
  ending_quoted_of_ne h (Nat.zero_le _) (Or.inr hquote) (Or.inr hback)

theorem ending_backslash {opening : Nat} {c : Char} (h : input.toList = before ++ c :: after) :
    ending input (.backslash opening) (width before) =
      ending input (.quoted opening true) (width before + c.utf8Size) := by
  have hpos := c.utf8Size_pos
  obtain ⟨b, hb⟩ := exists_byteAt? h hpos
  rw [Nat.add_zero] at hb
  rw [ending_backslash_of_byte hb]
  exact ending_quoted_of_ne h hpos (Or.inl Nat.one_ne_zero) (Or.inl Nat.one_ne_zero)

theorem ending_quoted {opening : Nat} {escaped : Bool} {text : List Char}
    (h : input.toList = before ++ text) :
    ending input (.quoted opening escaped) (width before) =
      match Grammar.body text with
      | none => .unclosed opening
      | some (q, _) =>
        .quoted opening (width before + width q) (escaped || q.contains '\\') := by
  -- Two of the characters of `text` are read at once where the grammar reads a backslash pair.
  fun_induction Grammar.body text generalizing before escaped with
  | case1 =>
      rw [List.append_nil] at h
      rw [ending_of_end (byteAt?_eq_none h)]
  | case2 rest =>
      have hb : byteAt? input (width before) = some quoteByte := byteAt?_of_ascii h rfl
      rw [ending_quoted_of_byte hb, if_pos rfl]
      simp
  | case3 c rest ih =>
      have hb : byteAt? input (width before) = some backslashByte := byteAt?_of_ascii h rfl
      have hc : input.toList = (before ++ ['\\']) ++ c :: rest := by simpa using h
      have hrest : input.toList = (before ++ ['\\'] ++ [c]) ++ rest := by simpa using h
      have hwidth : width (before ++ ['\\']) = width before + 1 := width_concat ..
      rw [ending_quoted_of_byte hb, if_neg (by decide), if_pos rfl, ← hwidth, ending_backslash hc,
        ← width_concat, ih hrest]
      cases Grammar.body rest with
      | none => rfl
      | some found => simp [Nat.add_assoc]
  | case4 c rest hquote hback ih =>
      by_cases hc : c = '\\'
      · subst hc
        -- A backslash that makes no pair is the last character.
        have hnil : rest = [] := by
          cases rest with
          | nil => rfl
          | cons d rest => exact absurd rfl (hback d rest rfl)
        subst hnil
        have hb : byteAt? input (width before) = some backslashByte := byteAt?_of_ascii h rfl
        have hwidth : width (before ++ ['\\']) = width before + 1 := width_concat ..
        have hend := byteAt?_eq_none h
        rw [hwidth] at hend
        rw [ending_quoted_of_byte hb, if_neg (by decide), if_pos rfl, ending_of_end hend]
        rfl
      · have hrest : input.toList = (before ++ [c]) ++ rest := by simpa using h
        rw [ending_quoted_of_char h hquote hc, ← width_concat, ih hrest]
        cases Grammar.body rest with
        | none => rfl
        | some found => simp [Nat.add_assoc, Ne.symm hc]

theorem ending_bare {start : Nat} {bare : List Char} (hbare : bare.all Grammar.isBare)
    (h : input.toList = before ++ bare ++ after) :
    ending input (.bare start) (width before) =
      ending input (.bare start) (width before + width bare) := by
  induction bare generalizing before with
  | nil => rfl
  | cons c rest ih =>
      simp only [List.all_cons, Bool.and_eq_true] at hbare
      obtain ⟨hc, hrest⟩ := hbare
      have hnext : input.toList = (before ++ [c]) ++ rest ++ after := by simpa using h
      rw [List.append_assoc] at h
      rw [ending_bare_of_isBare h hc, ← width_concat, ih hrest hnext, width_concat, width_cons,
        Nat.add_assoc]

/-- What comes of the body `q` of the quote at byte `opening`, by the text after its closing
quote. -/
def quotedReading (opening : Nat) (q : List Char) : List Char → Reading
  | [] => (some (.ok (Grammar.quotedItem q)), .ended)
  | d :: _ =>
    if d = ',' then (some (.ok (Grammar.quotedItem q)), .inside (opening + width q + 3))
    else if d = '\x7d' then (some (.ok (Grammar.quotedItem q)), .ended)
    else (some (.error (.unexpectedAfterQuote (opening + width q + 2) d)), .ended)

theorem slice_quoted {q : List Char} (h : input.toList = before ++ '"' :: (q ++ '"' :: after)) :
    slice input (width before + 1) (width before + width q + 1) = .ofList q := by
  have hq : input.toList = (before ++ ['"']) ++ q ++ ('"' :: after) := by simpa using h
  have hwidth : width (before ++ ['"']) = width before + 1 := width_concat ..
  have hcut := slice_eq hq
  rwa [hwidth, Nat.add_right_comm] at hcut

theorem closeQuote_eq {q : List Char} (h : input.toList = before ++ '"' :: (q ++ '"' :: after)) :
    closeQuote input (width before) (width before + width q + 1) (q.contains '\\') =
      quotedReading (width before) q after := by
  have hafter : input.toList = (before ++ ['"'] ++ q ++ ['"']) ++ after := by simpa using h
  have hwidth : width (before ++ ['"'] ++ q ++ ['"']) = width before + width q + 1 + 1 := by
    have hquote : width ['"'] = 1 := rfl
    simp only [width_append, hquote]
    omega
  rw [closeQuote, slice_quoted h]
  cases after with
  | nil =>
      rw [List.append_nil] at hafter
      have hend := byteAt?_eq_none hafter
      rw [hwidth] at hend
      simp only [hend]
      rfl
  | cons d tail =>
      rcases exists_byteAt? hafter d.utf8Size_pos with ⟨b, hb⟩
      have hcomma := byteAt?_width_iff hafter (d := ',') rfl
      have hclose := byteAt?_width_iff hafter (d := '\x7d') rfl
      have hfound := charAt?_eq hafter
      rw [Nat.add_zero] at hb
      rw [hb, Option.some_inj] at hcomma hclose
      rw [hwidth] at hb hfound
      have hcommaByte : b = commaByte ↔ d = ',' := hcomma
      have hcloseByte : b = closeByte ↔ d = '\x7d' := hclose
      simp only [hb, hfound, hcommaByte, hcloseByte, Option.getD_some]
      rfl

theorem ending_of_opening {start : Nat} {bare rest : List Char} (hbare : bare.all Grammar.isBare)
    (h : input.toList = before ++ (bare ++ '"' :: rest)) :
    ending input (.bare start) (width before) =
      match Grammar.body rest with
      | none => .unclosed (width before + width bare)
      | some (q, _) =>
        .quoted (width before + width bare) (width before + width bare + width q + 1)
          (q.contains '\\') := by
  have hquote : input.toList = (before ++ bare) ++ '"' :: rest := by rw [h, List.append_assoc]
  have hbody : input.toList = (before ++ bare ++ ['"']) ++ rest := by rw [hquote]; simp
  have hb : byteAt? input (width before + width bare) = some quoteByte := by
    rw [← width_append]
    exact byteAt?_of_ascii hquote rfl
  have hwidth : width (before ++ bare ++ ['"']) = width before + width bare + 1 := by
    rw [width_concat, width_append]
    rfl
  rw [ending_bare hbare hquote, ending_bare_of_byte hb, if_pos rfl, ← hwidth, ending_quoted hbody,
    hwidth]
  cases Grammar.body rest with
  | none => rfl
  | some found => simp only [Bool.false_or, Nat.add_right_comm]

theorem scan_of_body {start : Nat} {bare rest q tail : List Char} (hbare : bare.all Grammar.isBare)
    (h : input.toList = before ++ (bare ++ '"' :: rest))
    (hbody : Grammar.body rest = some (q, tail)) :
    scan input absence (.bare start) (width before) =
      quotedReading (width before + width bare) q tail := by
  have hquote : input.toList = (before ++ bare) ++ '"' :: (q ++ '"' :: tail) := by
    rw [h, Grammar.body_eq_append hbody, List.append_assoc]
  rw [scan_eq_reading, ending_of_opening hbare h, hbody, ← width_append]
  exact closeQuote_eq hquote

theorem ending_of_comma {start : Nat} {bare rest : List Char} (hbare : bare.all Grammar.isBare)
    (h : input.toList = before ++ bare ++ ',' :: rest) :
    ending input (.bare start) (width before) =
      .bare start (width before + width bare) (.inside (width before + width bare + 1)) := by
  have hb : byteAt? input (width before + width bare) = some commaByte := by
    rw [← width_append]
    exact byteAt?_of_ascii h rfl
  rw [ending_bare hbare h, ending_bare_of_byte hb, if_neg (by decide), if_pos rfl]

theorem ending_of_close {start : Nat} {bare rest : List Char} (hbare : bare.all Grammar.isBare)
    (h : input.toList = before ++ bare ++ '\x7d' :: rest) :
    ending input (.bare start) (width before) =
      .bare start (width before + width bare) .ended := by
  have hb : byteAt? input (width before + width bare) = some closeByte := by
    rw [← width_append]
    exact byteAt?_of_ascii h rfl
  rw [ending_bare hbare h, ending_bare_of_byte hb, if_neg (by decide), if_neg (by decide),
    if_pos rfl]

theorem ending_of_bare {bare : List Char} (hbare : bare.all Grammar.isBare)
    (h : input.toList = before ++ bare ++ []) :
    ending input (.bare (width before)) (width before) =
      if bare = [] then .nothing
      else .bare (width before) (width before + width bare) .ended := by
  have hend := byteAt?_eq_none (h.trans (List.append_nil _))
  rw [width_append] at hend
  rw [ending_bare hbare h, ending_of_end hend]
  cases bare with
  | nil => simp
  | cons c rest =>
      have hpos := c.utf8Size_pos
      have hlt : width before < width before + width (c :: rest) := by
        rw [width_cons]
        omega
      simp only [if_pos hlt, if_neg (List.cons_ne_nil c rest)]

theorem scan_of_comma {bare rest : List Char} (hbare : bare.all Grammar.isBare)
    (h : input.toList = before ++ (bare ++ ',' :: rest)) :
    scan input absence (.bare (width before)) (width before) =
      (some (.ok (Grammar.bareItem absence bare)), .inside (width before + width bare + 1)) := by
  rw [← List.append_assoc] at h
  rw [scan_eq_reading, ending_of_comma hbare h, Ending.reading, slice_eq h,
    Grammar.bareItem_eq]

theorem scan_of_close {bare rest : List Char} (hbare : bare.all Grammar.isBare)
    (h : input.toList = before ++ (bare ++ '\x7d' :: rest)) :
    scan input absence (.bare (width before)) (width before) =
      (some (.ok (Grammar.bareItem absence bare)), .ended) := by
  rw [← List.append_assoc] at h
  rw [scan_eq_reading, ending_of_close hbare h, Ending.reading, slice_eq h,
    Grammar.bareItem_eq]

theorem scan_of_bare {bare : List Char} (hbare : bare.all Grammar.isBare)
    (h : input.toList = before ++ bare) :
    scan input absence (.bare (width before)) (width before) =
      (if bare = [] then none else some (.ok (Grammar.bareItem absence bare)), .ended) := by
  rw [← List.append_nil (before ++ bare)] at h
  rw [scan_eq_reading, ending_of_bare hbare h]
  split
  · rfl
  · rw [Ending.reading, slice_eq h, Grammar.bareItem_eq]

/-- One step of the grammar is one scan. -/
theorem scan_of_step {text : List Char} {reading : Option (Except ArrayFault Item)}
    {next : Option (Nat × List Char)} (h : input.toList = before ++ text)
    (hstep : Grammar.Step absence (width before) text reading next) :
    scan input absence (.bare (width before)) (width before) =
      (reading, next.elim .ended fun (offset, _) => .inside offset) := by
  cases hstep with
  | nothing => exact scan_of_bare rfl h
  | bareEnd hbare hne => rw [scan_of_bare hbare h, if_neg hne]; rfl
  | bareComma hbare => exact scan_of_comma hbare h
  | bareClose hbare => exact scan_of_close hbare h
  | unterminated hbare hbody => rw [scan_eq_reading, ending_of_opening hbare h, hbody]; rfl
  | quotedEnd hbare hbody => exact scan_of_body hbare h hbody
  | quotedComma hbare hbody => exact scan_of_body hbare h hbody
  | quotedClose hbare hbody => exact scan_of_body hbare h hbody
  | unexpected hbare hbody hcomma hclose =>
      rw [scan_of_body hbare h hbody, quotedReading, if_neg hcomma, if_neg hclose]
      rfl

namespace Scanner

theorem toList_eq (s : Scanner) :
    s.toList = s.next.1.elim [] fun reading => reading :: s.next.2.toList := by
  rw [toList]
  split
  · next h => simp only [h, Option.elim_none]
  · next h => simp only [h, Option.elim_some]

theorem toList_ended (input : String) (absence : Absence) :
    ({ input, absence, cursor := .ended } : Scanner).toList = [] := by
  rw [toList_eq]
  rfl

theorem next_of_step {text : List Char} {reading : Option (Except ArrayFault Item)}
    {next : Option (Nat × List Char)} (h : input.toList = before ++ text)
    (hstep : Grammar.Step absence (width before) text reading next) :
    ({ input, absence, cursor := .inside (width before) } : Scanner).next =
      (reading,
        { input, absence, cursor := next.elim .ended fun (offset, _) => .inside offset }) := by
  simp only [Scanner.next, scan_of_step h hstep]

/-- From the beginning of an element on the scanner reads what the grammar reads. -/
theorem toList_inside {text : List Char} (h : input.toList = before ++ text) :
    ({ input, absence, cursor := .inside (width before) } : Scanner).toList =
      Grammar.elements absence (width before) text := by
  induction hn : text.length using Nat.strongRecOn generalizing before text with
  | ind n ih =>
      rcases Grammar.exists_step absence (width before) text with ⟨reading, next, hstep⟩
      rw [Grammar.elements_of_step hstep, toList_eq, next_of_step h hstep]
      cases next with
      | none =>
          cases reading with
          | none => rfl
          | some x =>
              simp only [Option.elim_some, Option.elim_none, toList_ended]
              rfl
      | some found =>
          rcases found with ⟨offset, rest⟩
          cases reading with
          | none => cases hstep
          | some x =>
              rcases hstep.exists_append with ⟨read, hne, rfl, rfl⟩
              have hlen := List.length_pos_iff.2 hne
              have hrest : input.toList = (before ++ read) ++ rest := by rw [h, List.append_assoc]
              have hlater := ih rest.length (by rw [← hn, List.length_append]; omega) hrest rfl
              rw [width_append] at hlater
              simp only [Option.elim_some, hlater]
              rfl

end Scanner

theorem readings_eq_first (literal : String) (absence : Absence) :
    readings literal absence =
      (Scanner.first literal absence).1.elim [] fun reading =>
        reading :: ({ input := literal, absence, cursor := (Scanner.first literal absence).2 } :
          Scanner).toList :=
  Scanner.toList_eq _

theorem readings_of_open {literal : String} {rest : List Char} (h : literal.toList = '\x7b' :: rest)
    (hnull : ¬ (absence = .collapse ∧ literal = "\x7bNULL\x7d")) :
    readings literal absence =
      if rest.head? = some '\x7d' then [] else Grammar.elements absence 1 rest := by
  have hempty : literal ≠ "" := by
    rintro rfl
    cases h
  have hstart : literal.toList = [] ++ '\x7b' :: rest := h
  have hfirst : byteAt? literal 0 = some openByte := byteAt?_of_ascii hstart rfl
  have hsecond : byteAt? literal 1 = some closeByte ↔ rest.head? = some '\x7d' := by
    cases rest with
    | nil =>
        have hend : byteAt? literal 1 = none := byteAt?_eq_none h
        rw [hend]
        constructor <;> intro heq <;> cases heq
    | cons d tail =>
        have hafter : literal.toList = ['\x7b'] ++ d :: tail := h
        rw [List.head?_cons, Option.some_inj]
        exact byteAt?_width_iff hafter (d := '\x7d') rfl
  rw [readings_eq_first, Scanner.first, if_neg (not_or.2 ⟨hempty, hnull⟩),
    if_neg (not_not.2 hfirst)]
  simp only [hsecond]
  by_cases hclose : rest.head? = some '\x7d'
  · rw [if_pos hclose, if_pos hclose]
    rfl
  · rw [if_neg hclose, if_neg hclose]
    have hafter : literal.toList = ['\x7b'] ++ rest := h
    have hinside : ({ input := literal, absence, cursor := .inside 1 } : Scanner).toList =
        Grammar.elements absence 1 rest := Scanner.toList_inside hafter
    rw [Scanner.toList_eq] at hinside
    exact hinside

theorem readings_of_ne_open {literal : String} {c : Char} {rest : List Char}
    (h : literal.toList = c :: rest) (hc : c ≠ '\x7b')
    (hnull : ¬ (absence = .collapse ∧ literal = "\x7bNULL\x7d")) :
    readings literal absence = [.error .missingOpeningBrace] := by
  have hempty : literal ≠ "" := by
    rintro rfl
    cases h
  have hstart : literal.toList = [] ++ c :: rest := h
  have hfirst : byteAt? literal 0 ≠ some openByte := by
    intro hb
    exact hc ((byteAt?_width_iff hstart (d := '\x7b') rfl).1 hb)
  rw [readings_eq_first, Scanner.first, if_neg (not_or.2 ⟨hempty, hnull⟩), if_pos hfirst]
  simp only [Option.elim_some, Scanner.toList_ended]

theorem readings_of_nothing {literal : String}
    (h : literal = "" ∨ absence = .collapse ∧ literal = "\x7bNULL\x7d") :
    readings literal absence = [] := by
  rw [readings_eq_first, Scanner.first, if_pos h]
  rfl

theorem Scanner.toList_unopened (literal : String) (absence : Absence) :
    ({ input := literal, absence } : Scanner).toList = Grammar.readings literal absence := by
  change readings literal absence = _
  rw [Grammar.readings]
  by_cases hnull : absence = .collapse ∧ literal = "\x7bNULL\x7d"
  · rw [if_pos hnull, readings_of_nothing (Or.inr hnull)]
  · rw [if_neg hnull]
    cases h : literal.toList with
    | nil =>
        rw [String.toList_eq_nil_iff] at h
        rw [readings_of_nothing (Or.inl h)]
    | cons c rest =>
        by_cases hc : c = '\x7b'
        · subst hc
          rw [readings_of_open h hnull]
          rfl
        · rw [readings_of_ne_open h hc hnull]
          simp only [ne_eq, hc, not_false_eq_true, if_true]

theorem items_eq_mapM (literal : String) (absence : Absence) :
    items literal absence = (Grammar.readings literal absence).mapM id := by
  rw [items, readings, Scanner.toList_unopened]

theorem items_eq_ok {literal : String} {list : List Item} :
    items literal absence = .ok list ↔ readings literal absence = list.map .ok := by
  rw [items, list_mapM_eq_ok, List.map_id]

/-- The scanner reads what the grammar says, for every text. -/
theorem readings_eq_grammar (literal : String) (absence : Absence) :
    readings literal absence = Grammar.readings literal absence :=
  Scanner.toList_unopened literal absence

end Rollup.ArrayLiteral
