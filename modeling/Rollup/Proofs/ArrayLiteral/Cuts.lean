import Rollup.Proofs.ArrayLiteral.Calls
import Rollup.Proofs.ArrayLiteral.Signs

/-!
The places where a reader cuts its literal. An element begins after the opening brace or after a
comma, and ends at a delimiter or at the end of the literal; all of these are character boundaries.
What is cut out between quotes is made of whole signs.
-/

namespace Rollup.ArrayLiteral

open Text

variable {input literal text : String} {absence : Absence} {call first : Nat} {e : Ending}

theorem isCut_slice {start stop : Nat} (hle : start ≤ stop)
    (hstart : String.Pos.Raw.IsValid input ⟨start⟩) (hstop : String.Pos.Raw.IsValid input ⟨stop⟩) :
    IsCut input start stop (slice input start stop) := by
  rcases exists_append_of_isValid hstart with ⟨before, rest, htext, rfl⟩
  rcases exists_append_of_isValid hstop with ⟨upTo, after, hsplit, rfl⟩
  rcases exists_between (htext.symm.trans hsplit) hle with ⟨between, rfl, rfl⟩
  have hslice : slice input (width before) (width (before ++ between)) = .ofList between := by
    rw [width_append]
    exact slice_eq hsplit
  refine ⟨hle, ?_, hstart, hstop, .ofList before, .ofList after, ?_, ?_, ?_⟩
  · rw [utf8ByteSize_eq_width hsplit, width_append (before ++ between)]
    exact Nat.le_add_right ..
  · rw [hslice, ← String.ofList_append, ← String.ofList_append, ← hsplit, String.ofList_toList]
  · exact utf8ByteSize_ofList before
  · rw [hslice, ← String.ofList_append]
    exact utf8ByteSize_ofList (before ++ between)

/-- Wherever a scan that began at a boundary cuts text out, there are boundaries. -/
theorem Ending.IsSound.isCut (h : e.IsSound input first)
    (hfirst : String.Pos.Raw.IsValid input ⟨first⟩) {start stop : Nat}
    (hcut : e.cut? = some (start, stop)) : IsCut input start stop (slice input start stop) := by
  cases h with
  | nothing | unclosed => cases hcut
  | comma hle hcomma =>
      cases hcut
      exact isCut_slice hle hfirst (isValid_of_byteAt? (d := ',') rfl hcomma)
  | close hle hclose =>
      cases hcut
      exact isCut_slice hle hfirst (isValid_of_byteAt? (d := '\x7d') rfl hclose)
  | bareEnd hle =>
      cases hcut
      exact isCut_slice hle hfirst (isValid_utf8ByteSize input)
  | quoted hopening hclosing _ hlt =>
      cases hcut
      exact isCut_slice hlt (isValid_succ_of_byteAt? (d := '"') rfl hopening)
        (isValid_of_byteAt? (d := '"') rfl hclosing)

namespace Scanner

theorem isValid_of_start? (h : (before literal absence call).start? = some first) :
    String.Pos.Raw.IsValid literal ⟨first⟩ := by
  cases call with
  | zero =>
      rcases first_cases literal absence with ⟨hopen, hstart, -⟩ | ⟨hstart, -⟩
      · obtain rfl : 1 = first := Option.some_inj.1 (hstart.symm.trans h)
        exact isValid_succ_of_byteAt? (d := '\x7b') rfl hopen
      · cases hstart.symm.trans h
  | succ call =>
      rw [start?] at h
      rcases before_succ_cases literal absence call with hended | ⟨_, comma, -, hcursor, -, hcomma⟩
      · rw [hended] at h
        cases h
      · rw [hcursor] at h
        obtain rfl : comma + 1 = first := Option.some_inj.1 h
        exact isValid_succ_of_byteAt? (d := ',') rfl hcomma

end Scanner

open Scanner

theorem exists_of_scanned? (h : scanned? literal absence call = some e) :
    ∃ first, String.Pos.Raw.IsValid literal ⟨first⟩ ∧ e = ending literal (.bare first) first ∧
      returned literal absence call = (e.reading literal absence).1 ∧
      (before literal absence (call + 1)).cursor = (e.reading literal absence).2 := by
  rcases Option.map_eq_some_iff.1 h with ⟨first, hstart, rfl⟩
  have hnext := next_of_start? hstart
  rw [before_input, before_absence] at hnext
  refine ⟨first, isValid_of_start? hstart, rfl, ?_, ?_⟩
  · rw [returned, hnext]
  · rw [before, hnext]

theorem returned_of_scanned?_eq_none (h : scanned? literal absence call = none) :
    returned literal absence call = none ∨
      returned literal absence call = some (.error .missingOpeningBrace) :=
  (next_of_start?_eq_none (Option.map_eq_none_iff.1 h)).1

theorem exists_scanned?_of_returned {reading : Except ArrayFault Item}
    (h : returned literal absence call = some reading)
    (hbrace : reading ≠ .error .missingOpeningBrace) :
    ∃ first, String.Pos.Raw.IsValid literal ⟨first⟩ ∧
      scanned? literal absence call = some (ending literal (.bare first) first) ∧
      ((ending literal (.bare first) first).reading literal absence).1 = some reading := by
  cases hscanned : scanned? literal absence call with
  | none =>
      rcases returned_of_scanned?_eq_none hscanned with hnone | hfault
      · cases hnone.symm.trans h
      · exact absurd (Option.some_inj.1 (h.symm.trans hfault)) hbrace
  | some e =>
      rcases exists_of_scanned? hscanned with ⟨first, hfirst, rfl, hreturned, -⟩
      exact ⟨first, hfirst, rfl, hreturned.symm.trans h⟩

theorem Item.ofBare_eq_present {cut : String} {escaped : Bool}
    (h : Item.ofBare absence cut = .present text escaped) :
    escaped = false ∧ (text = cut ∨ absence = .collapse ∧ text = "" ∧ cut = nullWord) := by
  unfold ofBare at h
  split at h
  · next habsent =>
      cases absence with
      | keep => cases h
      | collapse =>
          cases h
          refine ⟨rfl, ?_⟩
          rcases habsent with rfl | hnull
          · exact Or.inl rfl
          · exact Or.inr ⟨rfl, rfl, hnull⟩
  · cases h
    exact ⟨rfl, Or.inl rfl⟩

namespace Ending

theorem reading_eq_present {escaped : Bool}
    (h : (e.reading input absence).1 = some (.ok (.present text escaped))) :
    (e.isBare ∧ escaped = false ∧ ∃ start stop, e.cut? = some (start, stop) ∧
        (text = slice input start stop ∨
          absence = .collapse ∧ text = "" ∧ slice input start stop = nullWord)) ∨
      ∃ opening closing, e = .quoted opening closing escaped ∧
        text = slice input (opening + 1) closing := by
  cases e with
  | nothing | unclosed => cases h
  | bare start stop cursor =>
      obtain ⟨rfl, htext⟩ := Item.ofBare_eq_present (Except.ok.inj (Option.some_inj.1 h))
      exact Or.inl ⟨rfl, rfl, start, stop, rfl, htext⟩
  | quoted opening closing escaped' =>
      right
      rw [reading] at h
      rcases closeQuote_cases input opening closing escaped' with
        ⟨-, hread⟩ | hread | ⟨_, -, -, -, hread⟩ <;> rw [hread] at h <;> cases h <;>
        exact ⟨opening, closing, rfl, rfl⟩

theorem reading_eq_error {fault : ArrayFault}
    (h : (e.reading input absence).1 = some (.error fault)) :
    (∃ opening, e = .unclosed opening ∧ fault = .unterminatedQuote opening) ∨
      ∃ opening closing escaped b, e = .quoted opening closing escaped ∧
        byteAt? input (closing + 1) = some b ∧ b ≠ commaByte ∧ b ≠ closeByte ∧
        fault = .unexpectedAfterQuote (closing + 1)
          ((charAt? input (closing + 1)).getD (Char.ofNat 0)) := by
  cases e with
  | nothing | bare => cases h
  | unclosed opening =>
      cases h
      exact Or.inl ⟨opening, rfl, rfl⟩
  | quoted opening closing escaped =>
      right
      rw [reading] at h
      rcases closeQuote_cases input opening closing escaped with
        ⟨-, hread⟩ | hread | ⟨b, hb, hcomma, hclose, hread⟩ <;> rw [hread] at h <;> cases h
      exact ⟨opening, closing, escaped, b, rfl, hb, hcomma, hclose, rfl⟩

end Ending

theorem exists_charAt?_of_quote {quote : Nat} {b : UInt8}
    (hquote : byteAt? input quote = some quoteByte) (hb : byteAt? input (quote + 1) = some b)
    (hcomma : b ≠ commaByte) (hclose : b ≠ closeByte) :
    ∃ found, charAt? input (quote + 1) = some found ∧ found ≠ ',' ∧ found ≠ '\x7d' := by
  rcases exists_append_of_byteAt? (d := '"') rfl hquote with ⟨before, after, htext, rfl⟩
  have hafter : input.toList = (before ++ ['"']) ++ after := by rw [htext, List.append_cons]
  have hwidth : width (before ++ ['"']) = width before + 1 := width_concat ..
  cases after with
  | nil =>
      have hend := byteAt?_eq_none (hafter.trans (List.append_nil _))
      rw [hwidth, hb] at hend
      cases hend
  | cons d tail =>
      have hfound := charAt?_eq hafter
      have hbyte {delimiter : Char} (hsize : delimiter.utf8Size = 1) (hd : d = delimiter) :
          b = delimiter.val.toUInt8 := by
        have hfirst := (byteAt?_width_iff hafter hsize).2 hd
        rw [hwidth, hb] at hfirst
        exact Option.some_inj.1 hfirst
      rw [hwidth] at hfound
      exact ⟨d, hfound, fun hd => hcomma (hbyte rfl hd), fun hd => hclose (hbyte rfl hd)⟩

theorem exists_body_of_ending {opening closing : Nat} {escaped : Bool}
    (hfirst : String.Pos.Raw.IsValid input ⟨first⟩)
    (h : ending input (.bare first) first = .quoted opening closing escaped) :
    ∃ rest q after, Grammar.body rest = some (q, after) ∧
      slice input (opening + 1) closing = .ofList q ∧ escaped = q.contains '\\' := by
  rcases exists_append_of_isValid hfirst with ⟨before, chars, htext, rfl⟩
  rcases Grammar.exists_bare chars with ⟨bare, hbare, rfl | ⟨d, rest, rfl | rfl | rfl, rfl⟩⟩
  · rw [ending_of_bare hbare (htext.trans (List.append_nil _).symm)] at h
    split at h <;> cases h
  · rw [ending_of_opening hbare htext] at h
    cases hbody : Grammar.body rest with
    | none =>
        rw [hbody] at h
        cases h
    | some found =>
        obtain ⟨q, after⟩ := found
        rw [hbody] at h
        cases h
        have hquoted : input.toList = (before ++ bare) ++ '"' :: (q ++ '"' :: after) := by
          rw [htext, Grammar.body_eq_append hbody, List.append_assoc]
        refine ⟨rest, q, after, hbody, ?_, rfl⟩
        rw [← width_append]
        exact slice_quoted hquoted
  · rw [ending_of_comma hbare (htext.trans (List.append_assoc ..).symm)] at h
    cases h
  · rw [ending_of_close hbare (htext.trans (List.append_assoc ..).symm)] at h
    cases h

theorem exists_signs_of_body {rest q after : List Char}
    (hbody : Grammar.body rest = some (q, after)) (hescaped : q.contains '\\')
    (htext : text.toList = q) :
    ∃ signs : List Sign, text.toList = signs.flatMap Sign.written ∧
      (∀ sign ∈ signs, sign.IsProper) ∧ signs.any Sign.escaped ∧ dangles text.toList = false ∧
      (resolve text true).toList = signs.map Sign.char ∧
      text.length = (resolve text true).length + signs.countP Sign.escaped := by
  rcases exists_signs hbody with ⟨signs, rfl, hproper⟩
  have hresolved : (resolve text true).toList = signs.map Sign.char := by
    rw [resolve, if_pos rfl, String.toList_ofList, htext, unescape_written hproper]
  refine ⟨signs, htext, hproper, ?_, ?_, hresolved, ?_⟩
  · exact (mem_backslash_iff hproper).1 (List.contains_iff_mem.1 hescaped)
  · rw [htext, dangles_written hproper]
  · rw [← String.length_toList, ← String.length_toList, htext, hresolved, length_written,
      List.length_map]

theorem exists_cut_of_present {escaped : Bool}
    (h : returned literal absence call = some (.ok (.present text escaped))) :
    ∃ e start stop, scanned? literal absence call = some e ∧ e.cut? = some (start, stop) ∧
      (IsCut literal start stop text ∨
        absence = .collapse ∧ e.isBare ∧ text = "" ∧ IsCut literal start stop nullWord) ∧
      (escaped = true → ∃ signs : List Sign, text.toList = signs.flatMap Sign.written ∧
        (∀ sign ∈ signs, sign.IsProper) ∧ signs.any Sign.escaped ∧ dangles text.toList = false ∧
        (resolve text true).toList = signs.map Sign.char ∧
        text.length = (resolve text true).length + signs.countP Sign.escaped) ∧
      (escaped = false → e.isBare ∨ '\\' ∉ text.toList) := by
  rcases exists_scanned?_of_returned h nofun with ⟨first, hfirst, hscanned, hread⟩
  have hsound := ending_bare_isSound literal first
  rcases Ending.reading_eq_present hread with
    ⟨hbare, rfl, start, stop, hcut, htext⟩ | ⟨opening, closing, hquoted, rfl⟩
  · refine ⟨_, start, stop, hscanned, hcut, ?_, nofun, fun _ => Or.inl hbare⟩
    have hslice := hsound.isCut hfirst hcut
    rcases htext with rfl | ⟨hcollapse, hempty, hnull⟩
    · exact Or.inl hslice
    · rw [hnull] at hslice
      exact Or.inr ⟨hcollapse, hbare, hempty, hslice⟩
  · rcases exists_body_of_ending hfirst hquoted with ⟨rest, q, after, hbody, hslice, hescaped⟩
    have hcut : (ending literal (.bare first) first).cut? = some (opening + 1, closing) := by
      rw [hquoted, Ending.cut?]
    have htext : (slice literal (opening + 1) closing).toList = q := by
      rw [hslice, String.toList_ofList]
    refine ⟨_, _, _, hscanned, hcut, Or.inl (hsound.isCut hfirst hcut), ?_, ?_⟩
    · rintro rfl
      exact exists_signs_of_body hbody hescaped.symm htext
    · rintro rfl
      right
      rw [htext, ← List.contains_iff_mem, ← hescaped]
      exact Bool.false_ne_true

theorem quote_of_unterminated {opening : Nat}
    (h : returned literal absence call = some (.error (.unterminatedQuote opening))) :
    byteAt? literal opening = some quoteByte := by
  rcases exists_scanned?_of_returned h nofun with ⟨first, -, -, hread⟩
  have hsound := ending_bare_isSound literal first
  rcases Ending.reading_eq_error hread with
    ⟨_, hunclosed, hfault⟩ | ⟨_, _, _, _, -, -, -, -, hfault⟩
  · cases hfault
    rw [hunclosed] at hsound
    cases hsound with
    | unclosed hquote => exact hquote
  · cases hfault

theorem quote_of_unexpected {offset : Nat} {found : Char}
    (h : returned literal absence call = some (.error (.unexpectedAfterQuote offset found))) :
    (∃ quote, byteAt? literal quote = some quoteByte ∧ offset = quote + 1) ∧
      charAt? literal offset = some found ∧ found ≠ ',' ∧ found ≠ '\x7d' := by
  rcases exists_scanned?_of_returned h nofun with ⟨first, -, -, hread⟩
  have hsound := ending_bare_isSound literal first
  rcases Ending.reading_eq_error hread with
    ⟨_, -, hfault⟩ | ⟨opening, closing, escaped, b, hquoted, hb, hcomma, hclose, hfault⟩
  · cases hfault
  · rw [hquoted] at hsound
    cases hsound with
    | quoted _ hclosing =>
        rcases exists_charAt?_of_quote hclosing hb hcomma hclose with ⟨c, hfound, hne⟩
        rw [hfound] at hfault
        cases hfault
        exact ⟨⟨closing, hclosing, rfl⟩, hfound, hne⟩

/-- Every call that scans cuts its literal at character boundaries in order, so what it cuts out is
what stands there; a call that does not scan returns nothing or finds no opening brace. A present
element is what has been cut out, unless it is an absent one that reads as empty. One flagged as
escaped is made of whole signs, of which those with a backslash lose it and nothing else; any other
one has been bare or holds no backslash. A quote that is not closed is where the fault says, and
what follows a closing quote is the character of the fault and no delimiter. -/
theorem elements_are_cut_at_boundaries (literal : String) (absence : Absence) (call : Nat) :
    (∀ e, scanned? literal absence call = some e →
      returned literal absence call = (e.reading literal absence).1 ∧
      (before literal absence (call + 1)).cursor = (e.reading literal absence).2 ∧
      ∀ start stop, e.cut? = some (start, stop) →
        IsCut literal start stop (slice literal start stop)) ∧
    (scanned? literal absence call = none →
      returned literal absence call = none ∨
        returned literal absence call = some (.error .missingOpeningBrace)) ∧
    (∀ text escaped, returned literal absence call = some (.ok (.present text escaped)) →
      ∃ e start stop, scanned? literal absence call = some e ∧ e.cut? = some (start, stop) ∧
        (IsCut literal start stop text ∨
          absence = .collapse ∧ e.isBare ∧ text = "" ∧ IsCut literal start stop nullWord) ∧
        (escaped = true → ∃ signs : List Sign, text.toList = signs.flatMap Sign.written ∧
          (∀ sign ∈ signs, sign.IsProper) ∧ signs.any Sign.escaped ∧ dangles text.toList = false ∧
          (resolve text true).toList = signs.map Sign.char ∧
          text.length = (resolve text true).length + signs.countP Sign.escaped) ∧
        (escaped = false → e.isBare ∨ '\\' ∉ text.toList)) ∧
    (∀ opening, returned literal absence call = some (.error (.unterminatedQuote opening)) →
      byteAt? literal opening = some quoteByte) ∧
    ∀ offset found,
      returned literal absence call = some (.error (.unexpectedAfterQuote offset found)) →
        (∃ quote, byteAt? literal quote = some quoteByte ∧ offset = quote + 1) ∧
          charAt? literal offset = some found ∧ found ≠ ',' ∧ found ≠ '\x7d' := by
  refine ⟨?_, returned_of_scanned?_eq_none, fun _ _ => exists_cut_of_present,
    fun _ => quote_of_unterminated, fun _ _ => quote_of_unexpected⟩
  intro e hscanned
  rcases exists_of_scanned? hscanned with ⟨first, hfirst, rfl, hreturned, hcursor⟩
  exact ⟨hreturned, hcursor, fun _ _ => (ending_bare_isSound literal first).isCut hfirst⟩

/-- A character of two bytes, an escaped quote, and a character after a closing quote. -/
example :
    (List.range 3).map (scanned? "\x7bé,\"a\\\"b\"x" .keep) =
        [some (.bare 1 3 (.inside 4)), some (.quoted 4 9 true), none] ∧
      (List.range 3).map (returned "\x7bé,\"a\\\"b\"x" .keep) =
        [some (.ok (.present "é" false)), some (.error (.unexpectedAfterQuote 10 'x')), none] := by
  constructor <;> cbv

end Rollup.ArrayLiteral
