import Mathlib.Tactic.SplitIfs
import Rollup.Json.Reader

namespace Rollup.Json

/-- The characters of pieces, one piece after the other. -/
def chars (pieces : List String) : List Char := pieces.flatMap String.toList

theorem chars_cons (piece : String) (rest : List String) :
    chars (piece :: rest) = piece.toList ++ chars rest := List.flatMap_cons

theorem chars_append (first second : List String) :
    chars (first ++ second) = chars first ++ chars second := List.flatMap_append

/-- A character as it stands in a string. -/
def escape (c : Char) : List Char := (escape? c).getD [c]

theorem flatten_contents (run chars : List Char) :
    (contents run chars).flatten = run.reverse ++ chars.flatMap escape := by
  induction chars generalizing run with
  | nil => simp [contents]
  | cons c rest ih =>
      rw [contents, List.flatMap_cons, escape]
      cases escape? c with
      | none => simp [ih]
      | some text => simp [ih]

/-- What may stand for a character in a string: itself, a backslash with a letter or mark, or its
code point. -/
inductive StandsFor (c : Char) : List Char → Prop where
  | plain : c ≠ '"' → c ≠ '\\' → 0x20 ≤ c.toNat → StandsFor c [c]
  | letter {d : Char} : escaped? d = some c → StandsFor c ['\\', d]
  | code : c.toNat < 0x20 → StandsFor c (['\\', 'u', '0', '0'] ++ twoHexDigits c.toNat)

theorem StandsFor.of_eq {c meant d : Char} (h : c = meant) (hd : escaped? d = some meant) :
    StandsFor c ['\\', d] := by
  rw [h]
  exact .letter hd

theorem standsFor_escape (c : Char) : StandsFor c (escape c) := by
  rw [escape, escape?]
  split_ifs with hquote hbackslash hb ht hn hf hr hlow
  · exact .of_eq hquote rfl
  · exact .of_eq hbackslash rfl
  · exact .of_eq hb rfl
  · exact .of_eq ht rfl
  · exact .of_eq hn rfl
  · exact .of_eq hf rfl
  · exact .of_eq hr rfl
  · exact .code hlow
  · exact .plain hquote hbackslash (Nat.not_lt.1 hlow)

theorem unit?_twoHexDigits :
    ∀ n < 0x20, unit? (['0', '0'] ++ twoHexDigits n) = some n := by decide

theorem digitChar_isPlain :
    ∀ n < 16, Nat.digitChar n ≠ '"' ∧ Nat.digitChar n ≠ '\\' ∧ Nat.digitChar n ≠ '\n' := by
  decide

theorem isPlain_of_mem_twoHexDigits {n : Nat} {d : Char} (h : d ∈ twoHexDigits n) :
    d ≠ '"' ∧ d ≠ '\\' ∧ d ≠ '\n' := by
  rcases List.mem_cons.1 h with rfl | h
  · exact digitChar_isPlain _ (Nat.mod_lt _ (by decide))
  · rw [List.mem_singleton.1 h]
    exact digitChar_isPlain _ (Nat.mod_lt _ (by decide))

theorem tokens?_of_none {begun begun' : Begun} {c : Char} (h : next? begun c = some ([], begun'))
    (rest : List Char) : tokens? begun (c :: rest) = tokens? begun' rest := by
  rw [tokens?, h]
  exact Option.map_id'

theorem tokens?_of_one {begun begun' : Begun} {c : Char} {token : Token}
    (h : next? begun c = some ([token], begun')) (rest : List Char) :
    tokens? begun (c :: rest) = (tokens? begun' rest).map (token :: ·) := by
  rw [tokens?, h]
  rfl

theorem tokens?_plain {c : Char} (hquote : c ≠ '"') (hbackslash : c ≠ '\\')
    (read rest : List Char) :
    tokens? (.string false read) (c :: rest) = tokens? (.string false (c :: read)) rest := by
  refine tokens?_of_none ?_ rest
  rw [next?, if_neg hquote, decide_eq_false hbackslash]

theorem tokens?_backslash (c : Char) (read rest : List Char) :
    tokens? (.string false read) ('\\' :: c :: rest) =
      tokens? (.string false (c :: '\\' :: read)) rest :=
  (tokens?_of_none rfl (c :: rest)).trans (tokens?_of_none rfl rest)

namespace StandsFor

variable {c : Char} {text : List Char}

theorem newline_notMem (h : StandsFor c text) : '\n' ∉ text := by
  intro hmem
  cases h with
  | plain hquote hbackslash hhigh =>
      obtain rfl := List.mem_singleton.1 hmem
      exact absurd hhigh (by decide)
  | letter hletter =>
      obtain rfl : '\n' = _ := by simpa using hmem
      cases hletter
  | code hlow =>
      rcases List.mem_append.1 hmem with hmark | hdigit
      · exact absurd hmark (by decide)
      · exact (isPlain_of_mem_twoHexDigits hdigit).2.2 rfl

theorem unescape?_append (h : StandsFor c text) (rest : List Char) :
    unescape? (text ++ rest) = (unescape? rest).map (c :: ·) := by
  cases h with
  | plain hquote hbackslash hhigh =>
      rw [List.singleton_append, unescape?, if_neg]
      · simpa using ⟨hbackslash, hhigh⟩
      · intro _ _ _ _ _ hc
        exact absurd hc hbackslash
      · intro _ _ hc
        exact absurd hc hbackslash
  | @letter d hletter =>
      rw [List.cons_append, List.singleton_append, unescape?, hletter]
      intro _ _ _ _ _ hd
      subst hd
      cases hletter
  | code hlow =>
      have hunit := unit?_twoHexDigits c.toNat hlow
      rw [twoHexDigits] at hunit ⊢
      simp only [List.cons_append, List.nil_append] at hunit ⊢
      have htrailing : isTrailing c.toNat = false := by
        rw [isTrailing, Bool.and_eq_false_iff, decide_eq_false_iff_not]
        omega
      have hleading : isLeading c.toNat = false := by
        rw [isLeading, Bool.and_eq_false_iff, decide_eq_false_iff_not]
        omega
      rw [unescape?, hunit]
      simp [htrailing, hleading]

theorem tokens?_append (h : StandsFor c text) (read rest : List Char) :
    tokens? (.string false read) (text ++ rest) =
      tokens? (.string false (text.reverse ++ read)) rest := by
  cases h with
  | plain hquote hbackslash hhigh => exact tokens?_plain hquote hbackslash read rest
  | letter hletter => exact tokens?_backslash _ read rest
  | code hlow =>
      have hplain (d : Char) (hd : d ∈ twoHexDigits c.toNat) := isPlain_of_mem_twoHexDigits hd
      obtain ⟨hfirst, hsecond⟩ := List.forall_mem_cons.1 hplain
      have hsecond := List.forall_mem_singleton.1 hsecond
      simp only [twoHexDigits, List.cons_append, List.nil_append]
      rw [tokens?_backslash, tokens?_plain (by decide) (by decide),
        tokens?_plain (by decide) (by decide), tokens?_plain hfirst.1 hfirst.2.1,
        tokens?_plain hsecond.1 hsecond.2.1]
      rfl

end StandsFor

theorem newline_notMem_escapes (chars : List Char) : '\n' ∉ chars.flatMap escape := by
  intro h
  obtain ⟨c, -, hc⟩ := List.mem_flatMap.1 h
  exact (standsFor_escape c).newline_notMem hc

theorem unescape?_escapes (chars : List Char) : unescape? (chars.flatMap escape) = some chars := by
  induction chars with
  | nil => rfl
  | cons c rest ih =>
      rw [List.flatMap_cons, (standsFor_escape c).unescape?_append, ih]
      rfl

theorem tokens?_escapes (chars read rest : List Char) :
    tokens? (.string false read) (chars.flatMap escape ++ rest) =
      tokens? (.string false ((chars.flatMap escape).reverse ++ read)) rest := by
  induction chars generalizing read with
  | nil => rfl
  | cons c chars ih =>
      rw [List.flatMap_cons, List.append_assoc, (standsFor_escape c).tokens?_append, ih,
        List.reverse_append, List.append_assoc]

/-- A text in quotation marks. -/
def quoted (text : String) : List Char := '"' :: text.toList.flatMap escape ++ ['"']

theorem chars_quotedPieces (text : String) : chars (quotedPieces text) = quoted text := by
  have hinside : chars ((contents [] text.toList).map String.ofList) =
      text.toList.flatMap escape := by
    rw [chars, List.flatMap_map]
    simp only [String.toList_ofList]
    rw [List.flatMap_id', flatten_contents]
    rfl
  rw [quotedPieces, chars_append, chars_cons, hinside]
  rfl

theorem newline_notMem_quoted (text : String) : '\n' ∉ quoted text := by
  have hinside := newline_notMem_escapes text.toList
  simp [quoted, hinside]

theorem tokens?_quoted (text : String) (rest : List Char) :
    tokens? .nothing (quoted text ++ rest) = (tokens? .nothing rest).map (.string text :: ·) := by
  have hclose : next? (.string false (text.toList.flatMap escape).reverse) '"' =
      some ([.string text], .nothing) := by
    rw [next?, if_pos rfl, List.reverse_reverse, unescape?_escapes, Option.map_some,
      String.ofList_toList]
  have hopen : next? .nothing '"' = some ([], .string false []) := rfl
  rw [quoted, List.append_assoc, List.cons_append, tokens?_of_none hopen, tokens?_escapes,
    List.append_nil, List.singleton_append, tokens?_of_one hclose]

theorem tokens?_mark {c : Char} {mark : Token} (h : Token.ofMark? c = some mark)
    (rest : List Char) :
    tokens? .nothing (c :: rest) = (tokens? .nothing rest).map (mark :: ·) := by
  refine tokens?_of_one ?_ rest
  rw [next?, begin?, h]

theorem ne_of_inWord {c d : Char} (h : inWord c) (hd : inWord d = false) : c ≠ d := by
  rintro rfl
  rw [h] at hd
  cases hd

theorem begin?_of_inWord {c : Char} (h : inWord c) : begin? c = some ([], .word [c]) := by
  have hmark : Token.ofMark? c = none := by
    rw [Token.ofMark?, if_neg (ne_of_inWord h rfl), if_neg (ne_of_inWord h rfl),
      if_neg (ne_of_inWord h rfl), if_neg (ne_of_inWord h rfl), if_neg (ne_of_inWord h rfl),
      if_neg (ne_of_inWord h rfl)]
  have hblank : isBlank c = false := by
    rw [isBlank, decide_eq_false (ne_of_inWord h rfl), decide_eq_false (ne_of_inWord h rfl),
      decide_eq_false (ne_of_inWord h rfl), decide_eq_false (ne_of_inWord h rfl)]
    rfl
  rw [begin?, hmark, hblank]
  simp only [Bool.false_eq_true, if_false]
  rw [if_neg (ne_of_inWord h rfl), if_pos h]

/-- A text before which a word ends. -/
def EndsWord (text : List Char) : Prop := ∀ c ∈ text.head?, inWord c = false

theorem tokens?_inWord {chars : List Char} (h : ∀ c ∈ chars, inWord c) (read rest : List Char) :
    tokens? (.word read) (chars ++ rest) = tokens? (.word (chars.reverse ++ read)) rest := by
  induction chars generalizing read with
  | nil => rfl
  | cons c chars ih =>
      obtain ⟨hc, hchars⟩ := List.forall_mem_cons.1 h
      have hnext : next? (.word read) c = some ([], .word (c :: read)) := by rw [next?, if_pos hc]
      rw [List.cons_append, tokens?_of_none hnext, ih hchars, List.reverse_cons, List.append_assoc]
      rfl

theorem tokens?_of_endsWord {read rest : List Char} {value : Json}
    (hvalue : ofWord? read.reverse = some value) (hrest : EndsWord rest) :
    tokens? (.word read) rest = (tokens? .nothing rest).map (.word value :: ·) := by
  have hend : end? (.word read) = some [.word value] := by rw [end?, hvalue, Option.map_some]
  cases rest with
  | nil => rw [tokens?, tokens?, hend, end?, Option.map_some]
  | cons c rest =>
      have hc : ¬ inWord c := by simpa using hrest c rfl
      -- The character that ends the word is taken once more, as one between tokens.
      rw [tokens?, tokens?, next?, next?, if_neg hc, hend]
      cases begin? c with
      | none => rfl
      | some begun => simp [Function.comp_def]

theorem tokens?_word {chars rest : List Char} {value : Json} (hchars : ∀ c ∈ chars, inWord c)
    (hvalue : ofWord? chars = some value) (hrest : EndsWord rest) :
    tokens? .nothing (chars ++ rest) = (tokens? .nothing rest).map (.word value :: ·) := by
  cases chars with
  | nil => cases hvalue
  | cons c chars =>
      obtain ⟨hc, hchars⟩ := List.forall_mem_cons.1 hchars
      have hread : ofWord? (chars.reverse ++ [c]).reverse = some value := by
        rwa [List.reverse_append, List.reverse_reverse]
      have hnext : next? .nothing c = some ([], .word [c]) := begin?_of_inWord hc
      rw [List.cons_append, tokens?_of_none hnext, tokens?_inWord hchars,
        tokens?_of_endsWord hread hrest]

theorem inWord_of_isDigit {c : Char} (h : c.isDigit) : inWord c := by
  simp [inWord, Char.isAlphanum, h]

theorem mem_dropSign {text : List Char} {c : Char} (h : c ∈ text) :
    c = '+' ∨ c = '-' ∨ c ∈ dropSign text := by
  unfold dropSign
  split
  · next rest => exact (List.mem_cons.1 h).imp_right .inr
  · next rest => exact .inr (List.mem_cons.1 h)
  · exact .inr (.inr h)

theorem inWord_of_isExponent {text : List Char} (h : isExponent text) : ∀ c ∈ text, inWord c := by
  cases text with
  | nil => exact fun c hc => absurd hc List.not_mem_nil
  | cons mark rest =>
      obtain ⟨hmark, hdigits⟩ := of_decide_eq_true h
      refine List.forall_mem_cons.2 ⟨?_, ?_⟩
      · rcases hmark with rfl | rfl <;> rfl
      · intro c hc
        rcases mem_dropSign hc with rfl | rfl | hdigit
        · rfl
        · rfl
        · exact inWord_of_isDigit (hdigits.2 c hdigit)

theorem inWord_of_takeWhile {text : List Char}
    (h : ∀ c ∈ text.dropWhile Char.isDigit, inWord c) : ∀ c ∈ text, inWord c := by
  intro c hc
  rw [← List.takeWhile_append_dropWhile (p := Char.isDigit) (l := text)] at hc
  rcases List.mem_append.1 hc with hdigit | hrest
  · exact inWord_of_isDigit (List.all_eq_true.1 List.all_takeWhile c hdigit)
  · exact h c hrest

theorem inWord_of_isFraction {text : List Char} (h : isFraction text) : ∀ c ∈ text, inWord c := by
  unfold isFraction at h
  split at h
  · next rest =>
      obtain ⟨-, hexponent⟩ := of_decide_eq_true h
      refine List.forall_mem_cons.2 ⟨rfl, ?_⟩
      exact inWord_of_takeWhile (inWord_of_isExponent hexponent)
  · exact inWord_of_isExponent h

theorem inWord_of_isUnsigned {text : List Char} (h : isUnsigned text) : ∀ c ∈ text, inWord c := by
  obtain ⟨-, hfraction⟩ := of_decide_eq_true h
  exact inWord_of_takeWhile (inWord_of_isFraction hfraction)

theorem inWord_of_isNumeral {text : List Char} (h : isNumeral text) : ∀ c ∈ text, inWord c := by
  unfold isNumeral at h
  split at h
  · exact List.forall_mem_cons.2 ⟨rfl, inWord_of_isUnsigned h⟩
  · exact inWord_of_isUnsigned h

theorem ofWord?_numeral (numeral : Numeral) :
    ofWord? numeral.text.toList = some (.number numeral) := by
  have hne : ∀ word, isNumeral word = false → numeral.text.toList ≠ word := by
    rintro word hword rfl
    rw [numeral.valid] at hword
    cases hword
  have hnumeral : Numeral.ofChars? numeral.text.toList = some numeral := by
    simp [Numeral.ofChars?, numeral.valid]
  rw [ofWord?, if_neg (hne _ rfl), if_neg (hne _ rfl), if_neg (hne _ rfl), hnumeral,
    Option.map_some]

end Rollup.Json
