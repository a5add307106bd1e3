import Rollup.Proofs.ArrayLiteral.Ids

namespace Rollup.ArrayLiteral

open Grammar (isBare isPiece_of_bare IsPiece)

/-- The number of a type that an element spells; an absent one spells none. -/
def Item.number? (type : IntegerType) (item : Item) : Option Int :=
  item.text?.bind fun text => type.read? text.toList

theorem Item.number?_ofBare (type : IntegerType) (text : String) :
    (Item.ofBare .keep text).number? type = type.read? text.toList := by
  rw [Item.ofBare]
  split
  · next habsent => rcases habsent with rfl | rfl <;> rfl
  · rfl

theorem Item.escaped_ofBare (text : String) : (Item.ofBare .keep text).escaped = false := by
  rw [Item.ofBare]
  split <;> rfl

/-- The elements spell the numbers, one by one. -/
def Spell (type : IntegerType) : List Item → List Int → Prop :=
  List.Forall₂ fun item n => item.number? type = some n

/-- Without quotes, and empty or in braces of which only the last closes. -/
def IsPlain (literal : List Char) : Prop :=
  '"' ∉ literal ∧
    (literal = [] ∨ ∃ body, literal = '\x7b' :: (body ++ ['\x7d']) ∧ '\x7d' ∉ body)

theorem items_nullWord : items "\x7bNULL\x7d" .keep = .ok [.absent] := by
  have hchars : ("\x7bNULL\x7d").toList = '\x7b' :: (nullWord.toList ++ ['\x7d']) := rfl
  apply items_eq_ok.2
  rw [readings_of_open hchars (by simp), if_neg (by decide),
    (isPiece_of_bare .keep nullWord.toList (by decide)).close]
  rfl

theorem mem_iff_exists_spans {c : Char} (hc : c ≠ ',') (text : List Char) :
    c ∈ text ↔ ∃ span ∈ spans text, c ∈ span := by
  rw [spans_eq_splitOn]
  induction text with
  | nil => simp [List.splitOn_nil]
  | cons d rest ih =>
      obtain ⟨first, others, hrest⟩ := List.exists_cons_of_ne_nil (List.splitOn_ne_nil ',' rest)
      rw [hrest] at ih
      rw [List.mem_cons, ih, List.splitOn_cons_eq_if_modifyHead, hrest]
      by_cases hd : d = ','
      · subst hd
        simp [hc]
      · simp [hd, or_assoc]

theorem all_isBare_of_mem_spans {body span : List Char} (hquote : '"' ∉ body)
    (hclose : '\x7d' ∉ body) (hspan : span ∈ spans body) : span.all isBare := by
  rw [List.all_eq_true]
  intro c hc
  have hcomma : c ≠ ',' := by
    rintro rfl
    exact comma_notMem_of_mem_spans hspan hc
  have hmem : c ∈ body := (mem_iff_exists_spans hcomma body).2 ⟨span, hspan, hc⟩
  simp only [isBare, Bool.and_eq_true, bne_iff_ne]
  exact ⟨⟨ne_of_mem_of_not_mem hmem hquote, hcomma⟩, ne_of_mem_of_not_mem hmem hclose⟩

theorem items_of_body {literal : String} {body : List Char}
    (h : literal.toList = '\x7b' :: (body ++ ['\x7d'])) (hne : body ≠ []) (hquote : '"' ∉ body)
    (hclose : '\x7d' ∉ body) :
    items literal .keep = .ok ((spans body).map fun span => .ofBare .keep (.ofList span)) := by
  have hpieces : List.Forall₂ (IsPiece .keep) (spans body)
      ((spans body).map fun span => .ofBare .keep (.ofList span)) := by
    rw [List.forall₂_map_right_iff]
    apply List.forall₂_same.2
    intro span hspan
    exact isPiece_of_bare .keep span (all_isBare_of_mem_spans hquote hclose hspan)
  have hhead : (body ++ ['\x7d']).head? ≠ some '\x7d' := by
    rw [List.head?_append_of_ne_nil _ hne]
    intro hhead
    exact hclose (List.mem_of_mem_head? hhead)
  apply items_eq_ok.2
  rw [readings_of_open h (by simp), if_neg hhead]
  have helements := Grammar.elements_intercalate hpieces (spans_ne_nil body) 1 []
  rwa [intercalate_spans] at helements

theorem spell_ofBare {type : IntegerType} {texts : List (List Char)} {numbers : List Int} :
    Spell type (texts.map fun text => .ofBare .keep (.ofList text)) numbers ↔
      List.Forall₂ type.Writes texts numbers := by
  simp only [Spell, List.forall₂_map_left_iff, Item.number?_ofBare, String.toList_ofList,
    IntegerType.read?_eq_some]

theorem items_of_standsForNone {literal : String} (h : StandsForNone literal.toList)
    (hnull : literal ≠ "\x7bNULL\x7d") : items literal .keep = .ok [] := by
  apply items_eq_ok.2
  rw [readings, Scanner.toList_unopened]
  rcases standsForNone_toList.1 h with rfl | rfl | rfl
  · rfl
  · rfl
  · exact absurd rfl hnull

theorem IsPlain.exists_body {literal : List Char} (hplain : IsPlain literal)
    (hnone : ¬ StandsForNone literal) :
    ∃ body, literal = '\x7b' :: (body ++ ['\x7d']) ∧ body ≠ [] ∧ '"' ∉ body ∧ '\x7d' ∉ body := by
  obtain ⟨hquote, rfl | ⟨body, rfl, hclose⟩⟩ := hplain
  · exact absurd (Or.inl rfl) hnone
  · refine ⟨body, rfl, ?_, ?_, hclose⟩
    · rintro rfl
      exact hnone (Or.inr (Or.inl rfl))
    · intro hmem
      exact hquote (List.mem_cons_of_mem _ (List.mem_append_left _ hmem))

theorem exists_items_of_isPlain (type : IntegerType) {literal : String}
    (hplain : IsPlain literal.toList) (hnull : literal ≠ "\x7bNULL\x7d") :
    ∃ list, items literal .keep = .ok list ∧ (∀ item ∈ list, item.escaped = false) ∧
      (∀ numbers, decodeIds type literal = .ok numbers ↔ Spell type list numbers) ∧
      ((∃ value, decodeIds type literal = .error (.conversion value)) ↔
        ∃ item ∈ list, item.number? type = none) := by
  by_cases hnone : StandsForNone literal.toList
  · refine ⟨[], items_of_standsForNone hnone hnull, by simp, ?_, ?_⟩
    · intro numbers
      rw [decodeIds_of_standsForNone type hnone, Spell, List.forall₂_nil_left_iff, Except.ok.injEq,
        eq_comm]
    · rw [decodeIds_of_standsForNone type hnone]
      simp
  · obtain ⟨body, hchars, hne, hquote, hclose⟩ := hplain.exists_body hnone
    refine ⟨_, items_of_body hchars hne hquote hclose, ?_, ?_, ?_⟩
    · intro item hitem
      obtain ⟨span, -, rfl⟩ := List.mem_map.1 hitem
      exact Item.escaped_ofBare _
    · intro numbers
      rw [decodeIds_of_body type hchars hnone, readSpans_eq_ok]
      exact spell_ofBare.symm
    · rw [decodeIds_of_body type hchars hnone, exists_readSpans_eq_conversion]
      simp only [List.mem_map, exists_exists_and_eq_and, Item.number?_ofBare, String.toList_ofList,
        IntegerType.read?_eq_none]

theorem isPlain_braced (body : List Char) (hquote : '"' ∉ body) (hclose : '\x7d' ∉ body) :
    IsPlain ('\x7b' :: (body ++ ['\x7d'])) := by
  refine ⟨?_, Or.inr ⟨body, rfl, hclose⟩⟩
  simp [hquote]

theorem isPlain_of_reads {type : IntegerType} {literal : List Char} {numbers : List Int}
    (h : Reads type literal (.ok numbers)) : IsPlain literal := by
  cases h with
  | nothing hnone =>
      rcases hnone with rfl | rfl | rfl
      · exact ⟨by decide, Or.inl rfl⟩
      · exact isPlain_braced [] (by decide) (by decide)
      · exact isPlain_braced ['N', 'U', 'L', 'L'] (by decide) (by decide)
  | @numbers texts numbers hne hcomma hwritten =>
      have hchar {c : Char} (hc : c ≠ ',') (hmem : c ∈ [','].intercalate texts) :
          c = '-' ∨ c.isDigit := by
        obtain ⟨text, htext, hmem⟩ := (mem_iff_exists_spans hc _).1 hmem
        rw [spans_intercalate hne hcomma] at htext
        obtain ⟨i, hi, rfl⟩ := List.getElem_of_mem htext
        exact (hwritten.get hi (hwritten.length_eq ▸ hi)).mem hmem
      apply isPlain_braced
      · intro hmem
        exact absurd (hchar (by decide) hmem) (by decide)
      · intro hmem
        exact absurd (hchar (by decide) hmem) (by decide)

theorem exists_texts_of_spelled {type : IntegerType} {list : List Item} {numbers : List Int}
    (hescaped : ∀ item ∈ list, item.escaped = false)
    (h : Spell type list numbers) :
    ∃ texts : List String, list = texts.map (.present · false) ∧
      List.Forall₂ (fun text n => type.read? text.toList = some n) texts numbers := by
  induction h with
  | nil => exact ⟨[], rfl, .nil⟩
  | @cons item n list numbers hitem hlist ih =>
      obtain ⟨texts, rfl, htexts⟩ := ih fun other hother =>
        hescaped other (List.mem_cons_of_mem item hother)
      cases item with
      | absent => cases hitem
      | present text escaped =>
          cases hescaped _ List.mem_cons_self
          exact ⟨text :: texts, rfl, .cons hitem htexts⟩

theorem exists_texts_of_decodeIds_eq_ok {type : IntegerType} {literal : String}
    {numbers : List Int} (hdecode : decodeIds type literal = .ok numbers)
    (hnull : literal ≠ "\x7bNULL\x7d") :
    ∃ texts : List String, items literal .keep = .ok (texts.map (.present · false)) ∧
      List.Forall₂ (fun text n => type.read? text.toList = some n) texts numbers := by
  have hplain := isPlain_of_reads (decodeIds_eq_iff.1 hdecode)
  obtain ⟨list, hitems, hescaped, hok, -⟩ := exists_items_of_isPlain type hplain hnull
  obtain ⟨texts, rfl, htexts⟩ := exists_texts_of_spelled hescaped ((hok numbers).1 hdecode)
  exact ⟨texts, hitems, htexts⟩

theorem length_ne_iff {type : IntegerType} {literal : String} {numbers : List Int}
    (hdecode : decodeIds type literal = .ok numbers) :
    ∃ list, items literal .keep = .ok list ∧
      (list.length ≠ numbers.length ↔ literal = "\x7bNULL\x7d") := by
  by_cases hnull : literal = "\x7bNULL\x7d"
  · subst hnull
    have hnone : decodeIds type "\x7bNULL\x7d" = .ok [] :=
      decodeIds_of_standsForNone type (Or.inr (Or.inr rfl))
    rw [hnone] at hdecode
    cases hdecode
    exact ⟨[.absent], items_nullWord, by simp⟩
  · obtain ⟨texts, hitems, htexts⟩ := exists_texts_of_decodeIds_eq_ok hdecode hnull
    refine ⟨_, hitems, ?_⟩
    simp [hnull, htexts.length_eq]

end Rollup.ArrayLiteral
