import Mathlib.Data.List.Forall2
import Mathlib.Data.List.TakeWhile
import Rollup.ArrayLiteral.Grammar
import Rollup.Proofs.Text.Bytes

namespace Rollup.ArrayLiteral.Grammar

open Rollup.Text

theorem bareItem_eq (absence : Absence) (bare : List Char) :
    bareItem absence bare = .ofBare absence (.ofList bare) := by
  have hempty : String.ofList bare = "" ↔ bare = [] := String.ofList_eq_empty_iff
  have hword : nullWord.toList = ['N', 'U', 'L', 'L'] := rfl
  have hnull : String.ofList bare = nullWord ↔ bare = ['N', 'U', 'L', 'L'] := by
    rw [← String.toList_inj, String.toList_ofList, hword]
  exact if_congr (or_congr hempty hnull).symm rfl rfl

/-- What stands first in a text that begins at byte `offset`, where an element begins: the reading
it makes, if any, and the offset and the text to read on from, unless reading ends there. -/
inductive Step (absence : Absence) (offset : Nat) :
    List Char → Option (Except ArrayFault Item) → Option (Nat × List Char) → Prop where
  | nothing : Step absence offset [] none none
  | bareEnd {bare : List Char} (hbare : bare.all isBare) (hne : bare ≠ []) :
      Step absence offset bare (some (.ok (bareItem absence bare))) none
  | bareComma {bare rest : List Char} (hbare : bare.all isBare) :
      Step absence offset (bare ++ ',' :: rest) (some (.ok (bareItem absence bare)))
        (some (offset + width bare + 1, rest))
  | bareClose {bare rest : List Char} (hbare : bare.all isBare) :
      Step absence offset (bare ++ '\x7d' :: rest) (some (.ok (bareItem absence bare))) none
  | unterminated {bare rest : List Char} (hbare : bare.all isBare) (hbody : body rest = none) :
      Step absence offset (bare ++ '"' :: rest)
        (some (.error (.unterminatedQuote (offset + width bare)))) none
  | quotedEnd {bare rest q : List Char} (hbare : bare.all isBare)
      (hbody : body rest = some (q, [])) :
      Step absence offset (bare ++ '"' :: rest) (some (.ok (quotedItem q))) none
  | quotedComma {bare rest q tail : List Char} (hbare : bare.all isBare)
      (hbody : body rest = some (q, ',' :: tail)) :
      Step absence offset (bare ++ '"' :: rest) (some (.ok (quotedItem q)))
        (some (offset + width bare + width q + 3, tail))
  | quotedClose {bare rest q tail : List Char} (hbare : bare.all isBare)
      (hbody : body rest = some (q, '\x7d' :: tail)) :
      Step absence offset (bare ++ '"' :: rest) (some (.ok (quotedItem q))) none
  | unexpected {bare rest q tail : List Char} {d : Char} (hbare : bare.all isBare)
      (hbody : body rest = some (q, d :: tail)) (hcomma : d ≠ ',') (hclose : d ≠ '\x7d') :
      Step absence offset (bare ++ '"' :: rest)
        (some (.error (.unexpectedAfterQuote (offset + width bare + width q + 2) d))) none

theorem eq_delimiter_of_not_isBare {c : Char} (h : ¬ isBare c) :
    c = '"' ∨ c = ',' ∨ c = '\x7d' := by
  simp only [isBare, Bool.and_eq_true, bne_iff_ne, ne_eq] at h
  by_cases hquote : c = '"'
  · exact Or.inl hquote
  by_cases hcomma : c = ','
  · exact Or.inr (Or.inl hcomma)
  by_cases hclose : c = '\x7d'
  · exact Or.inr (Or.inr hclose)
  exact absurd ⟨⟨hquote, hcomma⟩, hclose⟩ h

theorem exists_bare (text : List Char) :
    ∃ bare : List Char, bare.all isBare ∧ (text = bare ∨
      ∃ d rest, (d = '"' ∨ d = ',' ∨ d = '\x7d') ∧ text = bare ++ d :: rest) := by
  refine ⟨text.takeWhile isBare, List.all_takeWhile, ?_⟩
  have htext : text.takeWhile isBare ++ text.dropWhile isBare = text :=
    List.takeWhile_append_dropWhile
  cases hdrop : text.dropWhile isBare with
  | nil =>
      rw [hdrop, List.append_nil] at htext
      exact Or.inl htext.symm
  | cons d rest =>
      have hd : ¬ isBare d := by
        have := List.head_dropWhile_not isBare (l := text) (by simp [hdrop])
        simpa [hdrop] using this
      rw [hdrop] at htext
      exact Or.inr ⟨d, rest, eq_delimiter_of_not_isBare hd, htext.symm⟩

theorem exists_step (absence : Absence) (offset : Nat) (text : List Char) :
    ∃ reading next, Step absence offset text reading next := by
  rcases exists_bare text with ⟨bare, hbare, rfl | ⟨d, rest, rfl | rfl | rfl, rfl⟩⟩
  · by_cases hne : text = []
    · subst hne
      exact ⟨_, _, .nothing⟩
    · exact ⟨_, _, .bareEnd hbare hne⟩
  · cases hbody : body rest with
    | none => exact ⟨_, _, .unterminated hbare hbody⟩
    | some found =>
        obtain ⟨q, after⟩ := found
        cases after with
        | nil => exact ⟨_, _, .quotedEnd hbare hbody⟩
        | cons d tail =>
            by_cases hcomma : d = ','
            · subst hcomma
              exact ⟨_, _, .quotedComma hbare hbody⟩
            by_cases hclose : d = '\x7d'
            · subst hclose
              exact ⟨_, _, .quotedClose hbare hbody⟩
            exact ⟨_, _, .unexpected hbare hbody hcomma hclose⟩
  · exact ⟨_, _, .bareComma hbare⟩
  · exact ⟨_, _, .bareClose hbare⟩

theorem elements_of_bare (absence : Absence) (offset : Nat) {bare : List Char}
    (hbare : bare.all isBare) :
    elements absence offset bare =
      if bare = [] then [] else [.ok (bareItem absence bare)] := by
  have htake : bare.takeWhile isBare = bare :=
    List.takeWhile_eq_self_iff.2 (List.all_eq_true.1 hbare)
  have hdrop : bare.dropWhile isBare = [] :=
    List.dropWhile_eq_nil_iff.2 (List.all_eq_true.1 hbare)
  rw [elements]
  simp only [htake]
  split
  · rfl
  · next h => simp [hdrop] at h

theorem elements_append (absence : Absence) (offset : Nat) {bare rest : List Char} {d : Char}
    (hbare : bare.all isBare) (hd : ¬ isBare d) :
    elements absence offset (bare ++ d :: rest) =
      let item := bareItem absence bare
      if d = ',' then .ok item :: elements absence (offset + width bare + 1) rest
      else if d = '\x7d' then [.ok item]
      else
        match body rest with
        | none => [.error (.unterminatedQuote (offset + width bare))]
        | some (q, []) => [.ok (quotedItem q)]
        | some (q, c :: tail) =>
          if c = ',' then
            .ok (quotedItem q) :: elements absence (offset + width bare + width q + 3) tail
          else if c = '\x7d' then [.ok (quotedItem q)]
          else [.error (.unexpectedAfterQuote (offset + width bare + width q + 2) c)] := by
  have htake : (bare ++ d :: rest).takeWhile isBare = bare := by
    rw [List.takeWhile_append_of_pos (List.all_eq_true.1 hbare), List.takeWhile_cons_of_neg hd,
      List.append_nil]
  have hdrop : (bare ++ d :: rest).dropWhile isBare = d :: rest := by
    rw [List.dropWhile_append_of_pos (List.all_eq_true.1 hbare), List.dropWhile_cons_of_neg hd]
  rw [elements]
  simp only [htake]
  split
  · next h => simp [hdrop] at h
  · next c rest' h =>
      rw [hdrop] at h
      cases h
      split
      · rfl
      · split
        · rfl
        · split
          · next hbody => simp [hbody]
          · next q after hbody =>
              cases after with
              | nil => simp [hbody]
              | cons c tail => simp [hbody]

theorem elements_of_step {absence : Absence} {offset : Nat} {text : List Char}
    {reading : Option (Except ArrayFault Item)} {next : Option (Nat × List Char)}
    (h : Step absence offset text reading next) :
    elements absence offset text =
      reading.toList ++ next.elim [] fun (offset', rest) => elements absence offset' rest := by
  cases h with
  | nothing => rw [elements_of_bare absence offset rfl, if_pos rfl]; rfl
  | bareEnd hbare hne => rw [elements_of_bare absence offset hbare, if_neg hne]; rfl
  | bareComma hbare =>
      rw [elements_append absence offset hbare (by decide)]
      rfl
  | bareClose hbare =>
      rw [elements_append absence offset hbare (by decide)]
      rfl
  | unterminated hbare hbody =>
      rw [elements_append absence offset hbare (by decide), hbody]
      rfl
  | quotedEnd hbare hbody =>
      rw [elements_append absence offset hbare (by decide), hbody]
      rfl
  | quotedComma hbare hbody =>
      rw [elements_append absence offset hbare (by decide), hbody]
      rfl
  | quotedClose hbare hbody =>
      rw [elements_append absence offset hbare (by decide), hbody]
      rfl
  | unexpected hbare hbody hcomma hclose =>
      rw [elements_append absence offset hbare (by decide), hbody]
      simp [hcomma, hclose]

theorem Step.exists_append {absence : Absence} {offset offset' : Nat} {text rest : List Char}
    {reading : Option (Except ArrayFault Item)}
    (h : Step absence offset text reading (some (offset', rest))) :
    ∃ read, read ≠ [] ∧ text = read ++ rest ∧ offset' = offset + width read := by
  cases h with
  | @bareComma bare rest hbare =>
      refine ⟨bare ++ [','], by simp, by simp, ?_⟩
      rw [width_append, Nat.add_assoc]
      rfl
  | @quotedComma bare rest q tail hbare hbody =>
      have hcomma : width [','] = 1 := rfl
      have hquote : width ['"'] = 1 := rfl
      refine ⟨bare ++ (['"'] ++ q ++ ['"'] ++ [',']), by simp, ?_, ?_⟩
      · rw [body_eq_append hbody]
        simp
      · simp only [width_append, hcomma, hquote]
        omega

/-- Wherever the text stands before a delimiter, from where an element begins, it is read as the
item. -/
structure IsPiece (absence : Absence) (text : List Char) (item : Item) : Prop where
  comma (offset : Nat) (rest : List Char) :
    ∃ offset', elements absence offset (text ++ ',' :: rest) =
      .ok item :: elements absence offset' rest
  close (offset : Nat) (rest : List Char) :
    elements absence offset (text ++ '\x7d' :: rest) = [.ok item]

theorem isPiece_of_bare (absence : Absence) (bare : List Char) (hbare : bare.all isBare) :
    IsPiece absence bare (.ofBare absence (.ofList bare)) := by
  rw [← bareItem_eq]
  constructor
  · intro offset rest
    rw [elements_of_step (.bareComma hbare)]
    exact ⟨_, rfl⟩
  · intro offset rest
    rw [elements_of_step (.bareClose hbare)]
    rfl

theorem elements_intercalate {absence : Absence} {texts : List (List Char)} {items : List Item}
    (h : List.Forall₂ (IsPiece absence) texts items) (hne : texts ≠ []) (offset : Nat)
    (rest : List Char) :
    elements absence offset ([','].intercalate texts ++ '\x7d' :: rest) = items.map .ok := by
  induction h generalizing offset with
  | nil => exact absurd rfl hne
  | @cons text item texts items htext htexts ih =>
      cases htexts with
      | nil => simpa using htext.close offset rest
      | @cons second item' texts items hsecond hothers =>
          obtain ⟨offset', hfirst⟩ := htext.comma offset
            ([','].intercalate (second :: texts) ++ '\x7d' :: rest)
          rw [List.intercalate_cons_cons, List.append_assoc, List.append_assoc,
            List.singleton_append, hfirst, ih (List.cons_ne_nil second texts)]
          rfl

end Rollup.ArrayLiteral.Grammar
