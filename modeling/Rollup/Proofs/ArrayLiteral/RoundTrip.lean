import Rollup.ArrayLiteral.Texts
import Rollup.Proofs.ArrayLiteral.Scan
import Rollup.Proofs.Results

namespace Rollup.ArrayLiteral

open Rollup.Text
open Grammar

theorem body_escape (text rest : List Char) :
    body (escape text ++ '"' :: rest) = some (escape text, rest) := by
  induction text with
  | nil => rfl
  | cons c text ih =>
      rw [escape]
      by_cases hc : c = '"' ∨ c = '\\'
      · rw [if_pos hc]
        simp only [List.cons_append, body, ih, Option.map_some]
      · rcases not_or.1 hc with ⟨hquote, hback⟩
        rw [if_neg hc]
        rw [List.cons_append, body, ih, Option.map_some]
        · exact hquote
        · intro _ _ heq
          exact absurd heq hback

theorem escape_eq_self {text : List Char} (h : '\\' ∉ escape text) : escape text = text := by
  induction text with
  | nil => rfl
  | cons c text ih =>
      rw [escape] at h ⊢
      by_cases hc : c = '"' ∨ c = '\\'
      · rw [if_pos hc] at h
        exact absurd List.mem_cons_self h
      · rw [if_neg hc] at h ⊢
        rw [ih fun hmem => h (List.mem_cons_of_mem c hmem)]

theorem resolve_escape (text : String) :
    resolve (.ofList (escape text.toList)) ((escape text.toList).contains '\\') = text := by
  rw [resolve]
  split
  · rw [String.toList_ofList, unescape_escape, String.ofList_toList]
  · next h =>
      rw [escape_eq_self (by simpa using h), String.ofList_toList]

/-- A way to write an element. -/
inductive Rendering where
  /-- An absent element, as the word for it. -/
  | null
  | quoted (text : String)
  /-- A text as it stands, which no delimiter cuts and which does not read as absent. -/
  | bare (text : String) (hempty : text ≠ "") (hnull : text ≠ nullWord)
      (hbare : text.toList.all isBare)

namespace Rendering

/-- The element that is written. -/
def element? : Rendering → Option String
  | .null => none
  | .quoted text => some text
  | .bare text .. => some text

/-- What is written for it. -/
def text : Rendering → String
  | .null => nullWord
  | .quoted text => quote text
  | .bare text .. => text

/-- The element as it is read, escapes still in place. -/
def item (absence : Absence) : Rendering → Item
  | .null => .ofBare absence nullWord
  | .quoted text => quotedItem (escape text.toList)
  | .bare text .. => .present text false

/-- Renderings joined to a literal. -/
def literal (renderings : List Rendering) : String :=
  "\x7b" ++ ",".intercalate (renderings.map text) ++ "\x7d"

theorem isPiece_quoted (absence : Absence) (text : String) :
    IsPiece absence (quote text).toList (quotedItem (escape text.toList)) := by
  rw [quote, String.toList_ofList]
  constructor
  · intro offset rest
    have hopen : '"' :: escape text.toList ++ ['"'] ++ ',' :: rest =
        [] ++ '"' :: (escape text.toList ++ '"' :: ',' :: rest) := by simp
    rw [hopen, elements_of_step (.quotedComma rfl (body_escape ..))]
    exact ⟨_, rfl⟩
  · intro offset rest
    have hopen : '"' :: escape text.toList ++ ['"'] ++ '\x7d' :: rest =
        [] ++ '"' :: (escape text.toList ++ '"' :: '\x7d' :: rest) := by simp
    rw [hopen, elements_of_step (.quotedClose rfl (body_escape ..))]
    rfl

theorem isPiece (absence : Absence) (rendering : Rendering) :
    IsPiece absence rendering.text.toList (rendering.item absence) := by
  cases rendering with
  | null => exact isPiece_of_bare absence nullWord.toList (by decide)
  | quoted text => exact isPiece_quoted absence text
  | bare text hempty hnull hbare =>
      have hitem : Item.ofBare absence text = .present text false :=
        if_neg (not_or.2 ⟨hempty, hnull⟩)
      have hpiece := isPiece_of_bare absence text.toList hbare
      rwa [String.ofList_toList, hitem] at hpiece

theorem toList_literal (renderings : List Rendering) :
    (literal renderings).toList =
      '\x7b' :: ([','].intercalate (renderings.map fun r => r.text.toList) ++ ['\x7d']) := by
  simp only [literal, String.toList_append, String.toList_intercalate, List.map_map]
  rfl

theorem exists_text_eq_cons (rendering : Rendering) :
    ∃ c rest, rendering.text.toList = c :: rest ∧ c ≠ '\x7d' := by
  cases rendering with
  | null => exact ⟨'N', ['U', 'L', 'L'], by decide, by decide⟩
  | quoted text => exact ⟨'"', escape text.toList ++ ['"'], String.toList_ofList, by decide⟩
  | bare text hempty hnull hbare =>
      rw [Rendering.text]
      cases hchars : text.toList with
      | nil => exact absurd (String.toList_eq_nil_iff.1 hchars) hempty
      | cons c rest =>
          refine ⟨c, rest, rfl, ?_⟩
          rintro rfl
          rw [hchars] at hbare
          cases hbare

theorem exists_intercalate_eq (first : List Char) (others : List (List Char)) :
    ∃ rest, [','].intercalate (first :: others) = first ++ rest := by
  cases others with
  | nil => exact ⟨[], by simp⟩
  | cons second others => exact ⟨_, by rw [List.intercalate_cons_cons, List.append_assoc]⟩

/-- An array of renderings reads as the elements they render. -/
theorem readings_literal (absence : Absence) (renderings : List Rendering)
    (hnull : ¬ (absence = .collapse ∧ literal renderings = "\x7bNULL\x7d")) :
    readings (literal renderings) absence = renderings.map fun r => .ok (r.item absence) := by
  rw [readings_of_open (toList_literal renderings) hnull]
  cases renderings with
  | nil => rfl
  | cons first others =>
      have hpieces : List.Forall₂ (IsPiece absence)
          ((first :: others).map fun r => r.text.toList)
          ((first :: others).map (item absence)) := by
        rw [List.forall₂_map_left_iff, List.forall₂_map_right_iff]
        exact List.forall₂_same.2 fun r _ => r.isPiece absence
      rw [elements_intercalate hpieces (List.cons_ne_nil _ _), List.map_map, if_neg]
      · rfl
      rw [List.map_cons]
      rcases exists_text_eq_cons first with ⟨c, rest, htext, hc⟩
      rcases exists_intercalate_eq first.text.toList (others.map fun r => r.text.toList)
        with ⟨_, hchars⟩
      rw [hchars, htext]
      intro hhead
      exact hc (Option.some_inj.1 hhead)

theorem resolved?_item_keep (rendering : Rendering) :
    (rendering.item .keep).resolved? = rendering.element? := by
  cases rendering with
  | null => rfl
  | quoted text => exact congrArg some (resolve_escape text)
  | bare text hempty hnull hbare => rfl

theorem items_literal (absence : Absence) (renderings : List Rendering)
    (hnull : ¬ (absence = .collapse ∧ literal renderings = "\x7bNULL\x7d")) :
    items (literal renderings) absence = .ok (renderings.map (item absence)) := by
  apply items_eq_ok.2
  rw [readings_literal absence renderings hnull, List.map_map]
  rfl

end Rendering

theorem literal_quoted_ne_null (texts : List String) :
    Rendering.literal (texts.map .quoted) ≠ "\x7bNULL\x7d" := by
  intro heq
  have hchars := congrArg String.toList heq
  rw [Rendering.toList_literal] at hchars
  cases texts with
  | nil => exact absurd hchars (by decide)
  | cons text others =>
      rw [List.map_cons, List.map_cons] at hchars
      rcases Rendering.exists_intercalate_eq (quote text).toList
        ((others.map Rendering.quoted).map fun r => r.text.toList) with ⟨rest, hrest⟩
      rw [Rendering.text, hrest, quote, String.toList_ofList] at hchars
      cases hchars

theorem resolved?_items_literal (renderings : List Rendering) :
    (items (Rendering.literal renderings) .keep).map (List.map Item.resolved?) =
      .ok (renderings.map Rendering.element?) := by
  have hnull : ¬ (Absence.keep = .collapse ∧
      Rendering.literal renderings = "\x7bNULL\x7d") := by
    rintro ⟨hkeep, -⟩
    cases hkeep
  rw [Rendering.items_literal .keep renderings hnull]
  refine congrArg Except.ok ?_
  rw [List.map_map]
  exact List.map_congr_left fun rendering _ => rendering.resolved?_item_keep

theorem encodeTexts_eq_literal (texts : List String) :
    encodeTexts texts = Rendering.literal (texts.map .quoted) := by
  rw [encodeTexts, Rendering.literal, List.map_map]
  rfl

theorem decodeTexts_encodeTexts (texts : List String) :
    decodeTexts (encodeTexts texts) = .ok texts := by
  have hnull : ¬ (Absence.collapse = .collapse ∧
      Rendering.literal (texts.map .quoted) = "\x7bNULL\x7d") := by
    rintro ⟨-, heq⟩
    exact literal_quoted_ne_null texts heq
  rw [decodeTexts, encodeTexts_eq_literal, Rendering.items_literal .collapse _ hnull, List.map_map]
  refine congrArg Except.ok ?_
  calc (texts.map (Rendering.item .collapse ∘ .quoted)).map Item.resolved
      = texts.map (Item.resolved ∘ Rendering.item .collapse ∘ .quoted) := List.map_map
    _ = texts.map id := List.map_congr_left fun text _ => resolve_escape text
    _ = texts := List.map_id texts

/-- Reading undoes writing: however the elements of an array are rendered, they are read back in
order, absent ones apart from empty ones; and an array of texts decodes to the texts. -/
theorem decode_undoes_encode :
    (∀ renderings : List Rendering,
      (items (Rendering.literal renderings) .keep).map (List.map Item.resolved?) =
        .ok (renderings.map Rendering.element?)) ∧
    ∀ texts : List String, decodeTexts (encodeTexts texts) = .ok texts :=
  ⟨resolved?_items_literal, decodeTexts_encodeTexts⟩

end Rollup.ArrayLiteral
