import Rollup.Json.Reader
import Rollup.Proofs.Json.Tokens

namespace Rollup.Json

open Progress (take?)

/-- A text on one line that takes the reader from one point to another, provided that a word at its
end does not go on. -/
structure Leads (text : List Char) (before after : Progress) : Prop where
  onOneLine : '\n' ∉ text
  reads : ∃ tokens : List Token, tokens.foldlM take? before = some after ∧
    ∀ rest, EndsWord rest →
      tokens? .nothing (text ++ rest) = (tokens? .nothing rest).map (tokens ++ ·)

namespace Leads

variable {first second text : List Char} {before between after : Progress}

theorem nil : Leads [] before before :=
  ⟨List.not_mem_nil, [], rfl, fun _ _ => Option.map_id'.symm⟩

theorem mark {c : Char} {token : Token} (hmark : Token.ofMark? c = some token)
    (htake : before.take? token = some between) (h : Leads text between after) :
    Leads (c :: text) before after := by
  obtain ⟨tokens, hfold, htokens⟩ := h.reads
  constructor
  · rw [List.mem_cons, not_or]
    refine ⟨?_, h.onOneLine⟩
    rintro rfl
    cases hmark
  · refine ⟨token :: tokens, ?_, ?_⟩
    · rw [List.foldlM_cons, htake]
      exact hfold
    · intro rest hrest
      rw [List.cons_append, tokens?_mark hmark, htokens rest hrest, Option.map_map]
      rfl

theorem quotes {name : String} (htake : before.take? (.string name) = some between)
    (h : Leads text between after) : Leads (quoted name ++ text) before after := by
  obtain ⟨tokens, hfold, htokens⟩ := h.reads
  constructor
  · rw [List.mem_append, not_or]
    exact ⟨newline_notMem_quoted name, h.onOneLine⟩
  · refine ⟨.string name :: tokens, ?_, ?_⟩
    · rw [List.foldlM_cons, htake]
      exact hfold
    · intro rest hrest
      rw [List.append_assoc, tokens?_quoted, htokens rest hrest, Option.map_map]
      rfl

theorem word {word : List Char} {value : Json} {outer : List Outer}
    (hword : ∀ c ∈ word, inWord c) (hvalue : ofWord? word = some value) :
    Leads word (.atValue outer) (.afterValue value outer) := by
  constructor
  · intro hmem
    cases hword '\n' hmem
  · refine ⟨[.word value], rfl, ?_⟩
    intro rest hrest
    exact tokens?_word hword hvalue hrest

theorem trans (hfirst : Leads first before between) (hsecond : Leads second between after)
    (hends : EndsWord second) : Leads (first ++ second) before after := by
  obtain ⟨tokens, hfold, htokens⟩ := hfirst.reads
  obtain ⟨further, hfurther, hrest⟩ := hsecond.reads
  constructor
  · rw [List.mem_append, not_or]
    exact ⟨hfirst.onOneLine, hsecond.onOneLine⟩
  · refine ⟨tokens ++ further, ?_, ?_⟩
    · rw [List.foldlM_append, hfold]
      exact hfurther
    · intro rest hword
      have hnext : EndsWord (second ++ rest) := by
        cases second with
        | nil => exact hword
        | cons c second => exact hends
      rw [List.append_assoc, htokens _ hnext, hrest rest hword, Option.map_map]
      simp only [List.append_assoc]
      rfl

end Leads

theorem endsWord_furtherItems (rest : List Json) : EndsWord (chars (furtherItems rest)) := by
  cases rest <;> (rintro c ⟨⟩; rfl)

theorem endsWord_furtherMembers (rest : List (String × Json)) :
    EndsWord (chars (furtherMembers rest)) := by
  cases rest <;> (rintro c ⟨⟩; rfl)

mutual

theorem leads_pieces (json : Json) (outer : List Outer) :
    Leads (chars json.pieces) (.atValue outer) (.afterValue json outer) := by
  match json with
  | .null => exact .word (List.all_eq_true.1 rfl) rfl
  | .bool false => exact .word (List.all_eq_true.1 rfl) rfl
  | .bool true => exact .word (List.all_eq_true.1 rfl) rfl
  | .number numeral =>
      have hchars : chars (pieces (.number numeral)) = numeral.text.toList := List.append_nil _
      rw [hchars]
      exact .word (inWord_of_isNumeral numeral.valid) (ofWord?_numeral numeral)
  | .string text =>
      rw [pieces, chars_quotedPieces, ← List.append_nil (quoted text)]
      exact .quotes rfl .nil
  | .array [] => exact .mark rfl rfl (.mark rfl rfl .nil)
  | .array (item :: rest) =>
      rw [pieces, chars_append, chars_cons]
      have hrest := leads_furtherItems rest item [] outer
      exact .mark rfl rfl ((leads_pieces item _).trans hrest (endsWord_furtherItems rest))
  | .object [] => exact .mark rfl rfl (.mark rfl rfl .nil)
  | .object (member :: rest) =>
      rw [pieces, chars_append, chars_cons]
      have hrest := leads_furtherMembers rest member [] outer
      exact .mark rfl rfl ((leads_member member [] outer).trans hrest
        (endsWord_furtherMembers rest))
termination_by structural json

theorem leads_furtherItems (rest : List Json) (item : Json) (items : List Json)
    (outer : List Outer) :
    Leads (chars (furtherItems rest)) (.afterValue item (.array items :: outer))
      (.afterValue (.array (items.reverse ++ item :: rest)) outer) := by
  match rest with
  | [] =>
      rw [← List.reverse_cons]
      exact .mark rfl rfl .nil
  | next :: rest =>
      -- The comma puts the item onto the stack, and the next one is read above it.
      have hrest := leads_furtherItems rest next (item :: items) outer
      rw [List.reverse_cons, List.append_assoc] at hrest
      rw [furtherItems, chars_append, chars_cons]
      exact .mark rfl rfl ((leads_pieces next _).trans hrest (endsWord_furtherItems rest))
termination_by structural rest

theorem leads_furtherMembers (rest : List (String × Json)) (member : String × Json)
    (members : List (String × Json)) (outer : List Outer) :
    Leads (chars (furtherMembers rest)) (.afterValue member.2 (.object members member.1 :: outer))
      (.afterValue (.object (members.reverse ++ member :: rest)) outer) := by
  match rest with
  | [] =>
      rw [← List.reverse_cons]
      exact .mark rfl rfl .nil
  | next :: rest =>
      have hrest := leads_furtherMembers rest next (member :: members) outer
      rw [List.reverse_cons, List.append_assoc] at hrest
      rw [furtherMembers, chars_append, chars_cons]
      exact .mark rfl rfl ((leads_member next _ outer).trans hrest (endsWord_furtherMembers rest))
termination_by structural rest

theorem leads_member (member : String × Json) (members : List (String × Json))
    (outer : List Outer) :
    Leads (chars (memberPieces member)) (.atName members outer)
      (.afterValue member.2 (.object members member.1 :: outer)) := by
  match member with
  | (name, value) =>
      rw [memberPieces, chars_append, chars_cons, chars_quotedPieces]
      exact .quotes rfl (.mark rfl rfl (leads_pieces value _))
termination_by structural member

end

theorem toList_render (json : Json) : json.render.toList = chars json.pieces :=
  String.toList_join

theorem newline_notMem_render (json : Json) : '\n' ∉ json.render.toList := by
  rw [toList_render]
  exact (leads_pieces json []).onOneLine

/-- Every value is read back from its text, with the order and repetition of its members. -/
theorem read?_render (json : Json) : read? json.render = some json := by
  obtain ⟨tokens, hfold, htokens⟩ := (leads_pieces json []).reads
  have htext : tokens? .nothing json.render.toList = some tokens := by
    rw [toList_render, ← List.append_nil (chars json.pieces), htokens [] nofun]
    exact congrArg some (List.append_nil tokens)
  rw [read?, htext, Option.bind_some, hfold]
  rfl

end Rollup.Json
