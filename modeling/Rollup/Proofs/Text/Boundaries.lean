import Rollup.Proofs.Text.Bytes

namespace Rollup.Text

variable {text : String} {offset : Nat}

theorem exists_append_of_isValid (h : String.Pos.Raw.IsValid text ⟨offset⟩) :
    ∃ before after, text.toList = before ++ after ∧ width before = offset := by
  rcases String.Pos.Raw.isValid_iff_exists_append.1 h with ⟨first, second, htext, hoffset⟩
  refine ⟨first.toList, second.toList, ?_, ?_⟩
  · rw [htext, String.toList_append]
  · rw [← utf8ByteSize_eq_width rfl]
    exact (String.Pos.Raw.ext_iff.1 hoffset).symm

theorem exists_char_of_lt_width {chars : List Char} (h : offset < width chars) :
    ∃ before c after i, chars = before ++ c :: after ∧ i < c.utf8Size ∧
      offset = width before + i := by
  induction chars generalizing offset with
  | nil => exact absurd h (Nat.not_lt_zero offset)
  | cons c rest ih =>
      by_cases hc : offset < c.utf8Size
      · exact ⟨[], c, rest, offset, rfl, hc, (Nat.zero_add offset).symm⟩
      · rw [width_cons] at h
        have hrest : offset - c.utf8Size < width rest := by omega
        rcases ih hrest with ⟨before, d, after, i, rfl, hi, heq⟩
        refine ⟨c :: before, d, after, i, rfl, hi, ?_⟩
        rw [width_cons]
        omega

theorem exists_append_of_byteAt? {d : Char} (hd : d.utf8Size = 1)
    (h : byteAt? text offset = some d.val.toUInt8) :
    ∃ before after, text.toList = before ++ d :: after ∧ width before = offset := by
  have hlt := lt_of_byteAt?_eq_some h
  rw [utf8ByteSize_eq_width rfl] at hlt
  rcases exists_char_of_lt_width hlt with ⟨before, c, after, i, htext, hi, rfl⟩
  rcases (byteAt?_eq_ascii_iff htext hd hi).1 h with ⟨rfl, rfl⟩
  exact ⟨before, after, htext, (Nat.add_zero _).symm⟩

theorem isValid_of_byteAt? {d : Char} (hd : d.utf8Size = 1)
    (h : byteAt? text offset = some d.val.toUInt8) : String.Pos.Raw.IsValid text ⟨offset⟩ := by
  rcases exists_append_of_byteAt? hd h with ⟨before, after, htext, rfl⟩
  exact isValid_width htext

theorem isValid_succ_of_byteAt? {d : Char} (hd : d.utf8Size = 1)
    (h : byteAt? text offset = some d.val.toUInt8) :
    String.Pos.Raw.IsValid text ⟨offset + 1⟩ := by
  rcases exists_append_of_byteAt? hd h with ⟨before, after, htext, rfl⟩
  have hafter : text.toList = (before ++ [d]) ++ after := by rw [htext, List.append_cons]
  have hvalid := isValid_width hafter
  rwa [width_concat, hd] at hvalid

theorem isValid_utf8ByteSize (text : String) :
    String.Pos.Raw.IsValid text ⟨text.utf8ByteSize⟩ := by
  have hvalid := isValid_width (List.append_nil text.toList).symm
  rwa [← utf8ByteSize_eq_width rfl] at hvalid

theorem width_eq_zero_iff {chars : List Char} : width chars = 0 ↔ chars = [] := by
  cases chars with
  | nil => simp
  | cons c rest =>
      have hpos := c.utf8Size_pos
      simp only [width_cons, reduceCtorEq, iff_false]
      omega

theorem exists_between {before after before' after' : List Char}
    (h : before ++ after = before' ++ after') (hle : width before ≤ width before') :
    ∃ between, before' = before ++ between ∧ after = between ++ after' := by
  rcases List.append_eq_append_iff.1 h with ⟨between, hbefore, hafter⟩ | ⟨between, rfl, rfl⟩
  · exact ⟨between, hbefore, hafter⟩
  · rw [width_append] at hle
    obtain rfl : between = [] := width_eq_zero_iff.1 (by omega)
    exact ⟨[], by simp, rfl⟩

end Rollup.Text
