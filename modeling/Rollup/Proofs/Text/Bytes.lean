import Rollup.Text.Bytes

namespace Rollup.Text

@[simp] theorem width_nil : width [] = 0 := rfl

@[simp] theorem width_cons (c : Char) (rest : List Char) :
    width (c :: rest) = c.utf8Size + width rest := rfl

@[simp] theorem width_append (first second : List Char) :
    width (first ++ second) = width first + width second := by
  induction first with
  | nil => simp
  | cons c rest ih => simp [ih, Nat.add_assoc]

theorem width_concat (before : List Char) (c : Char) :
    width (before ++ [c]) = width before + c.utf8Size := by
  rw [width_append, width_cons, width_nil, Nat.add_zero]

theorem length_flatMap_utf8EncodeChar (chars : List Char) :
    (chars.flatMap String.utf8EncodeChar).length = width chars := by
  induction chars with
  | nil => rfl
  | cons c rest ih => simp [ih]

@[simp] theorem size_utf8Encode (chars : List Char) : chars.utf8Encode.size = width chars := by
  rw [List.utf8Encode, List.size_toByteArray, length_flatMap_utf8EncodeChar]

@[simp] theorem utf8ByteSize_ofList (chars : List Char) :
    (String.ofList chars).utf8ByteSize = width chars := by
  rw [← String.size_toByteArray, String.toByteArray_ofList, size_utf8Encode]

theorem utf8ByteSize_eq_width {text : String} {chars : List Char} (h : text.toList = chars) :
    text.utf8ByteSize = width chars := by
  rw [← utf8ByteSize_ofList, ← h, String.ofList_toList]

theorem toByteArray_eq_utf8Encode {text : String} {chars : List Char} (h : text.toList = chars) :
    text.toByteArray = chars.utf8Encode := by
  rw [← h, ← String.toByteArray_ofList, String.ofList_toList]

theorem byteAt_eq_of_byteAt?_eq_some {text : String} {offset : Nat} {b : UInt8}
    (hb : byteAt? text offset = some b) (h : offset < text.utf8ByteSize) :
    byteAt text offset h = b := by
  rw [byteAt?, dif_pos h] at hb
  exact Option.some_inj.1 hb

theorem byteAt?_eq_getElem? {text : String} {chars : List Char} (h : text.toList = chars)
    (offset : Nat) : byteAt? text offset = (chars.flatMap String.utf8EncodeChar)[offset]? := by
  obtain rfl : text = String.ofList chars := by rw [← h, String.ofList_toList]
  have hlength := length_flatMap_utf8EncodeChar chars
  rw [byteAt?]
  split
  · next hlt =>
      rw [utf8ByteSize_ofList, ← hlength] at hlt
      simp only [byteAt, String.getUTF8Byte, String.toByteArray_ofList, List.utf8Encode,
        List.getElem_toByteArray, List.getElem?_eq_getElem hlt]
  · next hge =>
      rw [utf8ByteSize_ofList, ← hlength] at hge
      exact (List.getElem?_eq_none (Nat.le_of_not_lt hge)).symm

theorem byteAt?_add {text : String} {before after : List Char} {c : Char}
    (h : text.toList = before ++ c :: after) {i : Nat} (hi : i < c.utf8Size) :
    byteAt? text (width before + i) = (String.utf8EncodeChar c)[i]? := by
  rw [byteAt?_eq_getElem? h, List.flatMap_append, List.flatMap_cons,
    List.getElem?_append_right, length_flatMap_utf8EncodeChar, Nat.add_sub_cancel_left,
    List.getElem?_append_left]
  · rwa [String.length_utf8EncodeChar]
  · rw [length_flatMap_utf8EncodeChar]
    exact Nat.le_add_right ..

theorem byteAt?_eq_none {text : String} {chars : List Char} (h : text.toList = chars) :
    byteAt? text (width chars) = none :=
  byteAt?_eq_none_iff.2 (Nat.le_of_eq (utf8ByteSize_eq_width h))

theorem le_of_mem_utf8EncodeChar {c : Char} (hc : c.utf8Size ≠ 1) {b : UInt8}
    (hb : b ∈ String.utf8EncodeChar c) : 0x80 ≤ b := by
  have hle (x y : UInt8) (hy : 0x80 ≤ y) : 0x80 ≤ x ||| y := by
    rw [UInt8.le_iff_toNat_le] at hy ⊢
    rw [UInt8.toNat_or]
    exact Nat.le_trans hy Nat.right_le_or
  obtain h | h | h | h := c.utf8Size_eq
  · exact absurd h hc
  · rw [String.utf8EncodeChar_eq_cons_cons h] at hb
    simp only [List.mem_cons, List.not_mem_nil, or_false] at hb
    obtain rfl | rfl := hb <;> exact hle _ _ (by decide)
  · rw [String.utf8EncodeChar_eq_cons_cons_cons h] at hb
    simp only [List.mem_cons, List.not_mem_nil, or_false] at hb
    obtain rfl | rfl | rfl := hb <;> exact hle _ _ (by decide)
  · rw [String.utf8EncodeChar_eq_cons_cons_cons_cons h] at hb
    simp only [List.mem_cons, List.not_mem_nil, or_false] at hb
    obtain rfl | rfl | rfl | rfl := hb <;> exact hle _ _ (by decide)

theorem lt_of_utf8Size_eq_one {c : Char} (hc : c.utf8Size = 1) : c.val.toUInt8 < 0x80 := by
  rw [Char.utf8Size_eq_one_iff, UInt32.le_iff_toNat_le] at hc
  rw [UInt8.lt_iff_toNat_lt, UInt32.toNat_toUInt8]
  have : c.val.toNat ≤ 127 := hc
  change c.val.toNat % 256 < 128
  omega

theorem toUInt8_inj {c d : Char} (hc : c.utf8Size = 1) (hd : d.utf8Size = 1) :
    c.val.toUInt8 = d.val.toUInt8 ↔ c = d := by
  refine ⟨fun h => ?_, fun h => by rw [h]⟩
  rw [Char.utf8Size_eq_one_iff, UInt32.le_iff_toNat_le] at hc hd
  have hc' : c.val.toNat ≤ 127 := hc
  have hd' : d.val.toNat ≤ 127 := hd
  rw [← UInt8.toNat_inj, UInt32.toNat_toUInt8, UInt32.toNat_toUInt8] at h
  apply Char.ext
  rw [← UInt32.toNat_inj]
  omega

theorem byteAt?_eq_ascii_iff {text : String} {before after : List Char} {c d : Char}
    (h : text.toList = before ++ c :: after) (hd : d.utf8Size = 1) {i : Nat} (hi : i < c.utf8Size) :
    byteAt? text (width before + i) = some d.val.toUInt8 ↔ i = 0 ∧ c = d := by
  rw [byteAt?_add h hi]
  by_cases hc : c.utf8Size = 1
  · obtain rfl : i = 0 := by omega
    rw [String.utf8EncodeChar_eq_singleton hc, List.getElem?_cons_zero, Option.some_inj,
      toUInt8_inj hc hd]
    simp
  · constructor
    · intro hb
      have hhigh := le_of_mem_utf8EncodeChar hc (List.mem_of_getElem? hb)
      exact absurd (lt_of_utf8Size_eq_one hd) (UInt8.not_lt.2 hhigh)
    · rintro ⟨-, rfl⟩
      exact absurd hd hc

/-- Outside of its first byte a character holds no ASCII byte, and its first byte is one only for
the character of that byte. -/
theorem ne_of_byteAt? {text : String} {before after : List Char} {c d : Char} {i : Nat} {b : UInt8}
    (h : text.toList = before ++ c :: after) (hd : d.utf8Size = 1) (hi : i < c.utf8Size)
    (hne : i ≠ 0 ∨ c ≠ d) (hb : byteAt? text (width before + i) = some b) :
    b ≠ d.val.toUInt8 := by
  rintro rfl
  rcases (byteAt?_eq_ascii_iff h hd hi).1 hb with ⟨hzero, heq⟩
  rcases hne with hne | hne
  · exact hne hzero
  · exact hne heq

theorem byteAt?_width_iff {text : String} {before after : List Char} {c d : Char}
    (h : text.toList = before ++ c :: after) (hd : d.utf8Size = 1) :
    byteAt? text (width before) = some d.val.toUInt8 ↔ c = d :=
  (byteAt?_eq_ascii_iff h hd c.utf8Size_pos).trans (and_iff_right rfl)

theorem byteAt?_of_ascii {text : String} {before after : List Char} {c : Char}
    (h : text.toList = before ++ c :: after) (hc : c.utf8Size = 1) :
    byteAt? text (width before) = some c.val.toUInt8 :=
  (byteAt?_width_iff h hc).2 rfl

theorem exists_byteAt? {text : String} {before after : List Char} {c : Char}
    (h : text.toList = before ++ c :: after) {i : Nat} (hi : i < c.utf8Size) :
    ∃ b, byteAt? text (width before + i) = some b := by
  rw [byteAt?_add h hi]
  exact ⟨_, List.getElem?_eq_getElem (by rwa [String.length_utf8EncodeChar])⟩

theorem isValid_width {text : String} {before after : List Char}
    (h : text.toList = before ++ after) : String.Pos.Raw.IsValid text ⟨width before⟩ := by
  rw [String.Pos.Raw.isValid_iff_exists_append]
  refine ⟨String.ofList before, String.ofList after, ?_, ?_⟩
  · rw [← String.ofList_append, ← h, String.ofList_toList]
  · rw [String.Pos.Raw.ext_iff]
    exact (utf8ByteSize_ofList before).symm

theorem slice_eq {text : String} {before between after : List Char}
    (h : text.toList = before ++ between ++ after) :
    slice text (width before) (width before + width between) = String.ofList between := by
  have hstart : String.Pos.Raw.IsValid text ⟨width before⟩ :=
    isValid_width (h.trans (List.append_assoc ..))
  have hstop : String.Pos.Raw.IsValid text ⟨width before + width between⟩ := by
    rw [← width_append]
    exact isValid_width h
  rw [slice, dif_pos ⟨hstart, hstop⟩, ← String.toByteArray_inj, String.toByteArray_extract,
    toByteArray_eq_utf8Encode h, String.toByteArray_ofList, List.utf8Encode_append,
    List.utf8Encode_append, ByteArray.append_assoc, String.offset_pos, String.offset_pos]
  have hskip := ByteArray.extract_append_size_add' (b := between.utf8Encode ++ after.utf8Encode)
    (i := 0) (j := width between) (size_utf8Encode before).symm
  rw [Nat.add_zero] at hskip
  rw [hskip, ByteArray.extract_append_eq_left (size_utf8Encode between).symm]

theorem charAt?_eq {text : String} {before after : List Char} {c : Char}
    (h : text.toList = before ++ c :: after) : charAt? text (width before) = some c := by
  have hvalid := isValid_width h
  rw [charAt?, dif_pos hvalid]
  have hsplits : (text.pos ⟨width before⟩ hvalid).Splits (String.ofList before)
      (String.singleton c ++ String.ofList after) := by
    constructor
    · rw [String.singleton_eq_ofList, ← String.ofList_append, ← String.ofList_append,
        List.singleton_append, ← h, String.ofList_toList]
    · rw [String.Pos.Raw.ext_iff]
      exact (utf8ByteSize_ofList before).symm
  rw [String.Pos.get?_eq_some_get hsplits.ne_endPos_of_singleton,
    hsplits.next.get_eq_of_singleton]

theorem toList_toUTF8 (text : String) :
    text.toUTF8.data.toList = text.toList.flatMap String.utf8EncodeChar := by
  rw [String.toUTF8_eq_toByteArray, toByteArray_eq_utf8Encode rfl, List.utf8Encode,
    List.toList_data_toByteArray]

theorem mem_toUTF8_iff {text : String} {d : Char} (hd : d.utf8Size = 1) :
    d.val.toUInt8 ∈ text.toUTF8.data.toList ↔ d ∈ text.toList := by
  rw [toList_toUTF8, List.mem_flatMap]
  constructor
  · rintro ⟨c, hc, hbyte⟩
    by_cases hsize : c.utf8Size = 1
    · rw [String.utf8EncodeChar_eq_singleton hsize, List.mem_singleton,
        toUInt8_inj hd hsize] at hbyte
      rwa [hbyte]
    · have hhigh := le_of_mem_utf8EncodeChar hsize hbyte
      exact absurd (lt_of_utf8Size_eq_one hd) (UInt8.not_lt.2 hhigh)
  · intro h
    refine ⟨d, h, ?_⟩
    rw [String.utf8EncodeChar_eq_singleton hd]
    exact List.mem_singleton_self _

theorem fromUTF8?_eq_some {bytes : ByteArray} {text : String} :
    String.fromUTF8? bytes = some text ↔ bytes = text.toUTF8 := by
  rw [String.fromUTF8?, String.toUTF8_eq_toByteArray]
  constructor
  · intro h
    split at h
    · cases h
      rfl
    · cases h
  · rintro rfl
    rw [dif_pos text.isValidUTF8]
    rfl

end Rollup.Text
