import Rollup.ArrayLiteral.Calls
import Rollup.Proofs.Text.Boundaries

namespace Rollup.ArrayLiteral

open Text

variable {input : String} {absence : Absence} {first offset : Nat}

theorem scan_eq_reading (mode : Mode) (offset : Nat) :
    scan input absence mode offset = (ending input mode offset).reading input absence := by
  fun_induction ending input mode offset with
  | case1 offset h b start hquote ih =>
      rw [scan.eq_def, dif_pos h]
      exact (if_pos hquote).trans ih
  | case2 offset h b start hquote hcomma =>
      rw [scan.eq_def, dif_pos h]
      exact (if_neg hquote).trans (if_pos hcomma)
  | case3 offset h b start hquote hcomma hclose =>
      rw [scan.eq_def, dif_pos h]
      exact (if_neg hquote).trans ((if_neg hcomma).trans (if_pos hclose))
  | case4 offset h b start hquote hcomma hclose ih =>
      rw [scan.eq_def, dif_pos h]
      exact (if_neg hquote).trans ((if_neg hcomma).trans ((if_neg hclose).trans ih))
  | case5 offset h b opening escaped hquote =>
      rw [scan.eq_def, dif_pos h]
      exact if_pos hquote
  | case6 offset h b opening escaped hquote hback ih =>
      rw [scan.eq_def, dif_pos h]
      exact (if_neg hquote).trans ((if_pos hback).trans ih)
  | case7 offset h b opening escaped hquote hback ih =>
      rw [scan.eq_def, dif_pos h]
      exact (if_neg hquote).trans ((if_neg hback).trans ih)
  | case8 offset h opening ih =>
      rw [scan.eq_def, dif_pos h]
      exact ih
  | case9 offset h start hlt =>
      rw [scan.eq_def, dif_neg h]
      exact if_pos hlt
  | case10 offset h start hlt =>
      rw [scan.eq_def, dif_neg h]
      exact if_neg hlt
  | case11 offset h opening escaped =>
      rw [scan.eq_def, dif_neg h]
      rfl
  | case12 offset h opening =>
      rw [scan.eq_def, dif_neg h]
      rfl

theorem ending_bare_of_byte {start : Nat} {b : UInt8} (hb : byteAt? input offset = some b) :
    ending input (.bare start) offset =
      if b = quoteByte then ending input (.quoted offset false) (offset + 1)
      else if b = commaByte then .bare start offset (.inside (offset + 1))
      else if b = closeByte then .bare start offset .ended
      else ending input (.bare start) (offset + 1) := by
  rw [ending.eq_def, dif_pos (lt_of_byteAt?_eq_some hb)]
  simp only [byteAt_eq_of_byteAt?_eq_some hb]

theorem ending_quoted_of_byte {opening : Nat} {escaped : Bool} {b : UInt8}
    (hb : byteAt? input offset = some b) :
    ending input (.quoted opening escaped) offset =
      if b = quoteByte then .quoted opening offset escaped
      else if b = backslashByte then ending input (.backslash opening) (offset + 1)
      else ending input (.quoted opening escaped) (offset + 1) := by
  rw [ending.eq_def, dif_pos (lt_of_byteAt?_eq_some hb)]
  simp only [byteAt_eq_of_byteAt?_eq_some hb]

theorem ending_backslash_of_byte {opening : Nat} {b : UInt8} (hb : byteAt? input offset = some b) :
    ending input (.backslash opening) offset =
      ending input (.quoted opening true) (offset + 1) := by
  rw [ending.eq_def, dif_pos (lt_of_byteAt?_eq_some hb)]

theorem ending_of_end {mode : Mode} (h : byteAt? input offset = none) :
    ending input mode offset =
      match mode with
      | .bare start => if start < offset then .bare start offset .ended else .nothing
      | .quoted opening _ | .backslash opening => .unclosed opening := by
  have hge := byteAt?_eq_none_iff.1 h
  exact (ending.eq_def ..).trans (dif_neg (Nat.not_lt.2 hge))

/-- What is true at every byte of a scan that began at byte `first`. -/
inductive Mode.IsSound (input : String) (first offset : Nat) : Mode → Prop where
  | bare (hle : first ≤ offset) : IsSound input first offset (.bare first)
  | quoted {opening : Nat} {escaped : Bool} (hquote : byteAt? input opening = some quoteByte)
      (hle : first ≤ opening) (hlt : opening < offset) :
      IsSound input first offset (.quoted opening escaped)
  | backslash {opening : Nat} (hquote : byteAt? input opening = some quoteByte)
      (hle : first ≤ opening) (hlt : opening < offset) :
      IsSound input first offset (.backslash opening)

/-- What is true of its end. -/
inductive Ending.IsSound (input : String) (first : Nat) : Ending → Prop where
  | nothing : IsSound input first .nothing
  | comma {stop : Nat} (hle : first ≤ stop) (hcomma : byteAt? input stop = some commaByte) :
      IsSound input first (.bare first stop (.inside (stop + 1)))
  | close {stop : Nat} (hle : first ≤ stop) (hclose : byteAt? input stop = some closeByte) :
      IsSound input first (.bare first stop .ended)
  | bareEnd (hle : first ≤ input.utf8ByteSize) :
      IsSound input first (.bare first input.utf8ByteSize .ended)
  | quoted {opening closing : Nat} {escaped : Bool}
      (hopening : byteAt? input opening = some quoteByte)
      (hclosing : byteAt? input closing = some quoteByte) (hle : first ≤ opening)
      (hlt : opening < closing) : IsSound input first (.quoted opening closing escaped)
  | unclosed {opening : Nat} (hquote : byteAt? input opening = some quoteByte) :
      IsSound input first (.unclosed opening)

theorem byteAt?_of_lt (h : offset < input.utf8ByteSize) :
    byteAt? input offset = some (byteAt input offset h) := dif_pos h

theorem ending_isSound {mode : Mode} (hle : offset ≤ input.utf8ByteSize)
    (hmode : mode.IsSound input first offset) : (ending input mode offset).IsSound input first := by
  fun_induction ending input mode offset with
  | case1 offset h b start hquote ih =>
      rcases hmode with ⟨hfirst⟩
      exact ih h (.quoted (hquote ▸ byteAt?_of_lt h) hfirst (Nat.lt_succ_self offset))
  | case2 offset h b start hquote hcomma =>
      rcases hmode with ⟨hfirst⟩
      exact .comma hfirst (hcomma ▸ byteAt?_of_lt h)
  | case3 offset h b start hquote hcomma hclose =>
      rcases hmode with ⟨hfirst⟩
      exact .close hfirst (hclose ▸ byteAt?_of_lt h)
  | case4 offset h b start hquote hcomma hclose ih =>
      rcases hmode with ⟨hfirst⟩
      exact ih h (.bare (Nat.le_succ_of_le hfirst))
  | case5 offset h b opening escaped hquote =>
      rcases hmode with _ | ⟨hopening, hfirst, hlt⟩
      exact .quoted hopening (hquote ▸ byteAt?_of_lt h) hfirst hlt
  | case6 offset h b opening escaped hquote hback ih =>
      rcases hmode with _ | ⟨hopening, hfirst, hlt⟩
      exact ih h (.backslash hopening hfirst (Nat.lt_succ_of_lt hlt))
  | case7 offset h b opening escaped hquote hback ih =>
      rcases hmode with _ | ⟨hopening, hfirst, hlt⟩
      exact ih h (.quoted hopening hfirst (Nat.lt_succ_of_lt hlt))
  | case8 offset h opening ih =>
      rcases hmode with _ | _ | ⟨hopening, hfirst, hlt⟩
      exact ih h (.quoted hopening hfirst (Nat.lt_succ_of_lt hlt))
  | case9 offset h start hlt =>
      rcases hmode with ⟨hfirst⟩
      obtain rfl : offset = input.utf8ByteSize := Nat.le_antisymm hle (Nat.le_of_not_lt h)
      exact .bareEnd hfirst
  | case10 offset h start hlt => exact .nothing
  | case11 offset h opening escaped =>
      rcases hmode with _ | ⟨hopening, hfirst, hlt⟩
      exact .unclosed hopening
  | case12 offset h opening =>
      rcases hmode with _ | _ | ⟨hopening, hfirst, hlt⟩
      exact .unclosed hopening

end Rollup.ArrayLiteral
