import Rollup.ArrayLiteral.Calls
import Rollup.ArrayLiteral.Grammar

namespace Rollup.ArrayLiteral

theorem exists_signs {text q after : List Char} (h : Grammar.body text = some (q, after)) :
    ∃ signs : List Sign, q = signs.flatMap Sign.written ∧ ∀ sign ∈ signs, sign.IsProper := by
  fun_induction Grammar.body text generalizing q with
  | case1 => cases h
  | case2 rest =>
      cases h
      exact ⟨[], rfl, List.forall_mem_nil _⟩
  | case3 c rest ih =>
      obtain ⟨q', hbody, rfl⟩ := Grammar.exists_of_map_body ['\\', c] h
      rcases ih hbody with ⟨signs, rfl, hproper⟩
      refine ⟨⟨c, true⟩ :: signs, rfl, List.forall_mem_cons.2 ⟨?_, hproper⟩⟩
      rintro ⟨⟩
  | case4 c rest hquote hback ih =>
      obtain ⟨q', hbody, rfl⟩ := Grammar.exists_of_map_body [c] h
      rcases ih hbody with ⟨signs, rfl, hproper⟩
      refine ⟨⟨c, false⟩ :: signs, rfl, List.forall_mem_cons.2 ⟨?_, hproper⟩⟩
      rintro -
      refine ⟨hquote, ?_⟩
      -- A last backslash has no body after it.
      rintro rfl
      cases rest with
      | nil => cases hbody
      | cons d rest => exact hback d rest rfl rfl

variable {signs : List Sign}

theorem mem_backslash_iff (h : ∀ sign ∈ signs, sign.IsProper) :
    '\\' ∈ signs.flatMap Sign.written ↔ signs.any Sign.escaped := by
  simp only [List.mem_flatMap, List.any_eq_true]
  constructor
  · rintro ⟨⟨c, _ | _⟩, hsign, hmem⟩
    · exact absurd (List.mem_singleton.1 hmem).symm (h _ hsign rfl).2
    · exact ⟨_, hsign, rfl⟩
  · rintro ⟨⟨c, _ | _⟩, hsign, hescaped⟩
    · cases hescaped
    · exact ⟨_, hsign, List.mem_cons_self⟩

theorem dangles_cons {c : Char} (hc : c ≠ '\\') (rest : List Char) :
    dangles (c :: rest) = dangles rest := by
  rw [dangles.eq_def]
  split <;> simp_all

theorem unescape_cons {c : Char} (hc : c ≠ '\\') (rest : List Char) :
    unescape (c :: rest) = c :: unescape rest := by
  rw [unescape.eq_def]
  split <;> simp_all

theorem dangles_written (h : ∀ sign ∈ signs, sign.IsProper) :
    dangles (signs.flatMap Sign.written) = false := by
  induction signs with
  | nil => rfl
  | cons sign signs ih =>
      obtain ⟨hsign, hsigns⟩ := List.forall_mem_cons.1 h
      rcases sign with ⟨c, _ | _⟩
      · exact (dangles_cons (hsign rfl).2 _).trans (ih hsigns)
      · exact ih hsigns

theorem unescape_written (h : ∀ sign ∈ signs, sign.IsProper) :
    unescape (signs.flatMap Sign.written) = signs.map Sign.char := by
  induction signs with
  | nil => rfl
  | cons sign signs ih =>
      obtain ⟨hsign, hsigns⟩ := List.forall_mem_cons.1 h
      rw [List.map_cons, ← ih hsigns]
      rcases sign with ⟨c, _ | _⟩
      · exact unescape_cons (hsign rfl).2 _
      · rfl

theorem length_written (signs : List Sign) :
    (signs.flatMap Sign.written).length = signs.length + signs.countP Sign.escaped := by
  induction signs with
  | nil => rfl
  | cons sign signs ih =>
      rw [List.flatMap_cons, List.length_append, ih, List.countP_cons, List.length_cons]
      rcases sign with ⟨c, _ | _⟩
      · simp only [Sign.written, Bool.false_eq_true, if_false, List.length_singleton]
        omega
      · simp only [Sign.written, if_true, List.length_cons, List.length_nil]
        omega

end Rollup.ArrayLiteral
