import Mathlib
import Rollup.ArrayLiteral.Texts
import Rollup.Proofs.ArrayLiteral.Scan
import Rollup.Proofs.Results

namespace Rollup.ArrayLiteral

/-- An empty text for an absent element, and any other as it is. -/
def Item.collapsed : Item → Item
  | .absent => .present "" false
  | .present text escaped => .present text escaped

theorem Item.collapsed_ne_absent (item : Item) : item.collapsed ≠ .absent := by
  cases item <;> simp [collapsed]

theorem Item.ofBare_collapse (text : String) :
    Item.ofBare .collapse text = (Item.ofBare .keep text).collapsed := by
  rw [Item.ofBare, Item.ofBare]
  split <;> rfl

theorem Item.resolved_collapsed (item : Item) : item.collapsed.resolved = item.resolved := by
  cases item <;> rfl

/-- The reading with its element collapsed. It goes on at the same place. -/
def collapsed (reading : Reading) : Reading :=
  (reading.1.map (Except.map Item.collapsed), reading.2)

theorem collapsed_closeQuote (input : String) (opening closing : Nat) (escaped : Bool) :
    collapsed (closeQuote input opening closing escaped) =
      closeQuote input opening closing escaped := by
  rcases closeQuote_cases input opening closing escaped with
    ⟨-, hread⟩ | hread | ⟨b, -, -, -, hread⟩
  · rw [hread]
    rfl
  · rw [hread]
    rfl
  · rw [hread]
    rfl

theorem Ending.reading_collapse (input : String) (e : Ending) :
    e.reading input .collapse = collapsed (e.reading input .keep) := by
  cases e with
  | nothing => rfl
  | bare start stop cursor =>
      rw [reading, Item.ofBare_collapse]
      rfl
  | quoted opening closing escaped => exact (collapsed_closeQuote ..).symm
  | unclosed opening => rfl

theorem scan_collapse (input : String) (mode : Mode) (offset : Nat) :
    scan input .collapse mode offset = collapsed (scan input .keep mode offset) := by
  rw [scan_eq_reading, scan_eq_reading, Ending.reading_collapse]

namespace Scanner

theorem first_collapse {input : String} (hnull : input ≠ "\x7bNULL\x7d") :
    first input .collapse = collapsed (first input .keep) := by
  by_cases hempty : input = ""
  · subst hempty
    rfl
  · have hkeep : ¬(input = "" ∨ Absence.keep = .collapse ∧ input = "\x7bNULL\x7d") := by
      simp [hempty]
    have hcollapse : ¬(input = "" ∨ Absence.collapse = .collapse ∧ input = "\x7bNULL\x7d") := by
      simp [hempty, hnull]
    rw [first, first, if_neg hkeep, if_neg hcollapse]
    split
    · rfl
    · split
      · rfl
      · exact scan_collapse input (.bare 1) 1

theorem next_collapse {s : Scanner} (hkeep : s.absence = .keep)
    (hnull : s.input ≠ "\x7bNULL\x7d") :
    next { s with absence := .collapse } =
      (s.next.1.map (Except.map Item.collapsed), { s.next.2 with absence := .collapse }) := by
  obtain ⟨input, absence, cursor⟩ := s
  cases hkeep
  cases cursor with
  | unopened =>
      simp only [next, first_collapse hnull]
      rfl
  | inside offset =>
      simp only [next, scan_collapse]
      rfl
  | ended => rfl

theorem toList_collapse {s : Scanner} (hkeep : s.absence = .keep)
    (hnull : s.input ≠ "\x7bNULL\x7d") :
    toList { s with absence := .collapse } = s.toList.map (Except.map Item.collapsed) := by
  fun_induction toList s with
  | case1 s s' h =>
      rw [toList_eq, next_collapse hkeep hnull, h]
      rfl
  | case2 s x s' h _ ih =>
      obtain rfl : s.next.2 = s' := by rw [h]
      have hlater := ih hkeep hnull
      rw [toList_eq, next_collapse hkeep hnull, List.map_cons, ← hlater, h]
      rfl

end Scanner

theorem readings_collapse {literal : String} (hnull : literal ≠ "\x7bNULL\x7d") :
    readings literal .collapse = (readings literal .keep).map (Except.map Item.collapsed) :=
  Scanner.toList_collapse (s := { input := literal }) rfl hnull

theorem readings_nullWord : readings "\x7bNULL\x7d" .collapse = [] :=
  readings_of_nothing (.inr ⟨rfl, rfl⟩)

theorem decodeTexts_eq {literal : String} (hnull : literal ≠ "\x7bNULL\x7d") :
    decodeTexts literal = (items literal .keep).map (List.map Item.resolved) := by
  rw [decodeTexts, items, readings_collapse hnull, list_mapM_map_map]
  change (Except.map _ (items literal .keep)).map _ = _
  cases items literal .keep with
  | error fault => rfl
  | ok list =>
      change Except.ok ((list.map Item.collapsed).map Item.resolved) = _
      rw [List.map_map]
      exact congrArg Except.ok (List.map_congr_left fun item _ => item.resolved_collapsed)

/-- Any literal but braces around the word `NULL` reads the same whether absent elements are kept
apart or not, with an empty text in place of each absent one. So decoding it as texts fails just as
scanning it does, and yields the texts that its elements stand for, of which absent ones are empty.
Braces around the word `NULL` are decoded to no texts. No element is absent where absent elements
read as empty texts. -/
theorem decodeTexts_reads_absent_as_empty :
    (∀ literal : String, literal ≠ "\x7bNULL\x7d" →
      readings literal .collapse = (readings literal .keep).map (Except.map Item.collapsed) ∧
      (∀ fault, items literal .keep = .error fault → decodeTexts literal = .error fault) ∧
      ∀ list, items literal .keep = .ok list →
        decodeTexts literal = .ok (list.map fun item => item.resolved?.getD "")) ∧
    decodeTexts "\x7bNULL\x7d" = .ok [] ∧
    ∀ literal, .ok .absent ∉ readings literal .collapse := by
  refine ⟨?_, ?_, ?_⟩
  · intro literal hnull
    refine ⟨readings_collapse hnull, ?_, ?_⟩
    · intro fault hitems
      rw [decodeTexts_eq hnull, hitems]
      rfl
    · intro list hitems
      rw [decodeTexts_eq hnull, hitems]
      rfl
  · rw [decodeTexts, items, readings_nullWord]
    rfl
  · intro literal habsent
    by_cases hnull : literal = "\x7bNULL\x7d"
    · rw [hnull, readings_nullWord] at habsent
      cases habsent
    · rw [readings_collapse hnull, List.mem_map] at habsent
      rcases habsent with ⟨reading, -, hreading⟩
      cases reading with
      | error fault => cases hreading
      | ok item => exact item.collapsed_ne_absent (Except.ok.inj hreading)

/-- Literals that come close to braces around the word `NULL` are decoded like any other, and so is
one with a quote that is not closed. -/
theorem decodeTexts_reads_absent_as_empty_near_misses :
    ["\x7bNULL", "\x7bNULL\x7dx", "\x7bNULL,\x7d", "\x7b\"NULL\"\x7d"].map decodeTexts =
        [.ok [""], .ok [""], .ok ["", ""], .ok ["NULL"]] ∧
      decodeTexts "\x7bNULL,é\"" = .error (.unterminatedQuote 8) := by
  rcases decodeTexts_reads_absent_as_empty with ⟨hrule, -, -⟩
  have hdecode {literal : String} (list : List Item) (hnull : literal ≠ "\x7bNULL\x7d")
      (h : Grammar.readings literal .keep = list.map .ok) :
      decodeTexts literal = .ok (list.map fun item => item.resolved?.getD "") := by
    have hitems : items literal .keep = .ok list := by
      rw [items_eq_mapM, h, list_mapM_eq_ok, List.map_map]
      rfl
    exact (hrule literal hnull).2.2 list hitems
  constructor
  · rw [List.map_cons, List.map_cons, List.map_cons, List.map_cons,
      hdecode [.absent] (by decide) (by cbv), hdecode [.absent] (by decide) (by cbv),
      hdecode [.absent, .absent] (by decide) (by cbv),
      hdecode [.present "NULL" false] (by decide) (by cbv)]
    rfl
  · apply (hrule "\x7bNULL,é\"" (by decide)).2.1
    rw [items_eq_mapM]
    cbv

end Rollup.ArrayLiteral
