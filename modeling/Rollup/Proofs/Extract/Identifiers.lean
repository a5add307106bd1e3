import Mathlib
import Rollup.Proofs.ArrayLiteral.Agreement
import Rollup.Proofs.Extract.Columns
import Rollup.Row.Memory

namespace Rollup

open ArrayLiteral (Item Spell IsPlain decodeIds items)

theorem itemId_eq_ok {column : String} {item : Item} {id : Nat} :
    itemId column item = .ok id ↔ ∃ n, item.number? .unsigned64 = some n ∧ n.toNat = id := by
  rw [← Option.map_eq_some_iff]
  cases item with
  | absent =>
      constructor <;> intro h <;> cases h
  | present text escaped =>
      simp only [itemId, Item.text?, Option.getD_some]
      change _ ↔ readId? text = some id
      cases readId? text with
      | none => simp
      | some other => simp

theorem isAbsent_of_itemId_eq_ok {column : String} {item : Item} {id : Nat}
    (h : itemId column item = .ok id) : item.isAbsent = false := by
  cases item with
  | absent => cases h
  | present text escaped => rfl

theorem mapM_itemId_eq_ok {column : String} {list : List Item} {ids : List Nat} :
    list.mapM (itemId column) = .ok ids ↔
      ∃ numbers, Spell .unsigned64 list numbers ∧ numbers.map Int.toNat = ids := by
  induction list generalizing ids with
  | nil =>
      constructor
      · intro h
        cases h
        exact ⟨[], .nil, rfl⟩
      · rintro ⟨numbers, hspell, rfl⟩
        cases hspell
        rfl
  | cons item others ih =>
      rw [List.mapM_cons, bind_eq_ok]
      constructor
      · rintro ⟨id, hid, h⟩
        obtain ⟨ids', hids, h⟩ := bind_eq_ok.1 h
        cases h
        obtain ⟨n, hn, rfl⟩ := itemId_eq_ok.1 hid
        obtain ⟨numbers, hspell, rfl⟩ := ih.1 hids
        exact ⟨n :: numbers, .cons hn hspell, rfl⟩
      · rintro ⟨_, hspell, rfl⟩
        cases hspell with
        | @cons _ n _ numbers hn hspell =>
            refine ⟨n.toNat, itemId_eq_ok.2 ⟨n, hn, rfl⟩, ?_⟩
            rw [ih.2 ⟨numbers, hspell, rfl⟩]
            rfl

theorem readNodes_eq_ok_iff {row : Row} {literal? : Option String} {ids : List Nat}
    (h : row.text "node_ids" = .ok literal?) :
    readNodes row = .ok ids ↔
      ∃ numbers, decodeIds .unsigned64 (literal?.getD "") = .ok numbers ∧
        numbers.map Int.toNat = ids := by
  simp only [readNodes, h, Extracted.ofRow, mapError_ok, bind, Except.bind]
  cases decodeIds .unsigned64 (literal?.getD "") with
  | ok numbers => simp
  | error fault => cases fault <;> simp

namespace Parallel

variable {n : Nat}

theorem items_of_read_eq_ok {row : Row} {columns : Vector String n}
    {positions : List (Vector Item n)} {literal? : Option String} {i : Nat} (hi : i < n)
    (hread : read row columns = .ok positions) (htext : row.text columns[i] = .ok literal?) :
    items (literal?.getD "") .keep = .ok (positions.map (·[i])) := by
  obtain ⟨texts, lists, length, htexts, hlists, hlength, rfl⟩ := exists_lists_of_read_eq_ok hread
  obtain ⟨other?, hother, htextsi⟩ := htexts i hi
  rw [htext] at hother
  cases hother
  rw [map_getElem_transpose hi (hlength i hi), ← htextsi]
  exact mapError_eq_ok.1 (hlists i hi)

end Parallel

theorem ids_of_children {α : Type} {n i : Nat} (hi : i < n) {column : String}
    {positions : List (Vector Item n)} {stays : Vector Item n → Bool}
    {ofItems : Vector Item n → Extracted α} {idOf : α → Nat} {children : List α} {ids : List Nat}
    (hids : (positions.map (·[i])).mapM (itemId column) = .ok ids)
    (hstays : ∀ items : Vector Item n, items[i].isAbsent = false → stays items)
    (hof : ∀ items child, ofItems items = .ok child → itemId column items[i] = .ok (idOf child))
    (hread : (positions.filter stays).mapM ofItems = .ok children) :
    children.map idOf = ids := by
  -- No position is left out, since an identifier stands at each of them.
  have hall : positions.filter stays = positions := by
    rw [List.filter_eq_self]
    intro items hitems
    obtain ⟨id, -, hid⟩ := exists_of_list_mapM_eq_ok hids (List.mem_map_of_mem hitems)
    exact hstays items (isAbsent_of_itemId_eq_ok hid)
  rw [hall] at hread
  have hsame := list_mapM_map hread hof
  rw [List.mapM_map] at hids
  exact Except.ok.inj (hsame.symm.trans hids)

theorem Member.ids_of_read_eq_ok {relation : Row} {literal? : Option String} {list : List Item}
    {ids : List Nat} {members : List Member} (htext : relation.text "member_ids" = .ok literal?)
    (hitems : items (literal?.getD "") .keep = .ok list)
    (hids : ∀ column, list.mapM (itemId column) = .ok ids)
    (hread : Member.read relation = .ok members) : members.map Member.id = ids := by
  obtain ⟨positions, hpositions, hread⟩ := bind_eq_ok.1 hread
  have hlist := Parallel.items_of_read_eq_ok (i := 1) (by decide) hpositions htext
  rw [hitems] at hlist
  cases hlist
  apply ids_of_children (by decide) (hids "member_ids") _ _ hread
  · intro items hpresent
    simp [isVacant, hpresent]
  · intro items member h
    obtain ⟨kind, -, h⟩ := bind_eq_ok.1 h
    obtain ⟨id, hid, h⟩ := bind_eq_ok.1 h
    cases h
    exact hid

theorem Comment.ids_of_read_eq_ok {changeset : Row} {literal? : Option String} {list : List Item}
    {ids : List Nat} {comments : List Comment}
    (htext : changeset.text "comment_id" = .ok literal?)
    (hitems : items (literal?.getD "") .keep = .ok list)
    (hids : ∀ column, list.mapM (itemId column) = .ok ids)
    (hread : Comment.read changeset = .ok comments) : comments.map Comment.id = ids := by
  obtain ⟨positions, hpositions, hread⟩ := bind_eq_ok.1 hread
  have hlist := Parallel.items_of_read_eq_ok (i := 0) (by decide) hpositions htext
  rw [hitems] at hlist
  cases hlist
  apply ids_of_children (by decide) (hids "comment_id") _ _ hread
  · intro items hpresent
    simp [hpresent]
  · intro items comment h
    obtain ⟨id, hid, h⟩ := bind_eq_ok.1 h
    obtain ⟨authorId, -, h⟩ := bind_eq_ok.1 h
    cases h
    exact hid

theorem elements_mapM_itemId_eq_ok {column literal : String} {list : List Item} {ids : List Nat}
    (hitems : items literal .keep = .ok list) :
    (Parallel.elements column literal >>= List.mapM (itemId column)) = .ok ids ↔
      list.mapM (itemId column) = .ok ids := by
  rw [Parallel.elements, hitems]
  exact Iff.rfl

/-- Of a plain array the elements are identifiers, one by one, just where the array is decoded. -/
theorem readNodes_eq_ok_iff_elements {way : Row} {literal? : Option String}
    (hplain : IsPlain (literal?.getD "").toList) (hnull : literal?.getD "" ≠ "\x7bNULL\x7d")
    (htext : way.text "node_ids" = .ok literal?) (column : String) (ids : List Nat) :
    readNodes way = .ok ids ↔
      (Parallel.elements column (literal?.getD "") >>= List.mapM (itemId column)) = .ok ids := by
  obtain ⟨list, hitems, -, hok, -⟩ :=
    ArrayLiteral.exists_items_of_isPlain .unsigned64 hplain hnull
  rw [readNodes_eq_ok_iff htext, elements_mapM_itemId_eq_ok hitems, mapM_itemId_eq_ok]
  simp only [hok]

theorem isPlain_of_readNodes_eq_ok {way : Row} {literal? : Option String} {ids : List Nat}
    (htext : way.text "node_ids" = .ok literal?) (hread : readNodes way = .ok ids) :
    IsPlain (literal?.getD "").toList := by
  obtain ⟨numbers, hdecode, -⟩ := (readNodes_eq_ok_iff htext).1 hread
  exact ArrayLiteral.isPlain_of_reads (ArrayLiteral.decodeIds_eq_iff.1 hdecode)

/-- Decoding an array of numbers agrees with scanning its elements. But for braces around the word
`NULL`, which alone hold another number of elements than of numbers, whatever is decoded is scanned
as bare texts that spell the numbers; and a plain array is decoded to the numbers that its elements
spell, or fails to convert where one of them is absent or spells none. So the nodes of a way and the
members of a relation or the comments on a changeset get the same identifiers from the same
array. -/
theorem decodeIds_agrees_with_items (type : IntegerType) :
    (∀ (literal : String) (numbers : List Int), literal ≠ "\x7bNULL\x7d" →
      decodeIds type literal = .ok numbers →
      ∃ texts : List String, items literal .keep = .ok (texts.map (.present · false)) ∧
        List.Forall₂ (fun text n => type.read? text.toList = some n) texts numbers) ∧
    (∀ literal : String, IsPlain literal.toList → ∃ list, items literal .keep = .ok list ∧
      (∀ numbers, Spell type list numbers → decodeIds type literal = .ok numbers) ∧
      (literal ≠ "\x7bNULL\x7d" → (∃ item ∈ list, item.number? type = none) →
        ∃ value, decodeIds type literal = .error (.conversion value))) ∧
    (∀ (literal : String) (numbers : List Int), decodeIds type literal = .ok numbers →
      ∃ list, items literal .keep = .ok list ∧
        (list.length ≠ numbers.length ↔ literal = "\x7bNULL\x7d")) ∧
    ∀ (literal? : Option String) (way : Row), literal?.getD "" ≠ "\x7bNULL\x7d" →
      way.text "node_ids" = .ok literal? →
      (IsPlain (literal?.getD "").toList → ∀ column ids, readNodes way = .ok ids ↔
        (Parallel.elements column (literal?.getD "") >>= List.mapM (itemId column)) = .ok ids) ∧
      ∀ ids, readNodes way = .ok ids →
        (∀ (relation : Row) (members : List Member), relation.text "member_ids" = .ok literal? →
          Member.read relation = .ok members → members.map Member.id = ids) ∧
        ∀ (changeset : Row) (comments : List Comment), changeset.text "comment_id" = .ok literal? →
          Comment.read changeset = .ok comments → comments.map Comment.id = ids := by
  refine ⟨?_, ?_, ?_, ?_⟩
  · intro literal numbers hnull hdecode
    exact ArrayLiteral.exists_texts_of_decodeIds_eq_ok hdecode hnull
  · intro literal hplain
    by_cases hnull : literal = "\x7bNULL\x7d"
    · subst hnull
      refine ⟨[.absent], ArrayLiteral.items_nullWord, ?_, fun hne => absurd rfl hne⟩
      rintro _ (_ | ⟨habsent, -⟩)
      cases habsent
    · obtain ⟨list, hitems, -, hok, hconversion⟩ :=
        ArrayLiteral.exists_items_of_isPlain type hplain hnull
      exact ⟨list, hitems, fun numbers => (hok numbers).2, fun _ => hconversion.2⟩
  · intro literal numbers hdecode
    exact ArrayLiteral.length_ne_iff hdecode
  · intro literal? way hnull htext
    refine ⟨fun hplain => readNodes_eq_ok_iff_elements hplain hnull htext, ?_⟩
    intro ids hread
    have hplain := isPlain_of_readNodes_eq_ok htext hread
    obtain ⟨list, hitems, -⟩ := ArrayLiteral.exists_items_of_isPlain .unsigned64 hplain hnull
    have hids (column : String) : list.mapM (itemId column) = .ok ids := by
      rw [← elements_mapM_itemId_eq_ok hitems]
      exact (readNodes_eq_ok_iff_elements hplain hnull htext column ids).1 hread
    constructor
    · intro relation members hmembers
      exact Member.ids_of_read_eq_ok hmembers hitems hids
    · intro changeset comments hcomments
      exact Comment.ids_of_read_eq_ok hcomments hitems hids

/-- Two identifiers are the same to a way and to a relation, and absent ones are no numbers. -/
theorem decodeIds_agrees_with_items_two_ids :
    let literal := "\x7b7,042\x7d"
    let way : MemoryRow := ⟨[("node_ids", .text literal)]⟩
    let relation : MemoryRow := ⟨[("member_types", .text "\x7bn,w\x7d"),
      ("member_ids", .text literal), ("member_roles", .text "\x7b,NULL\x7d")]⟩
    (∃ texts : List String, items literal .keep = .ok (texts.map (.present · false)) ∧
      List.Forall₂ (fun text n => IntegerType.unsigned64.read? text.toList = some n) texts
        [7, 42]) ∧
      (∃ list, items literal .keep = .ok list ∧
        (list.length ≠ [7, 42].length ↔ literal = "\x7bNULL\x7d")) ∧
      (∃ value, decodeIds .unsigned64 "\x7b7,,\x7d" = .error (.conversion value)) ∧
      readNodes way.toRow = .ok [7, 42] ∧
      ∃ members, Member.read relation.toRow = .ok members ∧ members.map Member.id = [7, 42] := by
  intro literal way relation
  obtain ⟨hscanned, hplain, hlength, hwalk⟩ := decodeIds_agrees_with_items .unsigned64
  have hdecode : decodeIds .unsigned64 literal = .ok [7, 42] := by decide
  have htext : way.toRow.text "node_ids" = .ok (some literal) := rfl
  have hnodes : readNodes way.toRow = .ok [7, 42] :=
    (readNodes_eq_ok_iff htext).2 ⟨[7, 42], hdecode, rfl⟩
  refine ⟨hscanned literal [7, 42] (by decide) hdecode, hlength literal [7, 42] hdecode, ?_,
    hnodes, ?_⟩
  · have hscan : items "\x7b7,,\x7d" .keep = .ok [.present "7" false, .absent, .absent] := by
      rw [ArrayLiteral.items_eq_mapM]
      cbv
    obtain ⟨list, hitems, -, hconversion⟩ := hplain "\x7b7,,\x7d"
      (ArrayLiteral.isPlain_braced ['7', ',', ','] (by decide) (by decide))
    rw [hscan] at hitems
    cases hitems
    exact hconversion (by decide) ⟨.absent, by decide, rfl⟩
  · let texts : Vector String 3 := #v["\x7bn,w\x7d", literal, "\x7b,NULL\x7d"]
    let lists : Vector (List Item) 3 := #v[[.present "n" false, .present "w" false],
      [.present "7" false, .present "042" false], [.absent, .absent]]
    have htexts : ∀ i (hi : i < 3), relation.toRow Member.columns[i] = .ok (.text texts[i]) := by
      decide +kernel
    have hlists : ∀ i (hi : i < 3),
        Parallel.elements Member.columns[i] texts[i] = .ok lists[i] := by
      intro i hi
      rw [Parallel.elements, ArrayLiteral.items_eq_mapM]
      rcases i with _ | _ | _ | i
      · cbv
      · cbv
      · cbv
      · omega
    have hlengths : ∀ i (hi : i < 3), lists[i].length = 2 := by decide
    have hread := Parallel.read_of_elements (by decide) htexts hlists hlengths
    have hmembers : Member.read relation.toRow = .ok [⟨.node, 7, ""⟩, ⟨.way, 42, ""⟩] := by
      rw [Member.read, hread, bind_eq_ok]
      refine ⟨[#v[.present "n" false, .present "7" false, .absent],
        #v[.present "w" false, .present "042" false, .absent]], by cbv, list_mapM_eq_ok.2 ?_⟩
      rfl
    obtain ⟨-, hsame⟩ := hwalk (some literal) way.toRow (by decide) htext
    exact ⟨_, hmembers, (hsame [7, 42] hnodes).1 relation.toRow _ rfl hmembers⟩

end Rollup
