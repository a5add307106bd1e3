import Rollup.Proofs.Extract.Columns
import Rollup.Proofs.Extract.Walk

/-!
The checks that parallel columns pass before anything is made of them. First all columns must be
readable as texts, then all texts must be arrays, and then all arrays must have one length. Only
what has passed is walked, position by position.
-/

namespace Rollup

open ArrayLiteral (ArrayFault Item items)

namespace Parallel

variable {n : Nat} {row : Row}

/-- The elements of a column, or the fault of its array, if it can be read as a text. A null has no
elements. -/
def scanned (row : Row) (column : String) : Except RowFault (Except ArrayFault (List Item)) :=
  (row.text column).map fun
    | some literal => items literal .keep
    | none => .ok []

/-- What comes of reading columns together: the first fault there is, or what stands at each of
their positions. -/
inductive Reads (row : Row) (columns : Vector String n) :
    Extracted (List (Vector Item n)) → Prop where
  | unreadable (i : Nat) (hi : i < n) {cause : RowFault} (h : scanned row columns[i] = .error cause)
      (hbefore : ∀ j (hj : j < n), j < i → ∃ reading, scanned row columns[j] = .ok reading) :
      Reads row columns (.error (.row cause))
  | malformed (i : Nat) (hi : i < n) {cause : ArrayFault}
      (h : scanned row columns[i] = .ok (.error cause))
      (hread : ∀ j (hj : j < n), ∃ reading, scanned row columns[j] = .ok reading)
      (hbefore : ∀ j (hj : j < n), j < i → ∃ list, scanned row columns[j] = .ok (.ok list)) :
      Reads row columns (.error (.malformedArray columns[i] cause))
  | unequal (lists : Vector (List Item) n)
      (h : ∀ i (hi : i < n), scanned row columns[i] = .ok (.ok lists[i])) (i j : Nat) (hi : i < n)
      (hj : j < n) (hne : lists[i].length ≠ lists[j].length) :
      Reads row columns
        (.error (.unequalLengths columns.toList (lists.toList.map List.length)))
  | aligned (positions : List (Vector Item n))
      (h : ∀ i (hi : i < n), scanned row columns[i] = .ok (.ok (positions.map (·[i])))) :
      Reads row columns (.ok positions)

theorem scanned_eq (row : Row) (column : String) :
    scanned row column = (row.text column).map fun literal? => items (literal?.getD "") .keep := by
  have hnull : items "" .keep = .ok [] := by
    rw [items, ArrayLiteral.readings_of_nothing (.inl rfl)]
    rfl
  rw [scanned]
  rcases row.text column with cause | (_ | literal)
  · rfl
  · exact congrArg Except.ok hnull.symm
  · rfl

theorem literal_eq_error {column : String} {fault : ExtractFault} :
    Extracted.ofRow ((row.text column).map fun literal => literal.getD "") = .error fault ↔
      ∃ cause, scanned row column = .error cause ∧ fault = .row cause := by
  rw [scanned_eq]
  cases row.text column with
  | error cause => simp [Except.map, Extracted.ofRow, eq_comm]
  | ok literal? => simp [Except.map, Extracted.ofRow]

theorem exists_literal_iff {column : String} :
    (∃ text, Extracted.ofRow ((row.text column).map fun literal => literal.getD "") = .ok text) ↔
      ∃ reading, scanned row column = .ok reading := by
  rw [scanned_eq]
  cases row.text column with
  | error cause => simp [Except.map, Extracted.ofRow]
  | ok literal? => simp [Except.map, Extracted.ofRow]

variable {columns texts : Vector String n}

theorem literals_eq_error {fault : ExtractFault} :
    literals row columns = .error fault ↔
      ∃ i, ∃ hi : i < n, (∃ cause, scanned row columns[i] = .error cause ∧ fault = .row cause) ∧
        ∀ j (hj : j < n), j < i → ∃ reading, scanned row columns[j] = .ok reading := by
  simp only [literals, vector_mapM_eq_error, literal_eq_error, exists_literal_iff]

theorem scanned_of_literals (h : literals row columns = .ok texts) (i : Nat) (hi : i < n) :
    scanned row columns[i] = .ok (items texts[i] .keep) := by
  have hcolumn := congrArg (·[i]) (vector_mapM_eq_ok.1 h)
  simp only [Vector.getElem_map] at hcolumn
  rw [scanned_eq]
  cases htext : row.text columns[i] with
  | error cause =>
      rw [htext] at hcolumn
      cases hcolumn
  | ok literal? =>
      rw [htext] at hcolumn
      rw [← Except.ok.inj hcolumn]
      rfl

theorem exists_literals (h : ∀ i (hi : i < n), ∃ reading, scanned row columns[i] = .ok reading) :
    ∃ texts, literals row columns = .ok texts := by
  cases hliterals : literals row columns with
  | ok texts => exact ⟨texts, rfl⟩
  | error fault =>
      obtain ⟨i, hi, ⟨cause, hcause, -⟩, -⟩ := literals_eq_error.1 hliterals
      obtain ⟨reading, hreading⟩ := h i hi
      rw [hreading] at hcause
      cases hcause

theorem elements_eq_error {column literal : String} {fault : ExtractFault} :
    elements column literal = .error fault ↔
      ∃ cause, items literal .keep = .error cause ∧ fault = .malformedArray column cause := by
  rw [elements]
  cases items literal .keep with
  | error cause => simp [eq_comm]
  | ok list => simp

theorem mapM_elements_eq_error {fault : ExtractFault} :
    (columns.zip texts).mapM (fun (column, literal) => elements column literal) = .error fault ↔
      ∃ i, ∃ hi : i < n,
        (∃ cause, items texts[i] .keep = .error cause ∧
          fault = .malformedArray columns[i] cause) ∧
        ∀ j (hj : j < n), j < i → ∃ list, items texts[j] .keep = .ok list := by
  simp only [vector_mapM_eq_error, Vector.getElem_zip, elements_eq_error, elements_eq_ok]

theorem all_eq_headD_iff {lengths : List Nat} :
    lengths.all (· = lengths.headD 0) ↔ ∀ a ∈ lengths, ∀ b ∈ lengths, a = b := by
  cases lengths with
  | nil => simp
  | cons first rest =>
      rw [List.headD_cons, List.all_eq_true]
      constructor
      · intro h a ha b hb
        rw [of_decide_eq_true (h a ha), of_decide_eq_true (h b hb)]
      · intro h a ha
        exact decide_eq_true (h a ha first List.mem_cons_self)

theorem agree_iff {lengths : List Nat} :
    Walk.agree lengths ↔ ∀ a ∈ lengths, ∀ b ∈ lengths, a = b := by
  rw [← all_eq_headD_iff]
  induction lengths with
  | nil => simp [Walk.agree]
  | cons first rest ih =>
      cases rest with
      | nil => simp [Walk.agree]
      | cons second others =>
          have hcons : Walk.agree (first :: second :: others) =
              (first == second && Walk.agree (second :: others)) := rfl
          rw [hcons, Bool.and_eq_true, ih, beq_iff_eq]
          constructor
          · rintro ⟨rfl, h⟩
            simpa using h
          · intro h
            simp at h
            obtain ⟨rfl, h⟩ := h
            simpa using h

theorem forall_mem_lengths {lists : Vector (List Item) n} :
    (∀ a ∈ lists.toList.map List.length, ∀ b ∈ lists.toList.map List.length, a = b) ↔
      ∀ i j (hi : i < n) (hj : j < n), lists[i].length = lists[j].length := by
  simp only [List.mem_map, Vector.mem_toList_iff, Vector.mem_iff_getElem]
  constructor
  · intro h i j hi hj
    exact h _ ⟨_, ⟨i, hi, rfl⟩, rfl⟩ _ ⟨_, ⟨j, hj, rfl⟩, rfl⟩
  · rintro h _ ⟨_, ⟨i, hi, rfl⟩, rfl⟩ _ ⟨_, ⟨j, hj, rfl⟩, rfl⟩
    exact h i j hi hj

theorem read_of_malformed {fault : ExtractFault} (htexts : literals row columns = .ok texts)
    (hfault : (columns.zip texts).mapM (fun (column, literal) => elements column literal) =
      .error fault) : read row columns = .error fault := by
  rw [read, htexts]
  change ((columns.zip texts).mapM (fun (column, literal) => elements column literal) >>= _) = _
  rw [hfault]
  rfl

theorem read_of_unequal {lists : Vector (List Item) n} (htexts : literals row columns = .ok texts)
    (hlists : ∀ i (hi : i < n), items texts[i] .keep = .ok lists[i])
    (hne : ¬∀ i j (hi : i < n) (hj : j < n), lists[i].length = lists[j].length) :
    read row columns =
      .error (.unequalLengths columns.toList (lists.toList.map List.length)) := by
  rw [← forall_mem_lengths, ← all_eq_headD_iff] at hne
  rw [read, htexts]
  change ((columns.zip texts).mapM (fun (column, literal) => elements column literal) >>= _) = _
  rw [mapM_elements_eq_ok.2 hlists]
  exact if_neg hne

theorem exists_projections (positions : List (Vector Item n)) :
    ∃ lists : Vector (List Item) n, (∀ i (hi : i < n), lists[i] = positions.map (·[i])) ∧
      ∀ i (hi : i < n), lists[i].length = positions.length := by
  refine ⟨Vector.ofFn fun i => positions.map (·[i.val]), ?_, ?_⟩
  · intro i hi
    rw [Vector.getElem_ofFn]
  · intro i hi
    rw [Vector.getElem_ofFn, List.length_map]

theorem read_of_reads {columns : Vector String (n + 1)}
    {outcome : Extracted (List (Vector Item (n + 1)))} (h : Reads row columns outcome) :
    read row columns = outcome := by
  cases h with
  | unreadable i hi h hbefore =>
      rw [read, literals_eq_error.2 ⟨i, hi, ⟨_, h, rfl⟩, hbefore⟩]
      rfl
  | malformed i hi h hread hbefore =>
      obtain ⟨texts, htexts⟩ := exists_literals hread
      have hscanned := scanned_of_literals htexts
      apply read_of_malformed htexts
      refine mapM_elements_eq_error.2 ⟨i, hi, ⟨_, ?_, rfl⟩, ?_⟩
      · exact Except.ok.inj ((hscanned i hi).symm.trans h)
      · intro j hj hji
        obtain ⟨list, hlist⟩ := hbefore j hj hji
        exact ⟨list, Except.ok.inj ((hscanned j hj).symm.trans hlist)⟩
  | unequal lists h i j hi hj hne =>
      obtain ⟨texts, htexts⟩ := exists_literals fun i hi => ⟨_, h i hi⟩
      apply read_of_unequal htexts
      · intro k hk
        exact Except.ok.inj ((scanned_of_literals htexts k hk).symm.trans (h k hk))
      · exact fun hall => hne (hall i j hi hj)
  | aligned positions h =>
      obtain ⟨texts, htexts⟩ := exists_literals fun i hi => ⟨_, h i hi⟩
      obtain ⟨lists, hlists, hlength⟩ := exists_projections positions
      rw [← transpose_of_projections hlists]
      apply read_of_lists n.add_one_ne_zero htexts _ hlength
      intro i hi
      rw [hlists i hi]
      exact Except.ok.inj ((scanned_of_literals htexts i hi).symm.trans (h i hi))

theorem reads_read (row : Row) (columns : Vector String (n + 1)) :
    Reads row columns (read row columns) := by
  cases hliterals : literals row columns with
  | error fault =>
      obtain ⟨i, hi, ⟨cause, hcause, rfl⟩, hbefore⟩ := literals_eq_error.1 hliterals
      rw [read, hliterals]
      exact .unreadable i hi hcause hbefore
  | ok texts =>
      have hscanned := scanned_of_literals hliterals
      cases hlists : (columns.zip texts).mapM
          (fun (column, literal) => elements column literal) with
      | error fault =>
          obtain ⟨i, hi, ⟨cause, hcause, rfl⟩, hbefore⟩ := mapM_elements_eq_error.1 hlists
          rw [read_of_malformed hliterals hlists]
          refine .malformed i hi ?_ (fun j hj => ⟨_, hscanned j hj⟩) ?_
          · rw [hscanned i hi, hcause]
          · intro j hj hji
            obtain ⟨list, hlist⟩ := hbefore j hj hji
            exact ⟨list, by rw [hscanned j hj, hlist]⟩
      | ok lists =>
          have hitems := mapM_elements_eq_ok.1 hlists
          have hscanned' : ∀ i (hi : i < n + 1), scanned row columns[i] = .ok (.ok lists[i]) := by
            intro i hi
            rw [hscanned i hi, hitems i hi]
          by_cases hall : ∀ i j (hi : i < n + 1) (hj : j < n + 1),
              lists[i].length = lists[j].length
          · obtain ⟨length, hlength⟩ : ∃ length, ∀ i (hi : i < n + 1), lists[i].length = length :=
              ⟨lists[0].length, fun i hi => hall i 0 hi (Nat.zero_lt_succ n)⟩
            rw [read_of_lists n.add_one_ne_zero hliterals hitems hlength]
            apply Reads.aligned
            intro i hi
            rw [map_getElem_transpose hi (hlength i hi), hscanned' i hi]
          · rw [read_of_unequal hliterals hitems hall]
            simp only [not_forall] at hall
            obtain ⟨i, j, hi, hj, hne⟩ := hall
            exact .unequal lists hscanned' i j hi hj hne

/-- What columns are read as is what is said of them, and nothing else is. -/
theorem reads_iff {columns : Vector String (n + 1)}
    {outcome : Extracted (List (Vector Item (n + 1)))} :
    Reads row columns outcome ↔ read row columns = outcome := by
  constructor
  · exact read_of_reads
  · rintro rfl
    exact reads_read row columns

namespace Walk

/-- A walk starts just where columns are read together. -/
theorem start_eq (row : Row) (columns : Vector String n) :
    start row columns = (literals row columns >>= fun texts => (read row columns).map fun _ =>
      { columns, scanners := texts.map fun literal => { input := literal } }) := by
  rw [start]
  cases hliterals : literals row columns with
  | error fault => rfl
  | ok texts =>
      have hlengths : (columns.zip texts).mapM (fun (column, literal) => count column literal) =
          ((columns.zip texts).mapM (fun (column, literal) => elements column literal)).map
            (Vector.map List.length) := vector_mapM_map _ _ _
      change ((columns.zip texts).mapM (fun (column, literal) => count column literal) >>= _) =
        (read row columns).map _
      rw [hlengths]
      cases hlists : (columns.zip texts).mapM
          (fun (column, literal) => elements column literal) with
      | error fault =>
          rw [read_of_malformed hliterals hlists]
          rfl
      | ok lists =>
          rw [read, hliterals]
          change _ = Except.map _ ((columns.zip texts).mapM
            (fun (column, literal) => elements column literal) >>= _)
          rw [hlists]
          simp only [bind, Except.bind, Except.map, Vector.toList_map, agree_iff, all_eq_headD_iff]
          split <;> rfl

theorem reads_of_start_eq_error {columns : Vector String (n + 1)} {fault : ExtractFault}
    (h : start row columns = .error fault) : Reads row columns (.error fault) := by
  apply reads_iff.2
  rw [start_eq] at h
  obtain htexts | ⟨texts, -, h⟩ := bind_eq_error.1 h
  · exact bind_eq_error.2 (.inl htexts)
  · cases hread : read row columns with
    | error cause =>
        rw [hread] at h
        exact congrArg Except.error (Except.error.inj h)
    | ok positions =>
        rw [hread] at h
        cases h

theorem nextAfter_of_start {columns : Vector String (n + 1)} {walk : Walk (n + 1)}
    (h : start row columns = .ok walk) :
    ∃ positions, Reads row columns (.ok positions) ∧
      ∀ steps, walk.nextAfter steps = .ok positions[steps]? := by
  rw [start_eq] at h
  obtain ⟨texts, htexts, h⟩ := bind_eq_ok.1 h
  cases hread : read row columns with
  | error fault =>
      rw [hread] at h
      cases h
  | ok positions =>
      rw [hread] at h
      cases h
      have hreads := reads_iff.2 hread
      refine ⟨positions, hreads, ?_⟩
      obtain ⟨lists, hlists, hlength⟩ := exists_projections positions
      intro steps
      rw [← transpose_of_projections hlists]
      apply nextAfter_of_isBefore _ hlength
      intro i hi
      cases hreads with
      | aligned _ h =>
          have hitems := (scanned_of_literals htexts i hi).symm.trans (h i hi)
          have hreadings := ArrayLiteral.items_eq_ok.1 (Except.ok.inj hitems)
          rw [Vector.getElem_map, hlists i hi, ← hreadings]
          rfl

end Walk

/-- What comes of reading children from columns: a fault of the columns, a fault of what stands at
one of their positions, or the children. -/
inductive Checked {α : Type} (row : Row) (columns : Vector String n)
    (IsFault : Vector Item n → ExtractFault → Prop) : Extracted α → Prop where
  | columns {fault : ExtractFault} (h : Reads row columns (.error fault)) :
      Checked row columns IsFault (.error fault)
  | position {positions : List (Vector Item n)} {items : Vector Item n} {fault : ExtractFault}
      (h : Reads row columns (.ok positions)) (hitems : items ∈ positions)
      (hfault : IsFault items fault) : Checked row columns IsFault (.error fault)
  | children {positions : List (Vector Item n)} (h : Reads row columns (.ok positions)) (a : α) :
      Checked row columns IsFault (.ok a)

theorem checked_bind {α : Type} (row : Row) (columns : Vector String (n + 1))
    {IsFault : Vector Item (n + 1) → ExtractFault → Prop}
    {rest : List (Vector Item (n + 1)) → Extracted α}
    (hrest : ∀ positions fault, rest positions = .error fault →
      ∃ items ∈ positions, IsFault items fault) :
    Checked row columns IsFault (read row columns >>= rest) := by
  cases hread : read row columns with
  | error fault => exact .columns (reads_iff.2 hread)
  | ok positions =>
      have hreads := reads_iff.2 hread
      change Checked row columns IsFault (rest positions)
      cases hchildren : rest positions with
      | error fault =>
          obtain ⟨items, hitems, hfault⟩ := hrest positions fault hchildren
          exact .position hreads hitems hfault
      | ok children => exact .children hreads children

theorem exists_items_of_mapM_eq_error {α : Type} {stays : Vector Item n → Bool}
    {ofItems : Vector Item n → Extracted α} {positions : List (Vector Item n)}
    {fault : ExtractFault} (h : (positions.filter stays).mapM ofItems = .error fault) :
    ∃ items ∈ positions, ofItems items = .error fault := by
  obtain ⟨i, hi, hfault, -⟩ := list_mapM_eq_error.1 h
  exact ⟨_, List.mem_of_mem_filter (List.getElem_mem hi), hfault⟩

end Parallel

theorem itemId_eq_error {column : String} {item : Item} {fault : ExtractFault} :
    itemId column item = .error fault ↔
      readId? (item.text?.getD "") = none ∧ fault = .badIdentifier column (item.text?.getD "") := by
  rw [itemId]
  cases readId? (item.text?.getD "") with
  | none => simp [eq_comm]
  | some id => simp

theorem Member.kindOf_eq_error {item : Item} {fault : ExtractFault} :
    kindOf item = .error fault ↔
      ElementKind.ofMemberCode? item.resolved = none ∧
        fault = .unknownMemberCode item.resolved := by
  rw [kindOf]
  cases ElementKind.ofMemberCode? item.resolved with
  | none => simp [eq_comm]
  | some kind => simp

theorem Member.ofItems_eq_error {items : Vector Item 3} {fault : ExtractFault}
    (h : Member.ofItems items = .error fault) :
    fault = .unknownMemberCode (items.get 0).resolved ∨
      fault = .badIdentifier "member_ids" ((items.get 1).text?.getD "") := by
  obtain hkind | ⟨kind, -, h⟩ := bind_eq_error.1 h
  · exact .inl (kindOf_eq_error.1 hkind).2
  · obtain hid | ⟨id, -, h⟩ := bind_eq_error.1 h
    · exact .inr (itemId_eq_error.1 hid).2
    · cases h

theorem Comment.ofItems_eq_error {items : Vector Item 5} {fault : ExtractFault}
    (h : Comment.ofItems items = .error fault) :
    fault = .badIdentifier "comment_id" ((items.get 0).text?.getD "") ∨
      fault = .badIdentifier "comment_author_id" ((items.get 1).text?.getD "") := by
  obtain hid | ⟨id, -, h⟩ := bind_eq_error.1 h
  · exact .inl (itemId_eq_error.1 hid).2
  · obtain hauthor | ⟨authorId, -, h⟩ := bind_eq_error.1 h
    · exact .inr (itemId_eq_error.1 hauthor).2
    · cases h

open Parallel

/-- Columns are checked before anything is made of what they hold. Of the faults there may be, they
have the first: a column that is no text, a text that is no array, arrays of different lengths. Only
when there is none of them can what stands at some position be at fault, and never the tags there.
A walk that has started takes a step for every position, and then none. -/
theorem structure_checked_before_content (row : Row) :
    (∀ {n : Nat} (columns : Vector String (n + 1)), ∃! outcome, Reads row columns outcome) ∧
      Checked row Tags.columns (fun _ _ => False) (Tags.read row) ∧
      Checked row Member.columns (fun items fault =>
        fault = .unknownMemberCode (items.get 0).resolved ∨
          fault = .badIdentifier "member_ids" ((items.get 1).text?.getD "")) (Member.read row) ∧
      Checked row Comment.columns (fun items fault =>
        fault = .badIdentifier "comment_id" ((items.get 0).text?.getD "") ∨
          fault = .badIdentifier "comment_author_id" ((items.get 1).text?.getD ""))
        (Comment.read row) ∧
      ∀ {n : Nat} (columns : Vector String (n + 1)), match Walk.start row columns with
        | .error fault => Reads row columns (.error fault)
        | .ok walk => ∃ positions, Reads row columns (.ok positions) ∧
            ∀ steps, walk.nextAfter steps = .ok positions[steps]? := by
  refine ⟨?_, ?_, ?_, ?_, ?_⟩
  · intro n columns
    exact ⟨read row columns, reads_read row columns, fun outcome h => (reads_iff.1 h).symm⟩
  · apply checked_bind
    intro positions fault h
    cases h
  · apply checked_bind
    intro positions fault h
    obtain ⟨items, hitems, hfault⟩ := exists_items_of_mapM_eq_error h
    exact ⟨items, hitems, Member.ofItems_eq_error hfault⟩
  · apply checked_bind
    intro positions fault h
    obtain ⟨items, hitems, hfault⟩ := exists_items_of_mapM_eq_error h
    exact ⟨items, hitems, Comment.ofItems_eq_error hfault⟩
  · intro n columns
    cases hstart : Walk.start row columns with
    | error fault => exact Walk.reads_of_start_eq_error hstart
    | ok walk => exact Walk.nextAfter_of_start hstart

end Rollup
