import Mathlib
import Rollup.Proofs.ArrayLiteral.Ids
import Rollup.Proofs.Extract.Readback
import Rollup.Proofs.Extract.Structure
import Rollup.Row.Memory

namespace Rollup

open ArrayLiteral (Item)

/-- What comes of making one thing after the other: all of them, in order, or the fault of the first
that is at fault. -/
inductive Gathered {α β ε : Type} (Says : α → Except ε β → Prop) (xs : List α) :
    Except ε (List β) → Prop where
  | all (ys : List β) (h : List.Forall₂ (fun x y => Says x (.ok y)) xs ys) :
      Gathered Says xs (.ok ys)
  | fault (i : Nat) (hi : i < xs.length) {fault : ε} (h : Says xs[i] (.error fault))
      (hbefore : ∀ j (hj : j < xs.length), j < i → ∃ y, Says xs[j] (.ok y)) :
      Gathered Says xs (.error fault)

theorem gathered_iff {α β ε : Type} {Says : α → Except ε β → Prop} {f : α → Except ε β}
    (hspec : ∀ x outcome, Says x outcome ↔ f x = outcome) {xs : List α}
    {outcome : Except ε (List β)} : Gathered Says xs outcome ↔ xs.mapM f = outcome := by
  constructor
  · intro h
    cases h with
    | all ys h =>
        simp only [hspec] at h
        exact list_mapM_eq_ok_iff_forall₂.2 h
    | fault i hi h hbefore =>
        simp only [hspec] at h hbefore
        exact list_mapM_eq_error.2 ⟨i, hi, h, hbefore⟩
  · rintro rfl
    cases h : xs.mapM f with
    | ok ys =>
        refine .all ys ?_
        simpa only [hspec] using list_mapM_eq_ok_iff_forall₂.1 h
    | error fault =>
        obtain ⟨i, hi, hfault, hbefore⟩ := list_mapM_eq_error.1 h
        refine .fault i hi ((hspec _ _).2 hfault) ?_
        simpa only [hspec] using hbefore

/-- A text is an identifier in decimal digits. -/
structure SpellsId (text : String) (id : Nat) : Prop where
  digits : IsDigits text.toList
  value : decimalValue text.toList = id
  isId : IsId id

theorem readId?_eq_some_iff {text : String} {id : Nat} :
    readId? text = some id ↔ SpellsId text id := by
  rw [readId?, Option.map_eq_some_iff]
  constructor
  · rintro ⟨n, hn, rfl⟩
    have hwrites := IntegerType.read?_eq_some.1 hn
    generalize htext : text.toList = chars at hwrites
    cases hwrites with
    | plain hdigits hholds =>
        obtain rfl := htext
        exact ⟨hdigits, rfl, isId_of_holds hholds⟩
    | minus hsigned => cases hsigned
  · rintro ⟨hdigits, rfl, hid⟩
    exact ⟨_, IntegerType.read?_eq_some.2 (.plain hdigits (holds_of_isId hid)), rfl⟩

theorem readId?_eq_none_iff {text : String} :
    readId? text = none ↔ ∀ id, ¬SpellsId text id := by
  simp only [Option.eq_none_iff_forall_ne_some, ne_eq, readId?_eq_some_iff]

theorem itemId_eq_ok_iff {column : String} {item : Item} {id : Nat} :
    itemId column item = .ok id ↔ SpellsId (item.text?.getD "") id := by
  rw [← readId?_eq_some_iff, itemId]
  cases readId? (item.text?.getD "") with
  | none => simp
  | some other => simp

theorem itemId_eq_error_iff {column : String} {item : Item} {fault : ExtractFault} :
    itemId column item = .error fault ↔
      (∀ id, ¬SpellsId (item.text?.getD "") id) ∧
        fault = .badIdentifier column (item.text?.getD "") := by
  rw [itemId_eq_error, readId?_eq_none_iff]

/-- A code names a kind by its first byte, in either case. -/
def ElementKind.IsNamedBy (kind : ElementKind) (code : String) : Prop :=
  ∃ letter ∈ kind.letters, Text.byteAt? code 0 = some letter.val.toUInt8

theorem ElementKind.ofLetter?_eq_some_iff {c : Char} {kind : ElementKind} :
    ofLetter? c = some kind ↔ c ∈ kind.letters := by
  constructor
  · intro h
    cases kind with
    | node => grind [ofLetter?, letters]
    | way => grind [ofLetter?, letters]
    | relation => grind [ofLetter?, letters]
  · exact ofLetter?_of_mem

theorem ElementKind.utf8Size_of_mem_letters {kind : ElementKind} {letter : Char}
    (h : letter ∈ kind.letters) : letter.utf8Size = 1 :=
  of_mem_letters (P := fun _ letter => letter.utf8Size = 1) ⟨rfl, rfl⟩ ⟨rfl, rfl⟩ ⟨rfl, rfl⟩ h

theorem ElementKind.ofMemberCode?_eq_some_iff {code : String} {kind : ElementKind} :
    ofMemberCode? code = some kind ↔ kind.IsNamedBy code := by
  rw [ofMemberCode?, IsNamedBy]
  cases hcode : code.toList with
  | nil =>
      have hempty : Text.byteAt? code 0 = none := Text.byteAt?_eq_none hcode
      simp [hempty]
  | cons c rest =>
      have hfirst {letter : Char} (hletter : letter ∈ kind.letters) :
          Text.byteAt? code 0 = some letter.val.toUInt8 ↔ c = letter :=
        @Text.byteAt?_width_iff code [] rest c letter hcode (utf8Size_of_mem_letters hletter)
      rw [List.head?_cons, Option.bind_some, ofLetter?_eq_some_iff]
      constructor
      · intro hc
        exact ⟨c, hc, (hfirst hc).2 rfl⟩
      · rintro ⟨letter, hletter, hbyte⟩
        obtain rfl := (hfirst hletter).1 hbyte
        exact hletter

theorem ElementKind.ofMemberCode?_eq_none_iff {code : String} :
    ofMemberCode? code = none ↔ ∀ kind : ElementKind, ¬kind.IsNamedBy code := by
  simp only [Option.eq_none_iff_forall_ne_some, ne_eq, ofMemberCode?_eq_some_iff]

/-- What a position says of a member, its type code before its identifier. -/
inductive Member.Says : Vector Item 3 → Extracted Member → Prop where
  | member {code id role : Item} {kind : ElementKind} {n : Nat}
      (hkind : kind.IsNamedBy code.resolved) (hid : SpellsId (id.text?.getD "") n) :
      Says #v[code, id, role] (.ok ⟨kind, n, role.resolved⟩)
  | unknownCode {code id role : Item}
      (hkind : ∀ kind : ElementKind, ¬kind.IsNamedBy code.resolved) :
      Says #v[code, id, role] (.error (.unknownMemberCode code.resolved))
  | badId {code id role : Item} {kind : ElementKind} (hkind : kind.IsNamedBy code.resolved)
      (hid : ∀ n, ¬SpellsId (id.text?.getD "") n) :
      Says #v[code, id, role] (.error (.badIdentifier "member_ids" (id.text?.getD "")))

theorem Member.kindOf_eq_ok_iff {item : Item} {kind : ElementKind} :
    kindOf item = .ok kind ↔ kind.IsNamedBy item.resolved := by
  rw [← ElementKind.ofMemberCode?_eq_some_iff, kindOf]
  cases ElementKind.ofMemberCode? item.resolved with
  | none => simp
  | some other => simp

theorem Member.kindOf_eq_error_iff {item : Item} {fault : ExtractFault} :
    kindOf item = .error fault ↔
      (∀ kind : ElementKind, ¬kind.IsNamedBy item.resolved) ∧
        fault = .unknownMemberCode item.resolved := by
  rw [kindOf_eq_error, ElementKind.ofMemberCode?_eq_none_iff]

theorem Member.ofItems_mk (code id role : Item) :
    ofItems #v[code, id, role] = (do
      let kind ← kindOf code
      let n ← itemId "member_ids" id
      .ok ⟨kind, n, role.resolved⟩) := rfl

theorem Member.says_iff (items : Vector Item 3) (outcome : Extracted Member) :
    Says items outcome ↔ ofItems items = outcome := by
  constructor
  · intro h
    cases h with
    | member hkind hid =>
        rw [ofItems_mk, kindOf_eq_ok_iff.2 hkind, itemId_eq_ok_iff.2 hid]
        rfl
    | unknownCode hkind =>
        rw [ofItems_mk, kindOf_eq_error_iff.2 ⟨hkind, rfl⟩]
        rfl
    | badId hkind hid =>
        rw [ofItems_mk, kindOf_eq_ok_iff.2 hkind, itemId_eq_error_iff.2 ⟨hid, rfl⟩]
        rfl
  · rintro rfl
    obtain ⟨code, id, role, rfl⟩ : ∃ code id role, items = #v[code, id, role] := by
      refine ⟨items.get 0, items.get 1, items.get 2, ?_⟩
      ext i hi
      interval_cases i <;> rfl
    rw [ofItems_mk]
    cases hkind : kindOf code with
    | error fault =>
        obtain ⟨hnone, rfl⟩ := kindOf_eq_error_iff.1 hkind
        exact .unknownCode hnone
    | ok kind =>
        cases hid : itemId "member_ids" id with
        | error fault =>
            obtain ⟨hnone, rfl⟩ := itemId_eq_error_iff.1 hid
            exact .badId (kindOf_eq_ok_iff.1 hkind) hnone
        | ok n => exact .member (kindOf_eq_ok_iff.1 hkind) (itemId_eq_ok_iff.1 hid)

/-- What a position says of a comment, its identifier before that of its author. -/
inductive Comment.Says : Vector Item 5 → Extracted Comment → Prop where
  | comment {id authorId displayName body createdAt : Item} {n m : Nat}
      (hid : SpellsId (id.text?.getD "") n) (hauthorId : SpellsId (authorId.text?.getD "") m) :
      Says #v[id, authorId, displayName, body, createdAt]
        (.ok ⟨n, m, body.resolved, createdAt.resolved, displayName.resolved⟩)
  | badId {id authorId displayName body createdAt : Item}
      (hid : ∀ n, ¬SpellsId (id.text?.getD "") n) :
      Says #v[id, authorId, displayName, body, createdAt]
        (.error (.badIdentifier "comment_id" (id.text?.getD "")))
  | badAuthorId {id authorId displayName body createdAt : Item} {n : Nat}
      (hid : SpellsId (id.text?.getD "") n)
      (hauthorId : ∀ m, ¬SpellsId (authorId.text?.getD "") m) :
      Says #v[id, authorId, displayName, body, createdAt]
        (.error (.badIdentifier "comment_author_id" (authorId.text?.getD "")))

theorem Comment.ofItems_mk (id authorId displayName body createdAt : Item) :
    ofItems #v[id, authorId, displayName, body, createdAt] = (do
      let n ← itemId "comment_id" id
      let m ← itemId "comment_author_id" authorId
      .ok ⟨n, m, body.resolved, createdAt.resolved, displayName.resolved⟩) := rfl

theorem Comment.says_iff (items : Vector Item 5) (outcome : Extracted Comment) :
    Says items outcome ↔ ofItems items = outcome := by
  constructor
  · intro h
    cases h with
    | comment hid hauthorId =>
        rw [ofItems_mk, itemId_eq_ok_iff.2 hid, itemId_eq_ok_iff.2 hauthorId]
        rfl
    | badId hid =>
        rw [ofItems_mk, itemId_eq_error_iff.2 ⟨hid, rfl⟩]
        rfl
    | badAuthorId hid hauthorId =>
        rw [ofItems_mk, itemId_eq_ok_iff.2 hid, itemId_eq_error_iff.2 ⟨hauthorId, rfl⟩]
        rfl
  · rintro rfl
    obtain ⟨id, authorId, displayName, body, createdAt, rfl⟩ : ∃ id authorId displayName body
        createdAt, items = #v[id, authorId, displayName, body, createdAt] := by
      refine ⟨items.get 0, items.get 1, items.get 2, items.get 3, items.get 4, ?_⟩
      ext i hi
      interval_cases i <;> rfl
    rw [ofItems_mk]
    cases hid : itemId "comment_id" id with
    | error fault =>
        obtain ⟨hnone, rfl⟩ := itemId_eq_error_iff.1 hid
        exact .badId hnone
    | ok n =>
        cases hauthorId : itemId "comment_author_id" authorId with
        | error fault =>
            obtain ⟨hnone, rfl⟩ := itemId_eq_error_iff.1 hauthorId
            exact .badAuthorId (itemId_eq_ok_iff.1 hid) hnone
        | ok m => exact .comment (itemId_eq_ok_iff.1 hid) (itemId_eq_ok_iff.1 hauthorId)

namespace Tags

theorem filterMap_ofItems? (positions : List (Vector Item 2)) :
    positions.filterMap ofItems? =
      (positions.filter fun items => !(items.get 0).isAbsent).map fun items =>
        ((items.get 0).resolved, (items.get 1).resolved) := by
  induction positions with
  | nil => rfl
  | cons items positions ih =>
      cases hkey : items.get 0 with
      | absent =>
          have hnone : ofItems? items = none := by
            change (items.get 0).resolved?.map _ = none
            rw [hkey]
            rfl
          rw [List.filterMap_cons_none hnone,
            List.filter_cons_of_neg (by simp [hkey, Item.isAbsent]), ih]
      | present text escaped =>
          have hsome : ofItems? items = some ((items.get 0).resolved, (items.get 1).resolved) := by
            change (items.get 0).resolved?.map _ = _
            rw [hkey]
            rfl
          rw [List.filterMap_cons_some hsome,
            List.filter_cons_of_pos (by simp [hkey, Item.isAbsent]), List.map_cons, ih]

end Tags

namespace Parallel

variable {n : Nat}

/-- Columns hold arrays of these elements, as many in each. -/
structure Hold (row : Row) (columns : Vector String n) (lists : Vector (List Item) n) : Prop where
  scanned : ∀ i (hi : i < n), scanned row columns[i] = .ok (.ok lists[i])
  sameLength : ∀ i (hi : i < n) j (hj : j < n), lists[i].length = lists[j].length

theorem eq_transpose {lists : Vector (List Item) n} {positions : List (Vector Item n)}
    {length : Nat} (hn : 0 < n) (h : ∀ i (hi : i < n), positions.map (·[i]) = lists[i])
    (hlength : lists[0].length = length) : positions = transpose lists length := by
  rw [← hlength, ← h 0 hn, List.length_map]
  exact (transpose_of_projections fun i hi => (h i hi).symm).symm

theorem exists_positions {row : Row} {columns : Vector String (n + 1)}
    {lists : Vector (List Item) (n + 1)} (h : Hold row columns lists) :
    ∃ positions, (∀ i (hi : i < n + 1), positions.map (·[i]) = lists[i]) ∧
      read row columns = .ok positions := by
  have hzero : 0 < n + 1 := Nat.zero_lt_succ n
  have hprojections : ∀ i (hi : i < n + 1),
      (transpose lists lists[0].length).map (·[i]) = lists[i] :=
    fun i hi => map_getElem_transpose hi (h.sameLength i hi 0 hzero)
  refine ⟨_, hprojections, reads_iff.1 (.aligned _ ?_)⟩
  intro i hi
  rw [hprojections i hi]
  exact h.scanned i hi

end Parallel

open Parallel

/-- Of columns with as many elements in each, children are made position by position. Every key that
is present makes a tag; positions without type and identifier make no member, and positions without
an identifier make no comment. -/
theorem children_by_position (row : Row) :
    (∀ lists, Hold row Tags.columns lists →
      ∃ positions : List (Vector Item 2), (∀ i (hi : i < 2), positions.map (·[i]) = lists[i]) ∧
        Tags.read row = .ok
          ((positions.filter fun items => !(items.get 0).isAbsent).map fun items =>
            ((items.get 0).resolved, (items.get 1).resolved))) ∧
      (∀ lists, Hold row Member.columns lists →
        ∃ positions : List (Vector Item 3), (∀ i (hi : i < 3), positions.map (·[i]) = lists[i]) ∧
          ∀ outcome, Member.read row = outcome ↔ Gathered Member.Says
            (positions.filter fun items =>
              !((items.get 0).isAbsent && (items.get 1).isAbsent)) outcome) ∧
      ∀ lists, Hold row Comment.columns lists →
        ∃ positions : List (Vector Item 5), (∀ i (hi : i < 5), positions.map (·[i]) = lists[i]) ∧
          ∀ outcome, Comment.read row = outcome ↔ Gathered Comment.Says
            (positions.filter fun items => !(items.get 0).isAbsent) outcome := by
  refine ⟨?_, ?_, ?_⟩
  · intro lists hlists
    obtain ⟨positions, hpositions, hread⟩ := exists_positions hlists
    refine ⟨positions, hpositions, ?_⟩
    rw [Tags.read, hread, ← Tags.filterMap_ofItems?]
    rfl
  · intro lists hlists
    obtain ⟨positions, hpositions, hread⟩ := exists_positions hlists
    refine ⟨positions, hpositions, ?_⟩
    intro outcome
    rw [gathered_iff Member.says_iff, Member.read, hread]
    rfl
  · intro lists hlists
    obtain ⟨positions, hpositions, hread⟩ := exists_positions hlists
    refine ⟨positions, hpositions, ?_⟩
    intro outcome
    rw [gathered_iff Comment.says_iff, Comment.read, hread]
    rfl

/-- A tag without a value, a member whose code and identifier are both faulty, and a comment after
a position without any. -/
theorem children_by_position_vacancies :
    let row : MemoryRow := ⟨[("tag_k", .text "\x7bhighway,,\"a \\\"b\\\"\"\x7d"),
      ("tag_v", .text "\x7bresidential,x,NULL\x7d"), ("member_types", .text "\x7bn,NULL,xW\x7d"),
      ("member_ids", .text "\x7b7,,-4\x7d"), ("member_roles", .text "\x7b,stop,stop\x7d"),
      ("comment_id", .text "\x7bNULL,5\x7d"), ("comment_author_id", .text "\x7bx,042\x7d"),
      ("comment_display_name", .text "\x7ba,\"\"\x7d"), ("comment_body", .text "\x7b,NULL\x7d"),
      ("comment_created_at", .text "\x7b,t\x7d")]⟩
    Tags.read row.toRow = .ok [("highway", "residential"), ("a \"b\"", "")] ∧
      Member.read row.toRow = .error (.unknownMemberCode "xW") ∧
      Comment.read row.toRow = .ok [⟨5, 42, "", "t", ""⟩] := by
  intro row
  have hscanned (column text : String) (list : List Item)
      (htext : row.toRow column = .ok (.text text))
      (hlist : (ArrayLiteral.Grammar.readings text .keep).mapM id = .ok list) :
      scanned row.toRow column = .ok (.ok list) := by
    rw [scanned, Row.text, htext]
    change Except.ok (ArrayLiteral.items text .keep) = _
    rw [ArrayLiteral.items_eq_mapM, hlist]
  obtain ⟨htags, hmembers, hcomments⟩ := children_by_position row.toRow
  refine ⟨?_, ?_, ?_⟩
  · let lists : Vector (List Item) 2 :=
      #v[[.present "highway" false, .absent, .present "a \\\"b\\\"" true],
        [.present "residential" false, .present "x" false, .absent]]
    obtain ⟨positions, hpositions, hread⟩ := htags lists ⟨by
      intro i hi
      interval_cases i
      · exact hscanned "tag_k" _ _ rfl (by cbv)
      · exact hscanned "tag_v" _ _ rfl (by cbv), by decide⟩
    obtain rfl : positions = transpose lists 3 := eq_transpose (by decide) hpositions rfl
    rw [hread]
    cbv
  · let lists : Vector (List Item) 3 :=
      #v[[.present "n" false, .absent, .present "xW" false],
        [.present "7" false, .absent, .present "-4" false],
        [.absent, .present "stop" false, .present "stop" false]]
    obtain ⟨positions, hpositions, hread⟩ := hmembers lists ⟨by
      intro i hi
      interval_cases i
      · exact hscanned "member_types" _ _ rfl (by cbv)
      · exact hscanned "member_ids" _ _ rfl (by cbv)
      · exact hscanned "member_roles" _ _ rfl (by cbv), by decide⟩
    obtain rfl : positions = transpose lists 3 := eq_transpose (by decide) hpositions rfl
    have hremaining : (transpose lists 3).filter
        (fun items => !((items.get 0).isAbsent && (items.get 1).isAbsent)) =
          [#v[.present "n" false, .present "7" false, .absent],
            #v[.present "xW" false, .present "-4" false, .present "stop" false]] := by cbv
    rw [hread, hremaining]
    refine .fault 1 (by decide) (.unknownCode ?_) ?_
    · exact ElementKind.ofMemberCode?_eq_none_iff.1 (by cbv)
    · intro j _ hj
      obtain rfl : j = 0 := by omega
      have hkind : ElementKind.node.IsNamedBy "n" :=
        ElementKind.ofMemberCode?_eq_some_iff.1 (by cbv)
      have hid : SpellsId "7" 7 := ⟨by decide, by decide, by norm_num [IsId, UInt64.size]⟩
      exact ⟨_, .member hkind hid⟩
  · let lists : Vector (List Item) 5 :=
      #v[[.absent, .present "5" false], [.present "x" false, .present "042" false],
        [.present "a" false, .present "" false], [.absent, .absent], [.absent, .present "t" false]]
    obtain ⟨positions, hpositions, hread⟩ := hcomments lists ⟨by
      intro i hi
      interval_cases i
      · exact hscanned "comment_id" _ _ rfl (by cbv)
      · exact hscanned "comment_author_id" _ _ rfl (by cbv)
      · exact hscanned "comment_display_name" _ _ rfl (by cbv)
      · exact hscanned "comment_body" _ _ rfl (by cbv)
      · exact hscanned "comment_created_at" _ _ rfl (by cbv), by decide⟩
    obtain rfl : positions = transpose lists 2 := eq_transpose (by decide) hpositions rfl
    have hremaining : (transpose lists 2).filter (fun items => !(items.get 0).isAbsent) =
        [#v[.present "5" false, .present "042" false, .present "" false, .absent,
          .present "t" false]] := by cbv
    rw [hread, hremaining]
    exact .all _ (.cons ((Comment.says_iff _ _).2 rfl) .nil)

end Rollup
