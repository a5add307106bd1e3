import Mathlib.Data.List.Forall2
import Rollup.Extract.Draft
import Rollup.Proofs.ArrayLiteral.Ids
import Rollup.Proofs.Extract.Columns

namespace Rollup

open ArrayLiteral (Item Rendering encodeIds encodeTexts)

/-- The letters that stand for a kind. -/
def ElementKind.letters : ElementKind → List Char
  | .node => ['N', 'n']
  | .way => ['W', 'w']
  | .relation => ['R', 'r']

/-- Texts that need no quotes as an array. -/
def bareArray (texts : List String) : String := "\x7b" ++ ",".intercalate texts ++ "\x7d"

/-- The columns that a changeset has of its own, the children apart. -/
structure ChangesetHead where
  id : Int
  createdAt : String
  closedAt : String
  numChanges : Nat
  /-- The least longitude and latitude and the greatest ones, if it has bounds. -/
  bounds? : Option (Int × Int × Int × Int)

/-- A row holds the fields that all elements share, but for the user. -/
structure HoldsElement (row : Row) (head : ElementHead) : Prop where
  id : row "id" = .ok (.integer head.id)
  version : row "version" = .ok (.integer head.version)
  timestamp : row "timestamp" = .ok (.text head.timestamp)
  changeset : row "changeset_id" = .ok (.integer head.changeset)
  visible : ∃ value, row "visible" = .ok value ∧ Row.truthOf? value = some head.visible

/-- A row holds the fields of a changeset that are columns of their own. -/
structure HoldsChangeset (row : Row) (head : ChangesetHead) : Prop where
  id : row "id" = .ok (.integer head.id)
  createdAt : row "created_at" = .ok (.text head.createdAt)
  closedAt : row "closed_at" = .ok (.text head.closedAt)
  numChanges : row "num_changes" = .ok (.integer head.numChanges)
  bounds : ["min_lon", "min_lat", "max_lon", "max_lat"].map row =
    match head.bounds? with
    | some (minLon, minLat, maxLon, maxLat) =>
      [.ok (.integer minLon), .ok (.integer minLat), .ok (.integer maxLon), .ok (.integer maxLat)]
    | none => [.ok .null, .ok .null, .ok .null, .ok .null]

/-- A row holds tags, encoded in two columns. -/
structure HoldsTags (row : Row) (tags : Tags) : Prop where
  keys : row "tag_k" = .ok (.text (encodeTexts (tags.map Prod.fst)))
  values : row "tag_v" = .ok (.text (encodeTexts (tags.map Prod.snd)))

def HoldsNodes (row : Row) (nodes : List Nat) : Prop :=
  row "node_ids" = .ok (.text (encodeIds (nodes.map Int.ofNat)))

/-- Members are written with one of the letters of their kind each. -/
structure HoldsMembers (row : Row) (members : List Member) : Prop where
  types : ∃ letters : List Char,
    List.Forall₂ (fun letter member => letter ∈ ElementKind.letters (Member.kind member))
      letters members ∧
    row "member_types" = .ok (.text (bareArray (letters.map fun letter => .ofList [letter])))
  ids : row "member_ids" = .ok (.text (encodeIds (members.map fun member => (member.id : Int))))
  roles : row "member_roles" = .ok (.text (encodeTexts (members.map Member.role)))

/-- A row holds comments, encoded in five columns. -/
structure HoldsComments (row : Row) (comments : List Comment) : Prop where
  ids : row "comment_id" = .ok (.text (encodeIds (comments.map fun comment => (comment.id : Int))))
  authorIds : row "comment_author_id" =
    .ok (.text (encodeIds (comments.map fun comment => (comment.authorId : Int))))
  displayNames : row "comment_display_name" =
    .ok (.text (encodeTexts (comments.map Comment.authorDisplayName)))
  bodies : row "comment_body" = .ok (.text (encodeTexts (comments.map Comment.body)))
  createdAt : row "comment_created_at" =
    .ok (.text (encodeTexts (comments.map Comment.createdAt)))

section Readers

variable {row : Row}

theorem requireText_eq_ok {column text : String} (h : row column = .ok (.text text)) :
    row.requireText column = .ok text := by
  rw [Row.requireText, Row.text, h]
  rfl

theorem integer_eq_ok {column : String} {n : Int} (h : row column = .ok (.integer n)) :
    row.integer column = .ok (some n) := by
  rw [Row.integer, h]
  rfl

theorem integer_of_null {column : String} (h : row column = .ok .null) :
    row.integer column = .ok none := by
  rw [Row.integer, h]
  rfl

theorem requireInteger_eq_ok {column : String} {n : Int} (h : row column = .ok (.integer n)) :
    row.requireInteger column = .ok n := by
  rw [Row.requireInteger, integer_eq_ok h]
  rfl

theorem requireUnsigned_eq_ok {column : String} {n : Nat} (h : row column = .ok (.integer n)) :
    requireUnsigned row column = .ok n := by
  have hneg : ¬ (n : Int) < 0 := by omega
  rw [requireUnsigned, requireInteger_eq_ok h]
  change unsigned column n = _
  rw [unsigned, if_neg hneg, Int.toNat_natCast]

theorem requireBoolean_eq_ok {column : String} {value : Value} {b : Bool}
    (h : row column = .ok value) (htruth : Row.truthOf? value = some b) :
    row.requireBoolean column = .ok b := by
  cases value with
  | null => cases htruth
  | integer n =>
      rw [Row.requireBoolean, Row.boolean, h]
      simp only [bind, Except.bind, htruth]
      rfl
  | text text =>
      rw [Row.requireBoolean, Row.boolean, h]
      simp only [bind, Except.bind, htruth]
      rfl

theorem elementHead_read {head : ElementHead} (h : HoldsElement row head) :
    ElementHead.read row = .ok head := by
  obtain ⟨value, hvalue, htruth⟩ := h.visible
  rw [ElementHead.read, requireUnsigned_eq_ok h.id, requireUnsigned_eq_ok h.version,
    requireText_eq_ok h.timestamp, requireInteger_eq_ok h.changeset,
    requireBoolean_eq_ok hvalue htruth]
  rfl

theorem itemId_number (column : String) {id : Nat} (h : IsId id) :
    itemId column ((Rendering.number id).item .keep) = .ok id := by
  have hread : readId? (((Rendering.number id).item .keep).text?.getD "") = some id :=
    readId?_toString h
  simp only [itemId, hread]

theorem resolved_item_quoted (text : String) :
    ((Rendering.quoted text).item .keep).resolved = text := by
  rw [Item.resolved, Rendering.resolved?_item_keep]
  rfl

theorem encodeTexts_map {α : Type} (f : α → String) (xs : List α) :
    encodeTexts (xs.map f) = Rendering.literal (xs.map fun x => .quoted (f x)) := by
  rw [ArrayLiteral.encodeTexts_eq_literal, List.map_map]
  rfl

theorem encodeIds_map {α : Type} (f : α → Int) (xs : List α) :
    encodeIds (xs.map f) = Rendering.literal (xs.map fun x => .number (f x)) := by
  rw [ArrayLiteral.encodeIds_eq_literal, List.map_map]
  rfl

theorem tags_read {tags : Tags} (h : HoldsTags row tags) : Tags.read row = .ok tags := by
  have hread := Parallel.read_of_renderings row Tags.columns (by decide)
    #v[fun tag : String × String => .quoted tag.1, fun tag => .quoted tag.2] tags (by
      intro i hi
      match i, hi with
      | 0, _ => exact h.keys.trans (by rw [encodeTexts_map]; rfl)
      | 1, _ => exact h.values.trans (by rw [encodeTexts_map]; rfl))
  rw [Tags.read, hread]
  refine congrArg Except.ok ?_
  rw [List.filterMap_map]
  refine (List.filterMap_congr fun tag _ => ?_).trans List.filterMap_some
  rw [Function.comp_apply, Tags.ofItems?, Vector.getElem_map, Vector.getElem_map]
  change (Item.resolved? ((Rendering.quoted tag.1).item .keep)).map
    (fun key => (key, ((Rendering.quoted tag.2).item .keep).resolved)) = _
  rw [Rendering.resolved?_item_keep, resolved_item_quoted]
  rfl

theorem readNodes_eq_ok {nodes : List Nat} (h : HoldsNodes row nodes)
    (hids : ∀ id ∈ nodes, IsId id) : readNodes row = .ok nodes := by
  have htext : row.text "node_ids" = .ok (some (encodeIds (nodes.map Int.ofNat))) := by
    rw [Row.text, show row "node_ids" = _ from h]
    rfl
  have hdecode : ArrayLiteral.decodeIds .unsigned64 (encodeIds (nodes.map Int.ofNat)) =
      .ok (nodes.map Int.ofNat) := by
    apply ArrayLiteral.decodeIds_encodeIds
    intro n hn
    obtain ⟨id, hid, rfl⟩ := List.mem_map.1 hn
    exact holds_of_isId (hids id hid)
  rw [readNodes, htext]
  simp only [Extracted.ofRow, mapError_ok, bind, Except.bind, Option.getD_some, hdecode,
    List.map_map]
  exact congrArg Except.ok (List.map_id nodes)

theorem exists_paired {α β : Type} {r : α → β → Prop} {as : List α} {bs : List β}
    (h : List.Forall₂ r as bs) :
    ∃ pairs : List { pair : α × β // r pair.1 pair.2 },
      pairs.map (fun pair => pair.1.1) = as ∧ pairs.map (fun pair => pair.1.2) = bs := by
  induction h with
  | nil => exact ⟨[], rfl, rfl⟩
  | @cons a b as bs hab _ ih =>
      obtain ⟨pairs, has, hbs⟩ := ih
      exact ⟨⟨(a, b), hab⟩ :: pairs, by simp [has], by simp [hbs]⟩

theorem ElementKind.of_mem_letters {P : ElementKind → Char → Prop}
    (hnode : P .node 'N' ∧ P .node 'n') (hway : P .way 'W' ∧ P .way 'w')
    (hrelation : P .relation 'R' ∧ P .relation 'r') {kind : ElementKind} {letter : Char}
    (h : letter ∈ kind.letters) : P kind letter := by
  cases kind with
  | node =>
      rcases List.mem_pair.1 h with rfl | rfl
      · exact hnode.1
      · exact hnode.2
  | way =>
      rcases List.mem_pair.1 h with rfl | rfl
      · exact hway.1
      · exact hway.2
  | relation =>
      rcases List.mem_pair.1 h with rfl | rfl
      · exact hrelation.1
      · exact hrelation.2

theorem ofLetter?_of_mem {kind : ElementKind} {letter : Char} (h : letter ∈ kind.letters) :
    ElementKind.ofLetter? letter = some kind :=
  ElementKind.of_mem_letters (P := fun kind letter => ElementKind.ofLetter? letter = some kind)
    (by decide) (by decide) (by decide) h

theorem isBare_of_mem_letters {kind : ElementKind} {letter : Char} (h : letter ∈ kind.letters) :
    ArrayLiteral.Grammar.isBare letter :=
  ElementKind.of_mem_letters (P := fun _ letter => ArrayLiteral.Grammar.isBare letter)
    (by decide) (by decide) (by decide) h

/-- A letter for a kind as it is written into an array. -/
def letterRendering {kind : ElementKind} {letter : Char} (h : letter ∈ kind.letters) : Rendering :=
  .bare (.ofList [letter]) (by simp)
    (fun heq => by simpa [ArrayLiteral.nullWord] using congrArg String.toList heq)
    (by simpa using isBare_of_mem_letters h)

theorem kindOf_letterRendering {kind : ElementKind} {letter : Char} (h : letter ∈ kind.letters) :
    Member.kindOf ((letterRendering h).item .keep) = .ok kind := by
  have hcode : ElementKind.ofMemberCode? (.ofList [letter]) = some kind := by
    rw [ElementKind.ofMemberCode?, String.toList_ofList]
    exact ofLetter?_of_mem h
  have hresolved : ((letterRendering h).item .keep).resolved = .ofList [letter] := rfl
  simp only [Member.kindOf, hresolved, hcode]

/-- The renderings of a member, whose letter is chosen already. -/
def memberRenderings :
    Vector ({ pair : Char × Member // pair.1 ∈ pair.2.kind.letters } → Rendering) 3 :=
  #v[fun pair => letterRendering pair.2, fun pair => .number pair.1.2.id,
    fun pair => .quoted pair.1.2.role]

theorem ofItems_memberRenderings (pair : { pair : Char × Member // pair.1 ∈ pair.2.kind.letters })
    (hid : IsId pair.1.2.id) :
    Member.ofItems (memberRenderings.map fun f => (f pair).item .keep) = .ok pair.1.2 := by
  simp only [Member.ofItems, Vector.getElem_map]
  change (Member.kindOf ((letterRendering pair.2).item .keep) >>= _) = _
  rw [kindOf_letterRendering]
  change (itemId "member_ids" ((Rendering.number pair.1.2.id).item .keep) >>= _) = _
  rw [itemId_number "member_ids" hid]
  exact congrArg (fun role => Except.ok (Member.mk pair.1.2.kind pair.1.2.id role))
    (resolved_item_quoted pair.1.2.role)

theorem members_read {members : List Member} (h : HoldsMembers row members)
    (hids : ∀ member ∈ members, IsId member.id) : Member.read row = .ok members := by
  obtain ⟨letters, hletters, htypes⟩ := h.types
  -- With its letter put beside each member, all three columns are made from one list.
  obtain ⟨pairs, rfl, rfl⟩ := exists_paired hletters
  have hread := Parallel.read_of_renderings row Member.columns (by decide)
    memberRenderings pairs (by
      intro i hi
      match i, hi with
      | 0, _ =>
          exact htypes.trans (by rw [bareArray, List.map_map, Rendering.literal, List.map_map]; rfl)
      | 1, _ => exact h.ids.trans (by rw [List.map_map, encodeIds_map]; rfl)
      | 2, _ => exact h.roles.trans (by rw [List.map_map, encodeTexts_map]; rfl))
  rw [Member.read, hread]
  change (List.filter _ _).mapM _ = _
  rw [List.filter_eq_self.2]
  · rw [list_mapM_eq_ok]
    rw [List.map_map, List.map_map]
    apply List.map_congr_left
    intro pair hpair
    exact ofItems_memberRenderings pair (hids pair.1.2 (List.mem_map_of_mem hpair))
  · -- No position is vacant, since the kind of each member is there.
    intro items hitems
    obtain ⟨pair, -, rfl⟩ := List.mem_map.1 hitems
    simp only [Member.isVacant, Vector.getElem_map]
    rfl

/-- How the five columns of comments are written. -/
def commentRenderings : Vector (Comment → Rendering) 5 :=
  #v[fun comment => .number comment.id, fun comment => .number comment.authorId,
    fun comment => .quoted comment.authorDisplayName, fun comment => .quoted comment.body,
    fun comment => .quoted comment.createdAt]

theorem ofItems_commentRenderings (comment : Comment) (hid : IsId comment.id)
    (hauthorId : IsId comment.authorId) :
    Comment.ofItems (commentRenderings.map fun f => (f comment).item .keep) = .ok comment := by
  simp only [Comment.ofItems, Vector.getElem_map]
  change (itemId "comment_id" ((Rendering.number comment.id).item .keep) >>= _) = _
  rw [itemId_number "comment_id" hid]
  change (itemId "comment_author_id" ((Rendering.number comment.authorId).item .keep) >>= _) = _
  rw [itemId_number "comment_author_id" hauthorId]
  change Except.ok (Comment.mk comment.id comment.authorId
    ((Rendering.quoted comment.body).item .keep).resolved
    ((Rendering.quoted comment.createdAt).item .keep).resolved
    ((Rendering.quoted comment.authorDisplayName).item .keep).resolved) = _
  simp only [resolved_item_quoted]

theorem comments_read {comments : List Comment} (h : HoldsComments row comments)
    (hids : ∀ comment ∈ comments, IsId comment.id ∧ IsId comment.authorId) :
    Comment.read row = .ok comments := by
  have hread := Parallel.read_of_renderings row Comment.columns (by decide)
    commentRenderings comments (by
      intro i hi
      match i, hi with
      | 0, _ => exact h.ids.trans (by rw [encodeIds_map]; rfl)
      | 1, _ => exact h.authorIds.trans (by rw [encodeIds_map]; rfl)
      | 2, _ => exact h.displayNames.trans (by rw [encodeTexts_map]; rfl)
      | 3, _ => exact h.bodies.trans (by rw [encodeTexts_map]; rfl)
      | 4, _ => exact h.createdAt.trans (by rw [encodeTexts_map]; rfl))
  rw [Comment.read, hread]
  change (List.filter _ _).mapM _ = _
  rw [List.filter_eq_self.2]
  · rw [list_mapM_eq_ok]
    rw [List.map_map]
    apply List.map_congr_left
    intro comment hcomment
    obtain ⟨hid, hauthorId⟩ := hids comment hcomment
    exact ofItems_commentRenderings comment hid hauthorId
  · intro items hitems
    obtain ⟨comment, -, rfl⟩ := List.mem_map.1 hitems
    simp only [Vector.getElem_map]
    rfl

theorem boundingBox_read {head : ChangesetHead} (scale : Scale) (h : HoldsChangeset row head) :
    BoundingBox.read scale head.id row = .ok (head.bounds?.map
      fun (minLon, minLat, maxLon, maxLat) => scale.boundingBox minLon minLat maxLon maxLat) := by
  have hbounds := h.bounds
  cases hbox : head.bounds? with
  | none =>
      simp only [hbox, List.map_cons, List.map_nil, List.cons.injEq, and_true] at hbounds
      obtain ⟨hminLon, hminLat, hmaxLon, hmaxLat⟩ := hbounds
      have hread : BoundingBox.columns.mapM (fun column => Extracted.ofRow (row.integer column)) =
          .ok [none, none, none, none] := by
        rw [list_mapM_eq_ok]
        simp only [BoundingBox.columns, List.map_cons, List.map_nil, integer_of_null hminLon,
          integer_of_null hminLat, integer_of_null hmaxLon, integer_of_null hmaxLat]
        rfl
      rw [BoundingBox.read, hread]
      rfl
  | some box =>
      obtain ⟨minLon, minLat, maxLon, maxLat⟩ := box
      simp only [hbox, List.map_cons, List.map_nil, List.cons.injEq, and_true] at hbounds
      obtain ⟨hminLon, hminLat, hmaxLon, hmaxLat⟩ := hbounds
      have hread : BoundingBox.columns.mapM (fun column => Extracted.ofRow (row.integer column)) =
          .ok [some minLon, some minLat, some maxLon, some maxLat] := by
        rw [list_mapM_eq_ok]
        simp only [BoundingBox.columns, List.map_cons, List.map_nil, integer_eq_ok hminLon,
          integer_eq_ok hminLat, integer_eq_ok hmaxLon, integer_eq_ok hmaxLat]
        rfl
      rw [BoundingBox.read, hread]
      rfl

end Readers

end Rollup
