import Rollup.Output.Reading
import Rollup.Proofs.Json.Reading

namespace Rollup

namespace Json

variable {α β γ : Type} {read? : Json → Option γ} {encode : α → Json} {f : α → γ}

theorem int?_number {numeral : Numeral} (h : IsDigits numeral.text.toList) :
    int? (.number numeral) = some (digitsValue numeral.text.toList : Int) := by
  obtain ⟨c, rest, htext, hc⟩ := h.exists_cons
  rw [htext] at h
  rw [int?, htext]
  simp [hc, h]

theorem int?_ofInt (n : Int) : (ofInt n).int? = some n := by
  cases n with
  | ofNat n =>
      have htext : (Numeral.ofInt n).text.toList = Nat.toDigits 10 n := toList_toString_natCast n
      have hdigits := isDigits_toDigits n
      rw [← htext] at hdigits
      rw [Int.ofNat_eq_natCast, ofInt, int?_number hdigits, htext, digitsValue_toDigits]
  | negSucc n =>
      have htext : (Numeral.ofInt (Int.negSucc n)).text.toList = '-' :: Nat.toDigits 10 (n + 1) :=
        toList_toString_negSucc n
      rw [ofInt, int?, htext]
      simp only
      rw [if_pos (isDigits_toDigits (n + 1)), digitsValue_toDigits]
      rfl

theorem nat?_ofNat (n : Nat) : (ofNat n).nat? = some n := by
  rw [nat?, ofNat, int?_ofInt]
  rfl

theorem field?_eq {name : String} {json value : Json} {x : γ}
    (hvalue : json.value? name = some value) (hread : read? value = some x) :
    json.field? name read? = some x := by
  rw [field?, hvalue, Option.bind_some, hread]

theorem optionalField?_eq {name : String} {json : Json} {x? : Option α}
    (hvalue : json.value? name = x?.map encode) (hread : ∀ x, read? (encode x) = some (f x)) :
    json.optionalField? name read? = some (x?.map f) := by
  rw [optionalField?, hvalue]
  cases x? with
  | none => rfl
  | some x => simp [hread]

theorem mapM_map_eq_some {encode : α → β} {f : β → Option α} (h : ∀ x, f (encode x) = some x)
    (xs : List α) : (xs.map encode).mapM f = some xs := by
  induction xs with
  | nil => rfl
  | cons x xs ih =>
      rw [List.map_cons, List.mapM_cons, h, ih]
      rfl

theorem items?_array {read? : Json → Option α} (hread : ∀ x, read? (encode x) = some x)
    (xs : List α) : items? read? (.array (xs.map encode)) = some xs :=
  mapM_map_eq_some hread xs

theorem members?_object {read? : Json → Option α} (hread : ∀ x, read? (encode x) = some x)
    (members : List (String × α)) :
    members? read? (.object (members.map fun (name, x) => (name, encode x))) = some members := by
  refine mapM_map_eq_some (fun member => ?_) members
  exact congrArg (Option.map (member.1, ·)) (hread member.2)

end Json

namespace JsonLines

open Json (field?_eq optionalField?_eq items?_array nat?_ofNat int?_ofInt)

theorem ofName?_name (kind : ElementKind) : ElementKind.ofName? kind.name = some kind := by
  cases kind <;> rfl

theorem name_ne_changeset (kind : ElementKind) : kind.name ≠ "changeset" := by
  cases kind <;> decide

theorem string?_string (text : String) : Json.string? (.string text) = some text := rfl

theorem bool?_bool (b : Bool) : Json.bool? (.bool b) = some b := rfl

theorem readMember?_ofMember (member : Member) : readMember? (ofMember member) = some member := by
  have hkind : (ofMember member).value? "type" = some (.string member.kind.name) := rfl
  have hid : (ofMember member).value? "ref" = some (.ofNat member.id) := rfl
  have hrole : (ofMember member).value? "role" = some (.string member.role) := rfl
  simp [readMember?, field?_eq hkind (string?_string _), field?_eq hid (nat?_ofNat _),
    field?_eq hrole (string?_string _), ofName?_name]

theorem readComment?_ofComment (comment : Comment) :
    readComment? (ofComment comment) = some comment := by
  have hid : (ofComment comment).value? "id" = some (.ofNat comment.id) := rfl
  have hauthor : (ofComment comment).value? "author_id" = some (.ofNat comment.authorId) := rfl
  have hbody : (ofComment comment).value? "body" = some (.string comment.body) := rfl
  have hcreated : (ofComment comment).value? "created_at" = some (.string comment.createdAt) := rfl
  have hname : (ofComment comment).value? "author_display_name" =
      some (.string comment.authorDisplayName) := rfl
  simp [readComment?, field?_eq hid (nat?_ofNat _), field?_eq hauthor (nat?_ofNat _),
    field?_eq hbody (string?_string _), field?_eq hcreated (string?_string _),
    field?_eq hname (string?_string _)]

theorem readBox?_ofBoundingBox (box : BoundingBox) :
    readBox? (ofBoundingBox box) = some (.ofBox box) := rfl

theorem readTags?_of_value? {json : Json} {tags : Tags}
    (h : json.value? "tags" = some (ofTags tags)) : readTags? json = some tags :=
  field?_eq h (Json.members?_object string?_string tags)

/-- The object holds what is shared by the kinds of elements. -/
structure HoldsElement (json : Json) (head : Element) : Prop where
  id : json.value? "id" = some (.ofNat head.id)
  version : json.value? "version" = some (.ofNat head.version)
  timestamp : json.value? "timestamp" = some (.string head.timestamp)
  changeset : json.value? "changeset" = some (.ofInt head.changeset)
  visible : json.value? "visible" = some (.bool head.visible)
  uid : json.value? "uid" = head.uid?.map .ofNat
  displayName : json.value? "display_name" = head.displayName?.map .string

theorem HoldsElement.read? {json : Json} {head : Element} (h : HoldsElement json head) :
    readElement? json = some head := by
  have huid := optionalField?_eq h.uid nat?_ofNat
  have hname := optionalField?_eq h.displayName string?_string
  simp [readElement?, field?_eq h.id (nat?_ofNat _), field?_eq h.version (nat?_ofNat _),
    field?_eq h.timestamp (string?_string _), field?_eq h.changeset (int?_ofInt _),
    field?_eq h.visible (bool?_bool _), huid, hname]

/-- The object holds what is particular to a kind of element. -/
def HoldsBody (json : Json) : Body → Prop
  | .node location =>
    json.value? "lon" = some (ofFloat location.lon) ∧
      json.value? "lat" = some (ofFloat location.lat)
  | .way nodes => json.value? "nodes" = some (.array (nodes.map .ofNat))
  | .relation members => json.value? "members" = some (.array (members.map ofMember))

theorem HoldsBody.read? {json : Json} {body : Body} (h : HoldsBody json body) :
    readBody? body.kind json = some (.ofBody body) := by
  cases body with
  | node location => simp [Body.kind, readBody?, h.1, h.2, BodyReading.ofBody]
  | way nodes =>
      have hnodes := field?_eq h (items?_array nat?_ofNat nodes)
      simp [Body.kind, readBody?, hnodes, BodyReading.ofBody]
  | relation members =>
      have hmembers := field?_eq h (items?_array readMember?_ofMember members)
      simp [Body.kind, readBody?, hmembers, BodyReading.ofBody]

/-- An object holds, under their names, the members written of a changeset. -/
structure HoldsChangeset (json : Json) (head : Changeset) (comments? : Option (List Comment))
    (now : Instant) : Prop where
  id : json.value? "id" = some (.ofInt head.id)
  createdAt : json.value? "created_at" = some (.string head.createdAt)
  closedAt : json.value? "closed_at" = some (.string head.closedAt)
  uid : json.value? "uid" = head.uid?.map .ofNat
  displayName : json.value? "display_name" = head.displayName?.map .string
  boundingBox : json.value? "bounding_box" = head.boundingBox?.map ofBoundingBox
  numChanges : json.value? "num_changes" = some (.ofNat head.numChanges)
  commentsCount : json.value? "comments_count" = some (.ofNat head.commentsCount)
  isOpen : json.value? "open" = some (.bool (head.isOpenAt now))
  discussion : json.value? "discussion" =
    comments?.map fun comments => .array (comments.map ofComment)

theorem HoldsChangeset.read? {json : Json} {head : Changeset} {comments? : Option (List Comment)}
    {now : Instant} (h : HoldsChangeset json head comments? now) :
    readChangeset? json = some (.of head comments? now) := by
  have huid := optionalField?_eq h.uid nat?_ofNat
  have hname := optionalField?_eq h.displayName string?_string
  have hbox := optionalField?_eq h.boundingBox readBox?_ofBoundingBox
  have hdiscussion := optionalField?_eq h.discussion (items?_array readComment?_ofComment)
  simp [readChangeset?, field?_eq h.id (int?_ofInt _), field?_eq h.createdAt (string?_string _),
    field?_eq h.closedAt (string?_string _), huid, hname, hbox,
    field?_eq h.numChanges (nat?_ofNat _), field?_eq h.commentsCount (nat?_ofNat _),
    field?_eq h.isOpen (bool?_bool _), hdiscussion, ChangesetReading.of]

theorem holds_element (head : Element) (body : Body) (tags : Tags) :
    let json := ofRecord (.element head body tags)
    HoldsElement json head ∧ HoldsBody json body ∧ json.value? "tags" = some (ofTags tags) := by
  obtain ⟨id, version, timestamp, changeset, visible, uid?, displayName?⟩ := head
  cases uid? <;> cases displayName? <;> cases body <;>
    exact ⟨⟨rfl, rfl, rfl, rfl, rfl, rfl, rfl⟩, by first | exact rfl | exact ⟨rfl, rfl⟩, rfl⟩

theorem holds_changeset (head : Changeset) (tags : Tags) (withDiscussion : Bool)
    (comments : List Comment) (now : Instant) :
    let json := ofRecord (.changeset head tags withDiscussion comments now)
    HoldsChangeset json head (if withDiscussion then some comments else none) now ∧
      json.value? "tags" = some (ofTags tags) := by
  obtain ⟨id, createdAt, closedAt, uid?, displayName?, boundingBox?, changes, count⟩ := head
  cases uid? <;> cases displayName? <;> cases boundingBox? <;> cases withDiscussion <;>
    exact ⟨⟨rfl, rfl, rfl, rfl, rfl, rfl, rfl, rfl, rfl, rfl⟩, rfl⟩

theorem ofJson?_ofRecord (record : Record) :
    Reading.ofJson? (ofRecord record) = some (.ofRecord record) := by
  have hkind : (ofRecord record).field? "type" Json.string? = some record.kind.name :=
    field?_eq rfl (string?_string _)
  cases record with
  | element head body tags =>
      obtain ⟨hhead, hbody, htags⟩ := holds_element head body tags
      simp [Reading.ofJson?, hkind, Record.kind, RecordKind.name, name_ne_changeset, ofName?_name,
        hhead.read?, hbody.read?, readTags?_of_value? htags, Reading.ofRecord]
  | changeset head tags withDiscussion comments now =>
      obtain ⟨hhead, htags⟩ := holds_changeset head tags withDiscussion comments now
      simp [Reading.ofJson?, hkind, Record.kind, RecordKind.name, hhead.read?,
        readTags?_of_value? htags, Reading.ofRecord]

end JsonLines

end Rollup
