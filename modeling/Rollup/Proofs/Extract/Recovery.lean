import Mathlib
import Rollup.Proofs.Extract.Accepting
import Rollup.Proofs.Extract.Readback
import Rollup.Row.Memory

namespace Rollup

/-- What a row of a kind holds, the children as lists. -/
inductive Contents where
  | node (head : ElementHead) (lon lat : Int) (tags : Tags)
  | way (head : ElementHead) (nodes : List Nat) (tags : Tags)
  | relation (head : ElementHead) (members : List Member) (tags : Tags)
  | changeset (head : ChangesetHead) (comments : List Comment) (tags : Tags)

namespace Contents

/-- The kind of the record. -/
def kind : Contents → RecordKind
  | .node .. => .element .node
  | .way .. => .element .way
  | .relation .. => .element .relation
  | .changeset .. => .changeset

/-- The changeset of the record. -/
def changesetId : Contents → Int
  | .node head .. | .way head .. | .relation head .. => head.changeset
  | .changeset head .. => head.id

/-- The identifiers among the children, which the columns hold as numbers. -/
def childIds : Contents → List Nat
  | .node .. => []
  | .way _ nodes _ => nodes
  | .relation _ members _ => members.map Member.id
  | .changeset _ comments _ => comments.map Comment.id ++ comments.map Comment.authorId

/-- Whether a row holds the contents, children as arrays. -/
def IsIn (row : Row) : Contents → Prop
  | .node head lon lat tags =>
    HoldsElement row head ∧ HoldsTags row tags ∧ row "longitude" = .ok (.integer lon) ∧
      row "latitude" = .ok (.integer lat)
  | .way head nodes tags => HoldsElement row head ∧ HoldsTags row tags ∧ HoldsNodes row nodes
  | .relation head members tags =>
    HoldsElement row head ∧ HoldsTags row tags ∧ HoldsMembers row members
  | .changeset head comments tags =>
    HoldsChangeset row head ∧ HoldsTags row tags ∧ HoldsComments row comments

/-- The record with these contents, which names the user that it is attributed to. -/
def record (options : Options) (attribution : Attribution) : Contents → Record
  | .node head lon lat tags =>
    .element (head.withUser attribution.uid? attribution.displayName?)
      (.node (options.scale.location lon lat)) tags
  | .way head nodes tags =>
    .element (head.withUser attribution.uid? attribution.displayName?) (.way nodes) tags
  | .relation head members tags =>
    .element (head.withUser attribution.uid? attribution.displayName?) (.relation members) tags
  | .changeset head comments tags =>
    .changeset
      { id := head.id, createdAt := head.createdAt, closedAt := head.closedAt
        uid? := attribution.uid?, displayName? := attribution.displayName?
        boundingBox? := head.bounds?.map fun (minLon, minLat, maxLon, maxLat) =>
          options.scale.boundingBox minLon minLat maxLon maxLat
        numChanges := head.numChanges, commentsCount := comments.length }
      tags options.withDiscussions comments options.now

end Contents

/-- A row that holds some contents decodes into their record. -/
theorem decodeRow_of_isIn {options : Options} {ownerOf? : Int → Option Owner} {row : Row}
    {contents : Contents} (h : contents.IsIn row) (hids : ∀ id ∈ contents.childIds, IsId id) :
    decodeRow options contents.kind ownerOf? row =
      .ok (contents.record options (.ofOwner? (ownerOf? contents.changesetId))) := by
  cases contents with
  | node head lon lat tags =>
      obtain ⟨hhead, htags, hlon, hlat⟩ := h
      simp only [decodeRow, Contents.kind, Draft.read, draftElement, elementHead_read hhead, bind,
        Except.bind, tags_read htags, Body.read, requireInteger_eq_ok hlon,
        requireInteger_eq_ok hlat]
      rfl
  | way head nodes tags =>
      obtain ⟨hhead, htags, hnodes⟩ := h
      simp only [decodeRow, Contents.kind, Draft.read, draftElement, elementHead_read hhead, bind,
        Except.bind, tags_read htags, Body.read, readNodes_eq_ok hnodes hids]
      rfl
  | relation head members tags =>
      obtain ⟨hhead, htags, hmembers⟩ := h
      have hread := members_read hmembers fun member hmember => hids _ (List.mem_map_of_mem hmember)
      simp only [decodeRow, Contents.kind, Draft.read, draftElement, elementHead_read hhead, bind,
        Except.bind, tags_read htags, Body.read, hread]
      rfl
  | changeset head comments tags =>
      obtain ⟨hhead, htags, hcomments⟩ := h
      have hread := comments_read hcomments fun comment hcomment =>
        ⟨hids _ (List.mem_append_left _ (List.mem_map_of_mem hcomment)),
          hids _ (List.mem_append_right _ (List.mem_map_of_mem hcomment))⟩
      simp only [decodeRow, Contents.kind, Draft.read, draftChangeset,
        requireInteger_eq_ok hhead.id, requireText_eq_ok hhead.createdAt,
        requireText_eq_ok hhead.closedAt, requireUnsigned_eq_ok hhead.numChanges, bind, Except.bind,
        boundingBox_read options.scale hhead, tags_read htags, hread, Extracted.ofRow,
        mapError_ok]
      rfl

variable {σ : Type}

theorem extract_of_decodes {request : Request σ} {rows : List Row} {records : List Record}
    {target : σ} {cache : OwnerCache}
    (hdecode : rows.map (request.decode cache.get?) = records.map .ok)
    (htaken : ∀ before record, request.formatter.refusal? target before record = none) :
    (extract request { rows } target cache).result = .ok rows.length ∧
      (extract request { rows } target cache).written = records := by
  obtain ⟨hend, -⟩ := extract_of_taken request rows target cache htaken
  obtain ⟨hwritten, hresult⟩ := hend.unique (.all hdecode)
  exact ⟨hresult, hwritten⟩

theorem map_decode_of_isIn (request : Request σ) (ownerOf? : Int → Option Owner) {rows : List Row}
    {contents : List Contents} (hrows : List.Forall₂ Contents.IsIn rows contents)
    (hkind : ∀ held ∈ contents, held.kind = request.kind)
    (hids : ∀ held ∈ contents, ∀ id ∈ held.childIds, IsId id) :
    rows.map (request.decode ownerOf?) = (contents.map fun held =>
      held.record request.options (.ofOwner? (ownerOf? held.changesetId))).map .ok := by
  induction hrows with
  | nil => rfl
  | @cons row held rows contents hrow _ ih =>
      have hdecode : request.decode ownerOf? row = .ok (held.record request.options
          (.ofOwner? (ownerOf? held.changesetId))) := by
        rw [Request.decode, ← hkind held List.mem_cons_self]
        exact decodeRow_of_isIn hrow (hids held List.mem_cons_self)
      rw [List.map_cons, List.map_cons, List.map_cons, hdecode,
        ih (fun other hother => hkind other (List.mem_cons_of_mem held hother))
          fun other hother => hids other (List.mem_cons_of_mem held hother)]

/-- Rows of a kind that hold some contents each, their children in array columns, are extracted into
the records with these contents, in order: whatever the children are, and however many. -/
theorem extract_recovers (request : Request σ) (rows : List Row) (contents : List Contents)
    (target : σ) (cache : OwnerCache) (hrows : List.Forall₂ Contents.IsIn rows contents)
    (hkind : ∀ held ∈ contents, held.kind = request.kind)
    (hids : ∀ held ∈ contents, ∀ id ∈ held.childIds, IsId id)
    (htaken : ∀ before record, request.formatter.refusal? target before record = none) :
    let extraction := extract request { rows } target cache
    extraction.result = .ok contents.length ∧
      extraction.written = contents.map fun held =>
        held.record request.options (cache.attribution held.changesetId) := by
  have hdecode := map_decode_of_isIn request cache.get? hrows hkind hids
  have hextract := extract_of_decodes hdecode htaken
  rw [hrows.length_eq] at hextract
  exact hextract

theorem Recorder.refusal?_eq_none {recorder : Recorder} (h : recorder.limit = none)
    (before : List Record) (record : Record) :
    Formatter.refusal? Recorder.take recorder before record = none := by
  induction before generalizing recorder with
  | nil => simp [Formatter.refusal?, Formatter.stateAfter, Recorder.take, Recorder.isFull, h]
  | cons first before ih =>
      rw [Formatter.refusal?_cons]
      apply ih
      simp [Recorder.take, Recorder.isFull, h]

/-- Members whose identifiers are the least one and the greatest one, with a role that reads like an
absent one and one that needs escapes; and a key that comes twice. -/
theorem extract_recovers_members :
    let head : ElementHead := ⟨9, 2, "2024-01-01T00:00:00Z", 1, true⟩
    let members : List Member := [⟨.way, 0, "NULL"⟩, ⟨.node, 18446744073709551615, "a,\"\\"⟩]
    let tags : Tags := [("type", "route"), ("type", "")]
    let row := MemoryRow.ofList
      [("id", .integer 9), ("version", .integer 2), ("timestamp", .text "2024-01-01T00:00:00Z"),
        ("changeset_id", .integer 1), ("visible", .text "t"),
        ("tag_k", .text "\x7b\"type\",\"type\"\x7d"), ("tag_v", .text "\x7b\"route\",\"\"\x7d"),
        ("member_types", .text "\x7bw,N\x7d"),
        ("member_ids", .text "\x7b0,18446744073709551615\x7d"),
        ("member_roles", .text "\x7b\"NULL\",\"a,\\\"\\\\\"\x7d")]
    let request : Request Recorder := { kind := .element .relation, formatter := Recorder.take }
    Contents.IsIn row.toRow (.relation head members tags) ∧
      (extract request { rows := [row.toRow] } {} .empty).written =
        [.element (head.withUser none none) (.relation members) tags] := by
  intro head members tags row request
  have hrow : Contents.IsIn row.toRow (.relation head members tags) := by
    refine ⟨⟨rfl, rfl, rfl, rfl, .text "t", rfl, rfl⟩, ⟨?_, ?_⟩, ⟨⟨['w', 'N'], ?_, ?_⟩, ?_, ?_⟩⟩
    · cbv
    · cbv
    · simp [members, ElementKind.letters]
    · cbv
    · cbv
    · cbv
  have hextract := extract_recovers request [row.toRow] [.relation head members tags] {} .empty
    (.cons hrow .nil) (by simp [Contents.kind, request])
    (by simp [Contents.childIds, members, IsId, UInt64.size]) (Recorder.refusal?_eq_none rfl)
  exact ⟨hrow, hextract.2⟩

end Rollup
