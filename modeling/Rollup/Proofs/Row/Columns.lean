import Mathlib.Data.List.Forall2
import Rollup.Extract.Stream
import Rollup.Proofs.Results

namespace Rollup

/-- The columns that the records of a kind are made from. -/
def RecordKind.columns : RecordKind → List String
  | .element kind =>
    ["id", "version", "timestamp", "changeset_id", "visible", "tag_k", "tag_v"] ++
      match kind with
      | .node => ["longitude", "latitude"]
      | .way => ["node_ids"]
      | .relation => ["member_types", "member_ids", "member_roles"]
  | .changeset =>
    ["id", "created_at", "closed_at", "num_changes", "min_lon", "min_lat", "max_lon", "max_lat",
      "tag_k", "tag_v", "comment_id", "comment_author_id", "comment_display_name", "comment_body",
      "comment_created_at"]

/-- Two rows hold the same in each of the columns. -/
def Row.AgreeOn (columns : List String) (a b : Row) : Prop :=
  ∀ column ∈ columns, a column = b column

theorem Row.AgreeOn.mono {columns others : List String} {a b : Row} (h : Row.AgreeOn columns a b)
    (hsubset : ∀ column ∈ others, column ∈ columns) : Row.AgreeOn others a b := by
  intro column hcolumn
  exact h column (hsubset column hcolumn)

section Readers

variable {a b : Row} {column : String}

theorem Row.text_congr (h : a column = b column) : a.text column = b.text column := by
  rw [Row.text, Row.text, h]

theorem Row.requireText_congr (h : a column = b column) :
    a.requireText column = b.requireText column := by
  rw [Row.requireText, Row.requireText, Row.text_congr h]

theorem Row.integer_congr (h : a column = b column) : a.integer column = b.integer column := by
  rw [Row.integer, Row.integer, h]

theorem Row.requireInteger_congr (h : a column = b column) :
    a.requireInteger column = b.requireInteger column := by
  rw [Row.requireInteger, Row.requireInteger, Row.integer_congr h]

theorem requireUnsigned_congr (h : a column = b column) :
    requireUnsigned a column = requireUnsigned b column := by
  rw [requireUnsigned, requireUnsigned, Row.requireInteger_congr h]

theorem Row.requireBoolean_congr (h : a column = b column) :
    a.requireBoolean column = b.requireBoolean column := by
  rw [Row.requireBoolean, Row.requireBoolean, Row.boolean, Row.boolean, h]

theorem Parallel.read_congr {n : Nat} {columns : Vector String n}
    (h : Row.AgreeOn columns.toList a b) : Parallel.read a columns = Parallel.read b columns := by
  have hliterals : Parallel.literals a columns = Parallel.literals b columns := by
    apply vector_mapM_congr
    intro column hcolumn
    rw [Row.text_congr (h column (Vector.mem_toList_iff.2 hcolumn))]
  rw [Parallel.read, Parallel.read, hliterals]

theorem Tags.read_congr (h : Row.AgreeOn Tags.columns.toList a b) : Tags.read a = Tags.read b := by
  rw [Tags.read, Tags.read, Parallel.read_congr h]

theorem Member.read_congr (h : Row.AgreeOn Member.columns.toList a b) :
    Member.read a = Member.read b := by
  rw [Member.read, Member.read, Parallel.read_congr h]

theorem Comment.read_congr (h : Row.AgreeOn Comment.columns.toList a b) :
    Comment.read a = Comment.read b := by
  rw [Comment.read, Comment.read, Parallel.read_congr h]

theorem ElementHead.read_congr
    (h : Row.AgreeOn ["id", "version", "timestamp", "changeset_id", "visible"] a b) :
    ElementHead.read a = ElementHead.read b := by
  rw [ElementHead.read, ElementHead.read, requireUnsigned_congr (h "id" (by simp)),
    requireUnsigned_congr (h "version" (by simp)),
    Row.requireText_congr (h "timestamp" (by simp)),
    Row.requireInteger_congr (h "changeset_id" (by simp)),
    Row.requireBoolean_congr (h "visible" (by simp))]

theorem Body.read_congr {scale : Scale} {kind : ElementKind}
    (h : Row.AgreeOn (RecordKind.columns (.element kind)) a b) :
    Body.read scale a kind = Body.read scale b kind := by
  cases kind with
  | node =>
      have hlon := Row.requireInteger_congr (h "longitude" (by simp [RecordKind.columns]))
      have hlat := Row.requireInteger_congr (h "latitude" (by simp [RecordKind.columns]))
      rw [Body.read, Body.read, hlon, hlat]
  | way =>
      have hnodes := Row.text_congr (h "node_ids" (by simp [RecordKind.columns]))
      rw [Body.read, Body.read, readNodes, readNodes, hnodes]
  | relation =>
      have hmembers : Member.read a = Member.read b :=
        Member.read_congr (h.mono (by simp [RecordKind.columns, Member.columns]))
      rw [Body.read, Body.read, hmembers]

theorem BoundingBox.read_congr {scale : Scale} {changeset : Int}
    (h : Row.AgreeOn BoundingBox.columns a b) :
    BoundingBox.read scale changeset a = BoundingBox.read scale changeset b := by
  have hbounds : (BoundingBox.columns.mapM fun column => Extracted.ofRow (a.integer column)) =
      BoundingBox.columns.mapM fun column => Extracted.ofRow (b.integer column) := by
    apply list_mapM_congr
    intro column hcolumn
    rw [Row.integer_congr (h column hcolumn)]
  rw [BoundingBox.read, BoundingBox.read, hbounds]

theorem Draft.read_congr (options : Options) {kind : RecordKind}
    (h : Row.AgreeOn kind.columns a b) :
    Draft.read options kind a = Draft.read options kind b := by
  cases kind with
  | element kind =>
      have hhead : ElementHead.read a = ElementHead.read b :=
        ElementHead.read_congr (h.mono (by simp [RecordKind.columns]))
      have htags : Tags.read a = Tags.read b :=
        Tags.read_congr (h.mono (by simp [RecordKind.columns, Tags.columns]))
      have hbody : Body.read options.scale a kind = Body.read options.scale b kind :=
        Body.read_congr h
      rw [Draft.read, Draft.read, draftElement, draftElement, hhead, htags, hbody]
  | changeset =>
      have hbox : ∀ id, BoundingBox.read options.scale id a = BoundingBox.read options.scale id b :=
        fun id => BoundingBox.read_congr
          (h.mono (by simp [RecordKind.columns, BoundingBox.columns]))
      have htags : Tags.read a = Tags.read b :=
        Tags.read_congr (h.mono (by simp [RecordKind.columns, Tags.columns]))
      have hcomments : Comment.read a = Comment.read b :=
        Comment.read_congr (h.mono (by simp [RecordKind.columns, Comment.columns]))
      simp only [Draft.read, draftChangeset, hbox, htags, hcomments,
        Row.requireInteger_congr (h "id" (by simp [RecordKind.columns])),
        Row.requireText_congr (h "created_at" (by simp [RecordKind.columns])),
        Row.requireText_congr (h "closed_at" (by simp [RecordKind.columns])),
        requireUnsigned_congr (h "num_changes" (by simp [RecordKind.columns]))]

end Readers

variable {σ : Type}

theorem extractRows_congr {request : Request σ} {failure : Option String} {rows others : List Row}
    (h : List.Forall₂ (Row.AgreeOn request.kind.columns) rows others) (written : Nat) (target : σ)
    (cache : OwnerCache) :
    extractRows request failure written target cache rows =
      extractRows request failure written target cache others := by
  induction h generalizing written target cache with
  | nil => rfl
  | cons hrow _ ih =>
      have hstep := Draft.read_congr request.options hrow
      simp only [extractRows, attributeRow, hstep, ih]

/-- Rows that agree on the columns of the kind, one by one, are extracted as the same. -/
theorem extract_congr {request : Request σ} {failure : Option String} {rows others : List Row}
    (h : List.Forall₂ (Row.AgreeOn request.kind.columns) rows others) (target : σ)
    (cache : OwnerCache) :
    extract request ⟨rows, failure⟩ target cache = extract request ⟨others, failure⟩ target cache :=
  extractRows_congr h 0 target cache

end Rollup
