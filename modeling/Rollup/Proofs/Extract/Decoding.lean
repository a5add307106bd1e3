import Rollup.Extract.Stream
import Rollup.Proofs.Results

namespace Rollup

/-- The record that a row decodes into when changesets have the owners that `ownerOf?` says. -/
def decodeRow (options : Options) (kind : RecordKind) (ownerOf? : Int → Option Owner)
    (row : Row) : Extracted Record := do
  let draft ← Draft.read options kind row
  let attribution := Attribution.ofOwner? (ownerOf? draft.changeset)
  draft.finish attribution.uid? attribution.displayName?

theorem attributeRow_record (options : Options) (kind : RecordKind) (row : Row)
    (cache : OwnerCache) :
    (attributeRow options kind row cache).record =
      decodeRow options kind cache.get? row := by
  unfold attributeRow decodeRow
  cases Draft.read options kind row with
  | error fault => rfl
  | ok draft => rfl

theorem get?_attributeRow (options : Options) (kind : RecordKind) (row : Row)
    (cache : OwnerCache) :
    (attributeRow options kind row cache).cache.get? = cache.get? := by
  unfold attributeRow
  cases Draft.read options kind row with
  | error fault => rfl
  | ok draft => exact cache.get?_remember draft.changeset

/-- Which changeset something belongs to, and what it says of the user behind it. -/
structure Credit where
  changeset : Int
  uid? : Option Nat
  displayName? : Option String
deriving DecidableEq, Repr

/-- Whom an element names, and for which changeset. -/
def Element.credit (element : Element) : Credit :=
  ⟨element.changeset, element.uid?, element.displayName?⟩

/-- A changeset belongs to itself. -/
def Changeset.credit (changeset : Changeset) : Credit :=
  ⟨changeset.id, changeset.uid?, changeset.displayName?⟩

/-- Whom a record names, and for which changeset. -/
def Record.credit : Record → Credit
  | .element shared _ _ => shared.credit
  | .changeset shared .. => shared.credit

theorem Draft.credit_finish {options : Options} {kind : RecordKind} {row : Row} {draft : Draft}
    (hread : Draft.read options kind row = .ok draft) {uid? : Option Nat}
    {displayName? : Option String} {record : Record}
    (hfinish : draft.finish uid? displayName? = .ok record) :
    record.credit = ⟨draft.changeset, uid?, displayName?⟩ := by
  cases kind with
  | element kind =>
      obtain ⟨head, -, hread⟩ := bind_eq_ok.mp hread
      cases hread
      obtain ⟨tags, -, hfinish⟩ := bind_eq_ok.mp hfinish
      obtain ⟨body, -, hfinish⟩ := bind_eq_ok.mp hfinish
      cases hfinish
      rfl
  | changeset =>
      obtain ⟨id, -, hread⟩ := bind_eq_ok.mp hread
      obtain ⟨createdAt, -, hread⟩ := bind_eq_ok.mp hread
      obtain ⟨closedAt, -, hread⟩ := bind_eq_ok.mp hread
      obtain ⟨numChanges, -, hread⟩ := bind_eq_ok.mp hread
      obtain ⟨boundingBox?, -, hread⟩ := bind_eq_ok.mp hread
      obtain ⟨tags, -, hread⟩ := bind_eq_ok.mp hread
      obtain ⟨comments, -, hread⟩ := bind_eq_ok.mp hread
      cases hread
      cases hfinish
      rfl

/-- A decoded record names the owner of its changeset so far as the owner lets it. -/
theorem decodeRow_credit {options : Options} {kind : RecordKind} {ownerOf? : Int → Option Owner}
    {row : Row} {record : Record} (h : decodeRow options kind ownerOf? row = .ok record) :
    let attribution := Attribution.ofOwner? (ownerOf? record.credit.changeset)
    record.credit.uid? = attribution.uid? ∧
      record.credit.displayName? = attribution.displayName? := by
  obtain ⟨draft, hread, hfinish⟩ := bind_eq_ok.mp h
  rw [Draft.credit_finish hread hfinish]
  exact ⟨rfl, rfl⟩

end Rollup
