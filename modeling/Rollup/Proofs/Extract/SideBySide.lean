import Mathlib.Data.List.Forall2
import Rollup.Proofs.Extract.Streaming

namespace Rollup

variable {σ τ : Type}

/-- The element that an event announces, if it does. -/
def Event.announced? : Event → Option Element
  | .announced shared => some shared
  | .wrote _ => none

/-- The elements that were announced, in order. -/
def Extraction.announced (extraction : Extraction σ) : List Element :=
  extraction.events.filterMap Event.announced?

theorem filterMap_announced?_announcement (announce : Bool) (record : Record) :
    (announcement announce record).filterMap Event.announced? =
      if announce then record.element?.toList else [] := by
  cases record with
  | element shared body tags => cases announce <;> rfl
  | changeset shared tags withDiscussion comments now => cases announce <;> rfl

theorem Extraction.announced_after (extraction : Extraction σ) (announce : Bool) (record : Record)
    (reports : List Report) :
    (extraction.after (announcement announce record ++ [.wrote record]) reports).announced =
      (if announce then record.element?.toList else []) ++ extraction.announced := by
  rw [announced, Extraction.after, List.filterMap_append, List.filterMap_append,
    filterMap_announced?_announcement]
  exact congrArg (· ++ _) (List.append_nil _)

/-- Drafts for one changeset that are finished into related records. -/
structure Draft.Alike (Same : Record → Record → Prop) (draft other : Draft) : Prop where
  changeset : draft.changeset = other.changeset
  finish : ∀ uid? displayName?,
    SameOutcome Same (draft.finish uid? displayName?) (other.finish uid? displayName?)

/-- Requests whose extractions go the same way step by step. -/
structure InStep (Same : Record → Record → Prop) (Target : σ → τ → Prop) (x : Request σ)
    (y : Request τ) : Prop where
  kind : x.kind = y.kind
  drafts : ∀ row, SameOutcome (Draft.Alike Same) (Draft.read x.options x.kind row)
    (Draft.read y.options y.kind row)
  elements : ∀ {record other}, Same record other → record.element? = other.element?
  refusals : ∀ {s t record other}, Target s t → Same record other →
    (x.formatter s record).2 = (y.formatter t other).2
  targets : ∀ {s t record other}, Target s t → Same record other →
    Target (x.formatter s record).1 (y.formatter t other).1

/-- Extractions that ended alike and left related targets. -/
structure SideBySide (Same : Record → Record → Prop) (Target : σ → τ → Prop)
    (announceX announceY : Bool) (x : Extraction σ) (y : Extraction τ) : Prop where
  result : x.result = y.result
  written : List.Forall₂ Same x.written y.written
  target : Target x.target y.target
  cache : x.cache = y.cache
  reports : x.reports = y.reports
  /-- What one of them announces the other one announces too, if it announces at all. -/
  announced : ∃ elements, x.announced = (if announceX then elements else []) ∧
    y.announced = if announceY then elements else []

namespace InStep

variable {Same : Record → Record → Prop} {Target : σ → τ → Prop} {x : Request σ} {y : Request τ}

theorem decode (h : InStep Same Target x y) (ownerOf? : Int → Option Owner) (row : Row) :
    SameOutcome Same (x.decode ownerOf? row) (y.decode ownerOf? row) := by
  rw [Request.decode, Request.decode, decodeRow, decodeRow]
  apply (h.drafts row).bind
  intro draft other hdraft
  rw [hdraft.changeset]
  exact hdraft.finish _ _

theorem attributeRow (h : InStep Same Target x y) (row : Row) (cache : OwnerCache) :
    (attributeRow x.options x.kind row cache).cache =
        (attributeRow y.options y.kind row cache).cache ∧
      (attributeRow x.options x.kind row cache).reports =
        (attributeRow y.options y.kind row cache).reports := by
  have hdrafts := h.drafts row
  unfold Rollup.attributeRow
  generalize Draft.read x.options x.kind row = first at hdrafts
  generalize Draft.read y.options y.kind row = second at hdrafts
  cases hdrafts with
  | ok hdraft =>
      simp only [Draft.attribute, hdraft.changeset, and_self]
  | error fault => exact ⟨rfl, rfl⟩

theorem cons_taken (h : InStep Same Target x y) {record other : Record} (hsame : Same record other)
    {rest : Extraction σ} {rest' : Extraction τ}
    (hrest : SideBySide Same Target x.announce y.announce rest rest') (reports : List Report) :
    SideBySide Same Target x.announce y.announce
      (rest.after (announcement x.announce record ++ [.wrote record]) reports)
      (rest'.after (announcement y.announce other ++ [.wrote other]) reports) := by
  obtain ⟨elements, hfirst, hsecond⟩ := hrest.announced
  constructor
  · exact hrest.result
  · rw [Extraction.written_after, Extraction.written_after]
    exact .cons hsame hrest.written
  · exact hrest.target
  · exact hrest.cache
  · exact congrArg (reports ++ ·) hrest.reports
  · refine ⟨record.element?.toList ++ elements, ?_⟩
    rw [Extraction.announced_after, Extraction.announced_after, hfirst, hsecond, h.elements hsame]
    constructor
    · cases x.announce <;> rfl
    · cases y.announce <;> rfl

theorem extractRows (h : InStep Same Target x y) (failure : Option String) (rows : List Row)
    (written : Nat) {s : σ} {t : τ} (hst : Target s t) (cache : OwnerCache) :
    SideBySide Same Target x.announce y.announce (extractRows x failure written s cache rows)
      (extractRows y failure written t cache rows) := by
  induction rows generalizing written s t cache with
  | nil =>
      rw [Rollup.extractRows, Rollup.extractRows, h.kind]
      have hnothing : ∃ elements : List Element, [] = (if x.announce then elements else []) ∧
          [] = if y.announce then elements else [] := ⟨[], by simp⟩
      cases failure with
      | none => exact ⟨rfl, .nil, hst, rfl, rfl, hnothing⟩
      | some cause => exact ⟨rfl, .nil, hst, rfl, rfl, hnothing⟩
  | cons row rest ih =>
      obtain ⟨hcache, hreports⟩ := h.attributeRow row cache
      have hdecode := h.decode cache.get? row
      generalize hx : x.decode cache.get? row = first at hdecode
      generalize hy : y.decode cache.get? row = second at hdecode
      cases hdecode with
      | error fault =>
          rw [extractRows_cons_of_error hx, extractRows_cons_of_error hy]
          exact ⟨rfl, .nil, hst, hcache, hreports, [], by simp [Extraction.announced]⟩
      | @ok record other hsame =>
          have hrefusal := h.refusals hst hsame
          have htarget := h.targets hst hsame
          rcases hs : x.formatter s record with ⟨s', refused⟩
          rcases ht : y.formatter t other with ⟨t', refused'⟩
          rw [hs, ht] at hrefusal htarget
          obtain rfl : refused = refused' := hrefusal
          cases refused with
          | some fault =>
              rw [extractRows_cons_of_refused hx hs, extractRows_cons_of_refused hy ht]
              refine ⟨rfl, ?_, htarget, hcache, hreports, record.element?.toList, ?_⟩
              · simp [Extraction.written, filterMap_written?_announcement]
              · simp [Extraction.announced, filterMap_announced?_announcement, h.elements hsame]
          | none =>
              rw [extractRows_cons_of_taken hx hs, extractRows_cons_of_taken hy ht, hcache,
                hreports]
              exact h.cons_taken hsame (ih (written + 1) htarget _) _

end InStep

end Rollup
