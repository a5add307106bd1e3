import Rollup.Proofs.Attribution.Cache
import Rollup.Proofs.Extract.Streaming
import Rollup.Row.Memory
import Rollup.Session

/-!
What a session gives away. Two caches of owners that differ in nothing but who the private owners
are cannot be told apart by any session; and if private owners are left out altogether, that shows
only where owners who are private are told from owners who are not known.
-/

namespace Rollup

variable {σ : Type}

/-- What follows from whom an owner lets be named, or from there being no owner. -/
def Attribution.ofDisclosed? : Option (Option Author) → Attribution
  | some (some author) => .disclosed author
  | some none => .withheld
  | none => .unresolved

theorem Attribution.ofOwner?_eq (owner? : Option Owner) :
    ofOwner? owner? = ofDisclosed? (owner?.map Owner.disclosed?) := by
  cases owner? with
  | none => rfl
  | some owner =>
      cases hpublic : owner.isPublic <;>
        simp [ofOwner?, Owner.attribution, Owner.disclosed?, hpublic, ofDisclosed?]

namespace OwnerCache

/-- The caches have owners for the same changesets, private for the same ones, and the public ones
are the same. They missed the same changesets. -/
structure SameButPrivate (a b : OwnerCache) : Prop where
  owners : ∀ id, (a.get? id).map Owner.disclosed? = (b.get? id).map Owner.disclosed?
  missed : ∀ id, id ∈ a.missed ↔ id ∈ b.missed

/-- The caches have the same public owners. What one of them has for any other changeset, a private
owner or none at all, says nothing of the other. -/
def SameDisclosed (a b : OwnerCache) : Prop :=
  ∀ id, (a.get? id).bind Owner.disclosed? = (b.get? id).bind Owner.disclosed?

end OwnerCache

/-- A relation between caches that every use of them keeps, and that makes them name the same users
and report the same, so far as reports are seen. -/
structure Concealing (Related : OwnerCache → OwnerCache → Prop) (isSeen : Report → Bool) :
    Prop where
  disclosed : ∀ {a b}, Related a b → OwnerCache.SameDisclosed a b
  reports : ∀ {a b}, Related a b → ∀ id, (a.reports id).filter isSeen = (b.reports id).filter isSeen
  insert : ∀ {a b}, Related a b → ∀ id owner, Related (a.insert id owner) (b.insert id owner)
  remember : ∀ {a b}, Related a b → ∀ id, Related (a.remember id) (b.remember id)

namespace OwnerCache

theorem SameButPrivate.sameDisclosed {a b : OwnerCache} (h : SameButPrivate a b) :
    SameDisclosed a b := by
  intro id
  have hid := congrArg (fun shown => shown.bind fun author? => author?) (h.owners id)
  simpa [Option.bind_map, Function.comp_def] using hid

theorem SameButPrivate.get?_eq_none_iff {a b : OwnerCache} (h : SameButPrivate a b) (id : Int) :
    a.get? id = none ↔ b.get? id = none := by
  rw [← Option.map_eq_none_iff (f := Owner.disclosed?), h.owners id, Option.map_eq_none_iff]

theorem sameDisclosed_of_absent {a b : OwnerCache} {id : Int} {owner : Owner}
    (ha : a.get? id = some owner) (hb : b.get? id = none) (hprivate : owner.isPublic = false)
    (hrest : ∀ other, other ≠ id → a.get? other = b.get? other) : SameDisclosed a b := by
  intro other
  by_cases hother : other = id
  · rw [hother, ha, hb]
    simp [Owner.disclosed?, hprivate]
  · rw [hrest other hother]

theorem SameButPrivate.contains_eq {a b : OwnerCache} (h : SameButPrivate a b) (id : Int) :
    a.contains id = b.contains id := by
  rw [OwnerCache.contains_eq, OwnerCache.contains_eq, ← Option.isSome_map (f := Owner.disclosed?),
    h.owners id, Option.isSome_map]

theorem SameButPrivate.attribution_eq {a b : OwnerCache} (h : SameButPrivate a b) (id : Int) :
    a.attribution id = b.attribution id := by
  rw [attribution, attribution, Attribution.ofOwner?_eq, Attribution.ofOwner?_eq, h.owners id]

theorem sameDisclosed_insert {a b : OwnerCache} (h : SameDisclosed a b) (id : Int)
    (owner : Owner) : SameDisclosed (a.insert id owner) (b.insert id owner) := by
  intro other
  rw [get?_insert, get?_insert]
  split
  · rfl
  · exact h other

theorem concealing_sameButPrivate : Concealing SameButPrivate (fun _ => true) where
  disclosed := SameButPrivate.sameDisclosed
  reports := by
    intro a b h id
    simp only [reports_eq, h.get?_eq_none_iff id, h.missed id]
  insert := by
    intro a b h id owner
    refine ⟨?_, ?_⟩
    · intro other
      rw [get?_insert, get?_insert]
      split
      · rfl
      · exact h.owners other
    · intro other
      rw [mem_missed_insert, mem_missed_insert, h.missed other]
  remember := by
    intro a b h id
    refine ⟨?_, ?_⟩
    · intro other
      rw [get?_remember, get?_remember]
      exact h.owners other
    · intro other
      rw [mem_missed_remember, mem_missed_remember, h.missed other, h.get?_eq_none_iff id]

theorem missedId?_of_mem_reports {cache : OwnerCache} {id : Int} {report : Report}
    (h : report ∈ cache.reports id) : report.missedId? = some id := by
  rw [reports_eq] at h
  split at h
  · rw [List.mem_singleton.1 h]
    rfl
  · cases h

theorem concealing_sameDisclosed :
    Concealing SameDisclosed (fun report => report.missedId?.isNone) where
  disclosed := id
  reports := by
    intro a b h id
    have hnil : ∀ cache : OwnerCache,
        (cache.reports id).filter (fun report => report.missedId?.isNone) = [] := by
      intro cache
      rw [List.filter_eq_nil_iff]
      intro report hreport
      rw [missedId?_of_mem_reports hreport]
      exact Bool.false_ne_true
    rw [hnil a, hnil b]
  insert := sameDisclosed_insert
  remember := by
    intro a b h id other
    rw [get?_remember, get?_remember]
    exact h other

end OwnerCache

/-- Two extractions that show the same and leave related caches. -/
structure Matching (Related : OwnerCache → OwnerCache → Prop) (isSeen : Report → Bool)
    (x y : Extraction σ) : Prop where
  result : x.result = y.result
  target : x.target = y.target
  events : x.events = y.events
  reports : x.reports.filter isSeen = y.reports.filter isSeen
  cache : Related x.cache y.cache

namespace Concealing

variable {Related : OwnerCache → OwnerCache → Prop} {isSeen : Report → Bool} {a b : OwnerCache}

theorem decodeRow_eq (h : Concealing Related isSeen) (hab : Related a b) (options : Options)
    (kind : RecordKind) : decodeRow options kind a.get? = decodeRow options kind b.get? := by
  funext row
  unfold decodeRow
  cases Draft.read options kind row with
  | error fault => rfl
  | ok draft =>
      have hdisclosed := h.disclosed hab draft.changeset
      simp only [bind, Except.bind, Attribution.uid?_ofOwner?, Attribution.displayName?_ofOwner?,
        hdisclosed]

theorem attributeRow (h : Concealing Related isSeen) (hab : Related a b) (options : Options)
    (kind : RecordKind) (row : Row) :
    (attributeRow options kind row a).reports.filter isSeen =
        (attributeRow options kind row b).reports.filter isSeen ∧
      Related (attributeRow options kind row a).cache (attributeRow options kind row b).cache := by
  unfold Rollup.attributeRow
  cases Draft.read options kind row with
  | error fault => exact ⟨rfl, hab⟩
  | ok draft => exact ⟨h.reports hab draft.changeset, h.remember hab draft.changeset⟩

theorem extractRows (h : Concealing Related isSeen) (request : Request σ)
    (failure : Option String) (rows : List Row) (written : Nat) (target : σ) (hab : Related a b) :
    Matching Related isSeen (extractRows request failure written target a rows)
      (extractRows request failure written target b rows) := by
  induction rows generalizing written target a b with
  | nil => cases failure <;> exact ⟨rfl, rfl, rfl, rfl, hab⟩
  | cons row rest ih =>
      obtain ⟨hreports, hcache⟩ := h.attributeRow hab request.options request.kind row
      have hsame : request.decode a.get? row = request.decode b.get? row :=
        congrFun (h.decodeRow_eq hab request.options request.kind) row
      cases hdecode : request.decode a.get? row with
      | error fault =>
          rw [extractRows_cons_of_error hdecode, extractRows_cons_of_error (hsame ▸ hdecode)]
          exact ⟨rfl, rfl, rfl, hreports, hcache⟩
      | ok record =>
          rcases htaken : request.formatter target record with ⟨target', _ | fault⟩
          · rw [extractRows_cons_of_taken hdecode htaken,
              extractRows_cons_of_taken (hsame ▸ hdecode) htaken]
            have hrest := ih (written + 1) target' hcache
            refine ⟨hrest.result, hrest.target, congrArg (_ ++ ·) hrest.events, ?_, hrest.cache⟩
            simp only [Extraction.after, List.filter_append, hreports, hrest.reports]
          · rw [extractRows_cons_of_refused hdecode htaken,
              extractRows_cons_of_refused (hsame ▸ hdecode) htaken]
            exact ⟨rfl, rfl, rfl, hreports, hcache⟩

end Concealing

namespace Session

/-- A step of a session, or an extraction with a formatter of any kind. -/
inductive AnyStep : Type 1 where
  | plain (step : Step)
  | extract {σ : Type} (request : Request σ) (feed : RowFeed) (target : σ)

/-- What a step shows of itself: all of its answer but the inside of the cache. -/
inductive Shown : Type 1 where
  | done
  | attribution (attribution : Attribution)
  | contains (found : Bool)
  /-- The state that a formatter is left in holds the records or the bytes that were written. -/
  | extracted {σ : Type} (result : Extracted Nat) (target : σ) (events : List Event)
    (finish : Option FormatFault)
  | zeroScale

/-- What is shown of an extraction, with what its target said in the end. -/
def Shown.ofExtraction (extraction : Extraction σ) (finish : Option FormatFault) : Shown :=
  .extracted extraction.result extraction.target extraction.events finish

def Answer.shown : Answer → Shown
  | .done => .done
  | .attribution found => .attribution found
  | .contains found => .contains found
  | .recorded extraction => .ofExtraction extraction none
  | .lines extraction finish => .ofExtraction extraction finish
  | .zeroScale => .zeroScale

/-- What a step shows, what it reports, and the cache that it leaves. -/
structure Passed : Type 1 where
  shown : Shown
  reports : List Report
  cache : OwnerCache

/-- What a step passes on, and to which cache. -/
def AnyStep.run (cache : OwnerCache) : AnyStep → Passed
  | .plain step =>
    let outcome := step.run cache
    ⟨outcome.answer.shown, outcome.reports, outcome.cache⟩
  | .extract request feed target =>
    let extraction := Rollup.extract request feed target cache
    ⟨.ofExtraction extraction none, extraction.reports, extraction.cache⟩

/-- All that the steps of a session pass on. -/
def passed (cache : OwnerCache) : List AnyStep → List Passed
  | [] => []
  | step :: rest => step.run cache :: passed (step.run cache).cache rest

theorem passed_plain (cache : OwnerCache) (steps : List Step) :
    passed cache (steps.map .plain) = (run cache steps).map fun outcome =>
      ⟨outcome.answer.shown, outcome.reports, outcome.cache⟩ := by
  induction steps generalizing cache with
  | nil => rfl
  | cons step rest ih => exact congrArg (_ :: ·) (ih (step.run cache).cache)

/-- All that can be told of a session after a step. -/
structure View : Type 1 where
  shown : Shown
  reports : List Report
  size : Nat
  isEmpty : Bool
  unresolved : List Int

/-- What an observer sees of a step. -/
def Passed.view (passed : Passed) : View :=
  ⟨passed.shown, passed.reports, passed.cache.size, passed.cache.isEmpty, passed.cache.unresolved⟩

/-- What is left of an answer when private owners are not told from unknown ones. -/
def Shown.disclosed : Shown → Shown
  | .attribution (.disclosed author) => .attribution (.disclosed author)
  | .attribution .withheld | .attribution .unresolved => .attribution .withheld
  | .contains _ => .done
  | shown => shown

/-- What is left of a step when private owners are not told from unknown ones. -/
def Passed.disclosed (passed : Passed) : Shown × List Report :=
  (passed.shown.disclosed, passed.reports.filter fun report => report.missedId?.isNone)

theorem Shown.disclosed_attribution (owner? : Option Owner) :
    Shown.disclosed (.attribution (.ofOwner? owner?)) =
      .attribution ((owner?.bind Owner.disclosed?).elim .withheld .disclosed) := by
  cases owner? with
  | none => rfl
  | some owner =>
      cases hpublic : owner.isPublic <;>
        simp [Attribution.ofOwner?, Owner.attribution, Owner.disclosed?, hpublic, disclosed]

/-- Two steps that answer alike, so far as it can be told, and leave related caches. -/
structure Alike (Related : OwnerCache → OwnerCache → Prop) (isSeen : Report → Bool)
    (tell : Shown → Shown) (x y : Passed) : Prop where
  shown : tell x.shown = tell y.shown
  reports : x.reports.filter isSeen = y.reports.filter isSeen
  cache : Related x.cache y.cache

variable {Related : OwnerCache → OwnerCache → Prop} {isSeen : Report → Bool}
  {tell : Shown → Shown} {a b : OwnerCache}

theorem Alike.of_matching {x y : Extraction σ} (h : Matching Related isSeen x y)
    (finish : σ → σ × Option FormatFault) :
    Alike Related isSeen tell
      ⟨.ofExtraction { x with target := (finish x.target).1 } (finish x.target).2, x.reports,
        x.cache⟩
      ⟨.ofExtraction { y with target := (finish y.target).1 } (finish y.target).2, y.reports,
        y.cache⟩ := by
  refine ⟨?_, h.reports, h.cache⟩
  simp only [Shown.ofExtraction, h.result, h.target, h.events]

section

-- Answers to questions about related caches are told alike.
variable
  (hattribution : ∀ {a b}, Related a b → ∀ id,
    tell (.attribution (a.attribution id)) = tell (.attribution (b.attribution id)))
  (hcontains : ∀ {a b}, Related a b → ∀ id,
    tell (.contains (a.contains id)) = tell (.contains (b.contains id)))

include hattribution hcontains

theorem alike_run (h : Concealing Related isSeen) (step : AnyStep) (hab : Related a b) :
    Alike Related isSeen tell (step.run a) (step.run b) := by
  have hextract : ∀ {σ : Type} (request : Request σ) (feed : RowFeed) (target : σ),
      Matching Related isSeen (Rollup.extract request feed target a)
        (Rollup.extract request feed target b) :=
    fun request feed target => h.extractRows request feed.failure feed.rows 0 target hab
  cases step with
  | extract request feed target => exact .of_matching (hextract request feed target) (·, none)
  | plain step =>
      cases step with
      | insert changeset owner => exact ⟨rfl, rfl, h.insert hab changeset owner⟩
      | insertMany entries =>
          refine ⟨rfl, rfl, ?_⟩
          change Related (a.insertMany entries) (b.insertMany entries)
          -- The first entry leaves related caches, to which the others are added.
          induction entries generalizing a b with
          | nil => exact hab
          | cons entry rest ih =>
              exact ih (h.insert hab entry.1 entry.2) fun request feed target =>
                h.extractRows request feed.failure feed.rows 0 target (h.insert hab _ _)
      | attribution changeset =>
          exact ⟨hattribution hab changeset, h.reports hab changeset, h.remember hab changeset⟩
      | contains changeset => exact ⟨hcontains hab changeset, rfl, hab⟩
      | extract call =>
          simp only [AnyStep.run, Step.run, Call.run]
          cases scaleOf? call.factor? with
          | none => exact ⟨rfl, rfl, hab⟩
          | some scale =>
              cases call.target with
              | recorder limit => exact .of_matching (hextract _ _ _) (·, none)
              | lines sink => exact .of_matching (hextract _ _ _) JsonLines.finish

theorem alike_passed (h : Concealing Related isSeen) (steps : List AnyStep) (hab : Related a b) :
    List.Forall₂ (Alike Related isSeen tell) (passed a steps) (passed b steps) := by
  induction steps generalizing a b with
  | nil => exact .nil
  | cons step rest ih =>
      have hstep := alike_run hattribution hcontains h step hab
      exact .cons hstep (ih hstep.cache)

end

theorem Alike.view_eq {x y : Passed}
    (h : Alike OwnerCache.SameButPrivate (fun _ => true) id x y) : x.view = y.view := by
  have hsize : x.cache.size = y.cache.size :=
    OwnerCache.size_eq_of_contains_eq h.cache.contains_eq
  have hunresolved := OwnerCache.unresolved_eq_of_mem_iff h.cache.missed
  have hreports := h.reports
  rw [List.filter_true, List.filter_true] at hreports
  rw [Passed.view, Passed.view, show x.shown = y.shown from h.shown, hreports, OwnerCache.isEmpty,
    OwnerCache.isEmpty, hsize, hunresolved]

theorem Alike.disclosed_eq {x y : Passed}
    (h : Alike OwnerCache.SameDisclosed (fun report => report.missedId?.isNone) Shown.disclosed
      x y) : x.disclosed = y.disclosed := by
  rw [Passed.disclosed, Passed.disclosed, h.shown, h.reports]

theorem map_eq_of_forall₂ {α β : Type 1} {r : α → α → Prop} {f : α → β} {xs ys : List α}
    (h : List.Forall₂ r xs ys) (hf : ∀ {x y}, r x y → f x = f y) : xs.map f = ys.map f := by
  have hmap : List.Forall₂ Eq (xs.map f) (ys.map f) :=
    List.forall₂_map_left_iff.2 (List.forall₂_map_right_iff.2 (h.imp fun {_ _} => hf))
  rwa [List.forall₂_eq_eq_eq] at hmap

/-- Sessions cannot tell caches apart that differ in who private owners are. If the caches have but
the same public owners, so that one may have no owner where the other has a private one, then what
extractions yield is the same still, and so is all else except for answers that tell private owners
from unknown ones and reports of look-ups in vain. -/
theorem passed_conceals (a b : OwnerCache) (steps : List AnyStep) :
    (a.SameButPrivate b → (passed a steps).map Passed.view = (passed b steps).map Passed.view) ∧
    (a.SameDisclosed b →
      (passed a steps).map Passed.disclosed = (passed b steps).map Passed.disclosed) := by
  refine ⟨?_, ?_⟩
  · intro hab
    have halike : List.Forall₂ (Alike OwnerCache.SameButPrivate (fun _ => true) id)
        (passed a steps) (passed b steps) :=
      alike_passed (fun hab id => congrArg Shown.attribution (hab.attribution_eq id))
        (fun hab id => congrArg Shown.contains (hab.contains_eq id))
        OwnerCache.concealing_sameButPrivate steps hab
    exact map_eq_of_forall₂ halike fun h => h.view_eq
  · intro hab
    have hattribution : ∀ {a b : OwnerCache}, a.SameDisclosed b → ∀ id,
        Shown.disclosed (.attribution (a.attribution id)) =
          Shown.disclosed (.attribution (b.attribution id)) := by
      intro a b hab id
      rw [OwnerCache.attribution, OwnerCache.attribution, Shown.disclosed_attribution,
        Shown.disclosed_attribution, hab id]
    have halike : List.Forall₂
        (Alike OwnerCache.SameDisclosed (fun report => report.missedId?.isNone) Shown.disclosed)
        (passed a steps) (passed b steps) :=
      alike_passed hattribution (fun _ _ => rfl) OwnerCache.concealing_sameDisclosed steps hab
    exact map_eq_of_forall₂ halike fun h => h.disclosed_eq

/-- A private owner is as good as another one, and almost as good as none: with each of them, a way
of the changeset names nobody. -/
theorem passed_conceals_seven :
    let shared : List (Int × Owner) := [(8, ⟨⟨3, "carol"⟩, true⟩)]
    let a := (OwnerCache.ofList shared).insert 7 ⟨⟨1, "alice"⟩, false⟩
    let b := (OwnerCache.ofList shared).insert 7 ⟨⟨2, "bob"⟩, false⟩
    let request : Request Recorder :=
      { kind := .element .way, announce := true, formatter := Recorder.take }
    let feed : RowFeed := { rows := [(MemoryRow.way 1 7).toRow, (MemoryRow.way 2 8).toRow] }
    let steps : List AnyStep := [.plain (.attribution 7), .extract request feed {}]
    a.get? 7 ≠ b.get? 7 ∧
      (passed a steps).map Passed.view = (passed b steps).map Passed.view ∧
      (passed a steps).map Passed.disclosed =
        (passed (.ofList shared) steps).map Passed.disclosed := by
  intro shared a b request feed steps
  have hab : a.SameButPrivate b := by
    refine ⟨?_, ?_⟩
    · intro id
      simp only [a, b, OwnerCache.get?_insert]
      split <;> rfl
    · intro id
      simp only [a, b, OwnerCache.mem_missed_insert]
  have hnone : a.SameDisclosed (.ofList shared) := by
    have ha : a.get? 7 = some ⟨⟨1, "alice"⟩, false⟩ := by simp [a, OwnerCache.get?_insert]
    apply OwnerCache.sameDisclosed_of_absent ha
    · simp [shared, OwnerCache.ofList, OwnerCache.insertMany, OwnerCache.get?_insert]
    · rfl
    · intro other hother
      simp [a, OwnerCache.get?_insert, Ne.symm hother]
  refine ⟨?_, (passed_conceals a b steps).1 hab, (passed_conceals a _ steps).2 hnone⟩
  simp [a, b, OwnerCache.get?_insert]

end Session
end Rollup
