import Rollup.Extract.Stream
import Rollup.Output.JsonLines

/-!
Sessions: steps one after another on one cache of owners. A step that fails does not end its
session.
-/

namespace Rollup

namespace Session

/-- What records are extracted into. -/
inductive Target where
  /-- Records are kept, up to a limit. -/
  | recorder (limit : Option Nat)
  /-- Lines are written to a sink. -/
  | lines (sink : BoundedSink)

/-- An extraction to be made within a session. -/
structure Call where
  kind : RecordKind
  /-- The factor of the scale, if not the standard one. -/
  factor? : Option Nat := none
  withDiscussions : Bool := false
  now : Instant := ⟨0, 0⟩
  announce : Bool := false
  feed : RowFeed
  target : Target

/-- What may be done with a cache. -/
inductive Step where
  | insert (changeset : Int) (owner : Owner)
  | insertMany (entries : List (Int × Owner))
  | attribution (changeset : Int)
  | contains (changeset : Int)
  | extract (call : Call)

/-- What a step answers. -/
inductive Answer where
  | done
  | attribution (attribution : Attribution)
  | contains (found : Bool)
  | recorded (extraction : Extraction Recorder)
  /-- Lines were written, and the sink was flushed with a fault or without. -/
  | lines (extraction : Extraction BoundedSink) (fault : Option FormatFault)
  /-- The scale has the factor zero, so nothing was done. -/
  | zeroScale

/-- The answer of a step, the cache after it, and what it reported. -/
structure Outcome where
  answer : Answer
  cache : OwnerCache
  reports : List Report := []

def scaleOf? : Option Nat → Option Scale
  | none => some .standard
  | some factor => Scale.ofFactor? factor

def Call.options (call : Call) (scale : Scale) : Options :=
  { scale, withDiscussions := call.withDiscussions, now := call.now }

def Call.request {σ : Type} (call : Call) (scale : Scale) (formatter : Formatter σ) : Request σ :=
  { kind := call.kind, options := call.options scale, announce := call.announce, formatter }

/-- Extracts with a cache into a target that is made for the call. -/
def Call.run (call : Call) (cache : OwnerCache) : Outcome :=
  match scaleOf? call.factor? with
  | none => { answer := .zeroScale, cache }
  | some scale =>
    match call.target with
    | .recorder limit =>
      let extraction := extract (call.request scale Recorder.take) call.feed { limit } cache
      { answer := .recorded extraction, cache := extraction.cache, reports := extraction.reports }
    | .lines sink =>
      let extraction := extract (call.request scale JsonLines.formatter) call.feed sink cache
      let (sink, fault) := JsonLines.finish extraction.target
      { answer := .lines { extraction with target := sink } fault, cache := extraction.cache
        reports := extraction.reports }

/-- The outcome of a step on a cache. -/
def Step.run (step : Step) (cache : OwnerCache) : Outcome :=
  match step with
  | .insert changeset owner => { answer := .done, cache := cache.insert changeset owner }
  | .insertMany entries => { answer := .done, cache := cache.insertMany entries }
  | .attribution changeset =>
    { answer := .attribution (cache.attribution changeset), cache := cache.remember changeset
      reports := cache.reports changeset }
  | .contains changeset => { answer := .contains (cache.contains changeset), cache }
  | .extract call => call.run cache

/-- The outcomes of steps, each on the cache that the one before it left. -/
def run (cache : OwnerCache) : List Step → List Outcome
  | [] => []
  | step :: rest =>
    let outcome := step.run cache
    outcome :: run outcome.cache rest

end Session

end Rollup
