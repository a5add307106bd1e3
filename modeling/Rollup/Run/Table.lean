import Rollup.Extract.Fault
import Rollup.Extract.Stream
import Rollup.Files
import Rollup.Output.JsonLines
import Rollup.Owners
import Rollup.Settings.Sources
import Rollup.Store.Location

namespace Rollup

/-- Why a run ends before it should. -/
inductive RunFault where
  | settings (cause : SettingsFault)
  | source (cause : SourceFault)
  | openDatabase (path : String) (cause : Store.OpenFault)
  | query (table : String) (cause : Store.QueryFault)
  | owners (cause : Owners.OwnersFault)
  | extract (cause : ExtractFault)
  | output (cause : FormatFault)
deriving DecidableEq, Repr

def versionText : String := "mapfeed 0.1.0"

/-- What is said of a fault, where that is a line of its own. -/
def RunFault.message? : RunFault → Option String
  | .settings (.arguments .version) => some versionText
  | .settings (.arguments _) | .settings .malformed => none
  | .settings (.config cause) => some cause.message
  | .source cause => some cause.message
  | .openDatabase path cause =>
    some ("failed to open database " ++ Text.quoted path ++ ": " ++ cause.message path)
  | .query table cause => some ("failed to query table " ++ table ++ ": " ++ cause.message)
  | .owners cause => some cause.message
  | .extract cause => some ("extraction failed: " ++ cause.message)
  | .output cause => some ("failed to write output: " ++ cause.message)

/-- What a run over a table leaves. -/
structure TableRun where
  result : Except RunFault Nat
  /-- What was written to, the buffer before it having been given up. -/
  sink : BoundedSink
  reports : List Report := []

namespace Config

/-- How rows are to be read; a clock stands in for an instant not given. -/
def options (config : Config) (clock : Instant) : Options where
  scale := config.scale
  withDiscussions := config.includeDiscussions
  now := config.asOf.getD clock

def request (config : Config) (clock : Instant) : Request BufferedSink where
  kind := config.kind
  options := config.options clock
  formatter := JsonLines.formatter

/-- What is loaded before the first record is written: the owners and the rows. -/
def load (config : Config) (content : Store.Content) :
    Except RunFault (OwnerCache × List Row) := do
  let changesets ←
    (content.distinct config.kind.changesetColumn config.table).mapError (.query config.table)
  let cache ← (Owners.load content changesets).mapError .owners
  let rows ← (content.rows config.table).mapError (.query config.table)
  .ok (cache, rows)

/-- What is reported of a run in the end. -/
def summary (config : Config) (written : Nat) (cache : OwnerCache) : List Report :=
  let count := cache.unresolved.length
  (if count = 0 then [] else [.unresolvedChangesets config.table count]) ++
    [.extractedTable written config.table]

/-- Ends a run after its extraction: what the buffer holds is brought out in any case, but only
after an extraction without a fault does it matter whether that succeeds. -/
def conclude (config : Config) (extraction : Extraction BufferedSink) : TableRun :=
  match extraction.result with
  | .error fault =>
    { result := .error (.extract fault), sink := extraction.target.close
      reports := extraction.reports }
  | .ok written =>
    match JsonLines.finish extraction.target with
    | (target, some fault) =>
      { result := .error (.output fault), sink := target.close, reports := extraction.reports }
    | (target, none) =>
      { result := .ok written, sink := target.close
        reports := extraction.reports ++ config.summary written extraction.cache }

/-- Loads the owners and the rows of the table and extracts them into a buffer before the sink. -/
def run (config : Config) (content : Store.Content) (clock : Instant) (sink : BoundedSink) :
    TableRun :=
  match config.load content with
  | .error fault => { result := .error fault, sink }
  | .ok (cache, rows) =>
    config.conclude (extract (config.request clock) { rows } { sink } cache)

end Config

end Rollup
