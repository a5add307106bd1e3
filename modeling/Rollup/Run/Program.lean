import Rollup.Run.Table
import Rollup.Store.Opening

namespace Rollup

/-- What a run finds around it: files, variables and a clock. -/
structure Surroundings (m : Type → Type) extends Sources m where
  clock : m Instant

/-- What a run leaves. -/
structure Run extends TableRun where
  /-- The configuration, if there was one and it led to a file. -/
  config? : Option Config := none

namespace Surroundings

/-- The configuration that arguments make, which must lead to a file. -/
def resolve {m : Type → Type} [Monad m] (surroundings : Surroundings m) (arguments : List String) :
    ExceptT RunFault m Config := do
  match ← (surroundings.configure arguments).run with
  | .error fault => throw (.settings fault)
  | .ok config =>
    match ← (surroundings.files.requireFile "database" config.database).run with
    | .error fault => throw (.source fault)
    | .ok () => return config

/-- Opens the database of a configuration and runs over its table. -/
def runTable {m : Type → Type} [Monad m] (surroundings : Surroundings m) (config : Config)
    (sink : BoundedSink) : m TableRun := do
  match ← (Store.openDatabase surroundings.files config.database).run with
  | .error fault => return { result := .error (.openDatabase config.database fault), sink }
  | .ok content => return config.run content (← surroundings.clock) sink

/-- Runs over the table that the settings choose. -/
def run {m : Type → Type} [Monad m] (surroundings : Surroundings m) (arguments : List String)
    (sink : BoundedSink) : m Run := do
  match ← (surroundings.resolve arguments).run with
  | .error fault => return { result := .error fault, sink }
  | .ok config =>
    return { toTableRun := ← surroundings.runTable config sink, config? := some config }

end Surroundings

/-- What a process leaves: its exit code, its output, its reports and a last complaint. -/
structure ProcessEnd where
  exitCode : Nat
  output : ByteArray
  reports : List Report
  complaint? : Option String

/-- The reports of a run that its configuration wants. -/
def Run.wantedReports (run : Run) : List Report :=
  match run.config? with
  | some config => run.reports.filter fun report => config.verbosity.wants report.severity
  | none => []

/-- A line without the carriage return that it may end with. -/
def dropReturn (line : String) : String :=
  if line.toList.getLast? = some '\r' then String.ofList line.toList.dropLast else line

/-- The only line of a text that is not empty. -/
def onlyLine? (text : String) : Option String :=
  match ((text.splitOn "\n").map dropReturn).filter (· ≠ "") with
  | [line] => some line
  | _ => none

/-- How the process ends after a run. -/
def Run.processEnd (run : Run) : ProcessEnd :=
  let (exitCode, complaint?) : Nat × Option String :=
    match run.result with
    | .ok _ => (0, none)
    | .error fault => (1, fault.message?.map fun message => "mapfeed: " ++ message)
  { exitCode, complaint?, output := run.sink.taken, reports := run.wantedReports }

end Rollup
