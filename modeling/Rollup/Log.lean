namespace Rollup

/-- How urgent a report is, the most urgent first. -/
inductive Severity where
  | error
  | warn
  | info
  | debug
  | trace
deriving DecidableEq, Repr

namespace Severity

def name : Severity → String
  | .error => "ERROR"
  | .warn => "WARN"
  | .info => "INFO"
  | .debug => "DEBUG"
  | .trace => "TRACE"

/-- Urgency as a number, the most urgent being 1. -/
def rank : Severity → Nat
  | .error => 1
  | .warn => 2
  | .info => 3
  | .debug => 4
  | .trace => 5

end Severity

/-- Which reports are wanted: none, or those at least as urgent as a severity. -/
inductive Verbosity where
  | off
  | upTo (severity : Severity)
deriving DecidableEq, Repr

namespace Verbosity

/-- The name of a verbosity, which is that of the least severe reports it wants. -/
def name : Verbosity → String
  | .off => "OFF"
  | .upTo severity => severity.name

/-- All verbosities, the quietest first. -/
def all : List Verbosity :=
  [.off, .upTo .error, .upTo .warn, .upTo .info, .upTo .debug, .upTo .trace]

/-- The verbosity with this name in any case of letters. -/
def read? (text : String) : Option Verbosity :=
  let upper := text.toUpper
  all.find? fun verbosity => upper = verbosity.name

/-- Whether reports of some severity are wanted. -/
def wants : Verbosity → Severity → Bool
  | .off, _ => false
  | .upTo least, severity => severity.rank ≤ least.rank

end Verbosity

/-- What is reported. -/
inductive Report where
  /-- A changeset whose owner is not known was looked up for the first time. -/
  | unresolvedChangeset (id : Int)
  | extractedRows (count : Nat) (kind : String)
  /-- A run over a table met this many changesets without a known owner. -/
  | unresolvedChangesets (table : String) (count : Nat)
  | extractedTable (count : Nat) (table : String)
deriving DecidableEq, Repr

namespace Report

def severity : Report → Severity
  | .unresolvedChangeset _ => .warn
  | .extractedRows .. => .debug
  | .unresolvedChangesets .. => .warn
  | .extractedTable .. => .info

def message : Report → String
  | .unresolvedChangeset id =>
    s!"Unresolved changeset: id={id} (not prefetched, attribution suppressed)"
  | .extractedRows count kind => s!"Extracted {count} {kind} rows"
  | .unresolvedChangesets table count =>
    s!"Unresolved changesets during extraction: table={table} count={count} " ++
      "(attribution suppressed)"
  | .extractedTable count table => s!"Extracted {count} rows from {table}"

end Report

end Rollup
