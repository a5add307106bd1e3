import Std.Time.DateTime.Timestamp
import Rollup.Json.Basic
import Rollup.Run.Program

namespace Rollup.Main

/-- The system's code for a directory where a file was wanted. -/
def directoryCode : UInt32 := 21

def look (place : Place) : IO (Option Entry) := do
  match ← (IO.FS.readBinFile ("/" ++ "/".intercalate place)).toBaseIO with
  | .ok bytes => return some (.file (.bytes bytes))
  | .error (.inappropriateType _ code _) =>
    return if code = directoryCode then some .directory else none
  | .error _ => return none

/-- The variables of the process. Bytes in them that are no text are marked as such. -/
def environment : IO (List (String × String)) := do
  let bytes ← IO.FS.readBinFile "/proc/self/environ"
  let entries := (Text.decodeWithMarks bytes).splitOn "\x00"
  return entries.filterMap fun entry =>
    match entry.splitOn "=" with
    | name :: value :: rest => some (name, "=".intercalate (value :: rest))
    | _ => none

def clock : IO Instant := do
  let now ← Std.Time.Timestamp.now
  let nanos := now.toNanosecondsSinceUnixEpoch.val
  return ⟨nanos / 1000000000, (nanos % 1000000000).toNat⟩

/-- The files, the variables and the clock of the system. -/
def surroundings : IO (Surroundings IO) := do
  let workingDirectory := Path.components (toString (← IO.currentDir))
  return { files := { look, workingDirectory }, environment := ← environment, clock }

/-- A report as a line of the log. -/
def logLine (report : Report) : String :=
  (Json.object [("level", .string report.severity.name),
    ("message", .string report.message)]).render

def usage : String :=
  "usage: mapfeed extract [--database PATH] [--kind nodes|ways|relations|changesets]\n" ++
  "    [--table NAME] [--scale FACTOR] [--include-discussions [BOOL]] [--as-of TIMESTAMP]\n" ++
  "    [--log-level LEVEL]"

end Rollup.Main

open Rollup in

/-- Runs the program over its arguments, prints what the run leaves and ends with its exit code. -/
def main (arguments : List String) : IO UInt32 := do
  let run ← (← Rollup.Main.surroundings).run arguments {}
  let ended := run.processEnd
  let output ← IO.getStdout
  output.write ended.output
  output.flush
  for report in ended.reports do
    IO.eprintln (Rollup.Main.logLine report)
  match run.result, ended.complaint? with
  | .error _, some complaint => IO.eprintln complaint
  | .error _, none => IO.eprintln Rollup.Main.usage
  | .ok _, _ => pure ()
  return ended.exitCode.toUInt32
