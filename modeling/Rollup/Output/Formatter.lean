import Rollup.Record

namespace Rollup

/-- Why a record was not written. -/
inductive FormatFault where
  /-- Writing it failed. -/
  | write (cause : String)
  /-- It has no encoding; the kind of the record is told. -/
  | encode (kind cause : String)
deriving DecidableEq, Repr

def FormatFault.message : FormatFault → String
  | .write cause => s!"failed to write record: {cause}"
  | .encode kind cause => s!"failed to encode {kind} record: {cause}"

/-- Takes a record into a state: the state after it, and the fault if it was not taken. -/
abbrev Formatter (σ : Type) := σ → Record → σ × Option FormatFault

/-- Keeps the records it takes, the last first, and takes no more than its limit. -/
structure Recorder where
  taken : List Record := []
  limit : Option Nat := none

namespace Recorder

/-- Whether a recorder has taken as many records as it may. -/
def isFull (recorder : Recorder) : Bool :=
  match recorder.limit with
  | some limit => limit ≤ recorder.taken.length
  | none => false

/-- Takes a record unless the recorder is full. -/
def take : Formatter Recorder := fun recorder record =>
  if recorder.isFull then (recorder, some (.write "write limit reached"))
  else ({ recorder with taken := record :: recorder.taken }, none)

/-- The records taken, in the order in which they came. -/
def records (recorder : Recorder) : List Record := recorder.taken.reverse

end Recorder

/-- Something that bytes are written to. Each operation gives the sink after it and the cause for
which it failed, if it did. -/
class Sink (σ : Type) where
  write : σ → ByteArray → σ × Option String
  flush : σ → σ × Option String

/-- A sink that takes all bytes, or as many as it has room for. -/
structure BoundedSink where
  taken : ByteArray := .empty
  /-- How many more bytes it takes, if not all. -/
  room : Option Nat := none
  flushFails : Bool := false

namespace BoundedSink

/-- Takes what it has room for, and fails if that is not all. -/
def write (sink : BoundedSink) (bytes : ByteArray) : BoundedSink × Option String :=
  match sink.room with
  | none => ({ sink with taken := sink.taken ++ bytes }, none)
  | some room =>
    ({ sink with taken := sink.taken ++ bytes.extract 0 room, room := some (room - bytes.size) },
      if bytes.size ≤ room then none else some "sink is full")

/-- Nothing is held back, so a flush changes nothing; but it may fail. -/
def flush (sink : BoundedSink) : BoundedSink × Option String :=
  (sink, if sink.flushFails then some "flush failed" else none)

instance : Sink BoundedSink := ⟨write, flush⟩

end BoundedSink

/-- A sink behind a buffer. -/
structure BufferedSink where
  sink : BoundedSink
  held : ByteArray := .empty

namespace BufferedSink

/-- How many bytes a buffer may hold. -/
def capacity : Nat := 8192

/-- Hands on what the buffer holds; what the sink does not take stays in it. -/
def release (buffered : BufferedSink) : BufferedSink × Option String :=
  let (sink, cause) := buffered.sink.write buffered.held
  let sent := sink.taken.size - buffered.sink.taken.size
  (⟨sink, buffered.held.extract sent buffered.held.size⟩, cause)

/-- Puts bytes into the buffer, or past it if they would fill it by themselves. -/
def store (buffered : BufferedSink) (bytes : ByteArray) : BufferedSink × Option String :=
  if capacity ≤ bytes.size then
    let (sink, cause) := buffered.sink.write bytes
    ({ buffered with sink }, cause)
  else ({ buffered with held := buffered.held ++ bytes }, none)

/-- Takes bytes, handing on what the buffer holds first if they do not fit beside it. -/
def write (buffered : BufferedSink) (bytes : ByteArray) : BufferedSink × Option String :=
  if buffered.held.size + bytes.size ≤ capacity then buffered.store bytes
  else
    match buffered.release with
    | (buffered, none) => buffered.store bytes
    | failed => failed

/-- Hands on what the buffer holds and has the sink do the same. -/
def flush (buffered : BufferedSink) : BufferedSink × Option String :=
  match buffered.release with
  | (buffered, none) =>
    let (sink, cause) := buffered.sink.flush
    ({ buffered with sink }, cause)
  | failed => failed

instance : Sink BufferedSink := ⟨write, flush⟩

/-- The sink once the buffer is given up, which hands on what it still holds. -/
def close (buffered : BufferedSink) : BoundedSink := buffered.release.1.sink

end BufferedSink

end Rollup
