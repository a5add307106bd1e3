import Rollup.Numeral
import Rollup.Kind
import Rollup.Settings.Layer

namespace Rollup.CommandLine

/-- Why arguments ask for no run. -/
inductive ArgumentsFault where
  | help
  /-- Help is due, since there is no command. -/
  | helpWithoutCommand
  | version
  | unknownArgument
  | invalidCommand
  /-- An option has no value, or one that is not among its possible values. -/
  | invalidValue
  /-- An option's value is not of its form. -/
  | malformedValue
  | repeatedOption
  | unneededValue
deriving DecidableEq, Repr

/-- The options of the command. -/
inductive Flag where
  | database
  | kind
  | table
  | scale
  | includeDiscussions
  | asOf
  | logLevel
deriving DecidableEq, Repr

namespace Flag

def all : List Flag := [.database, .kind, .table, .scale, .includeDiscussions, .asOf, .logLevel]

def name : Flag → String
  | .database => "database"
  | .kind => "kind"
  | .table => "table"
  | .scale => "scale"
  | .includeDiscussions => "include-discussions"
  | .asOf => "as-of"
  | .logLevel => "log-level"

/-- The setting that an option chooses. -/
def setting : Flag → String
  | .database => "database"
  | .kind => "kind"
  | .table => "table"
  | .scale => "scale"
  | .includeDiscussions => "include_discussions"
  | .asOf => "as_of"
  | .logLevel => "log_level"

def ofName? (name : String) : Option Flag := all.find? fun flag => flag.name = name

/-- An unsigned number of 32 bits, perhaps with a plus before it; zero may have a minus. -/
def readFactor? (value : String) : Option Nat :=
  let digits := dropSign value.toList
  let n := digitsValue digits
  let negative := value.toList.head? = some '-' ∧ n ≠ 0
  if IsDigits digits ∧ IntegerType.unsigned32.Holds n ∧ ¬negative then some n else none

/-- The value of an option, read as its setting takes it. -/
def read (flag : Flag) (value : String) : Except ArgumentsFault Datum :=
  match flag with
  | .database | .table | .asOf | .logLevel => .ok (.text value)
  | .kind =>
    if (RecordKind.ofPluralName? value).isSome then .ok (.text value) else .error .invalidValue
  | .scale =>
    match readFactor? value with
    | some n => .ok (.integer n)
    | none => .error .malformedValue
  | .includeDiscussions =>
    if value = "true" then .ok (.bool true)
    else if value = "false" then .ok (.bool false)
    else .error .invalidValue

/-- The value of an option that stands without one, if it may. -/
def default? : Flag → Option String
  | .includeDiscussions => some "true"
  | _ => none

end Flag

/-- Adds an option to the settings read so far. It must have a value, come for the first time and
have a value of its kind, in this order. -/
def settle (layer : Layer) (flag : Flag) (value? : Option String) :
    Except ArgumentsFault Layer := do
  match value? <|> flag.default? with
  | none => .error .invalidValue
  | some value =>
    if (layer.get? flag.setting).isSome then .error .repeatedOption
    else .ok (layer ++ [(flag.setting, ← flag.read value)])

/-- An option that is not settled yet, and its value if that came. -/
abbrev Pending := Option (Flag × Option String)

/-- The settings once the option that waits for its end has ended. -/
def settlePending (layer : Layer) : Pending → Except ArgumentsFault Layer
  | some (flag, value?) => settle layer flag value?
  | none => .ok layer

/-- What an argument is by its looks. -/
inductive Shape where
  /-- The marker after which nothing is an option. -/
  | marker
  /-- A name after two dashes, and the value attached to it, if any. -/
  | long (name : String) (value? : Option String)
  /-- A letter after a dash; further letters do not count. -/
  | short (letter : Char)
  | word
deriving DecidableEq, Repr

/-- The shape of an argument by its dashes. -/
def shapeOf (argument : String) : Shape :=
  match argument.toList with
  | ['-', '-'] => .marker
  | '-' :: '-' :: rest =>
    let value? := match rest.dropWhile (· ≠ '=') with
      | _ :: value => some (String.ofList value)
      | [] => none
    .long (String.ofList (rest.takeWhile (· ≠ '='))) value?
  | '-' :: letter :: _ => .short letter
  | _ => .word

def helpAfter (layer : Layer) (pending : Pending) : Except ArgumentsFault Layer := do
  let _ ← settlePending layer pending
  .error .help

/-- Reads the options of a run, one of which may wait for its value or to be settled. It is settled
when the next option begins or the arguments end, so of two faults in values the first one counts;
but an argument that has no place is refused at once. -/
def readOptions (layer : Layer) (pending : Pending) : List String → Except ArgumentsFault Layer
  | [] => settlePending layer pending
  | argument :: rest =>
    match shapeOf argument with
    | .marker => if rest = [] then settlePending layer pending else .error .unknownArgument
    | .short letter => if letter = 'h' then helpAfter layer pending else .error .unknownArgument
    | .long name value? =>
      if name = "help" then
        if value?.isSome then .error .unneededValue else helpAfter layer pending
      else
        match Flag.ofName? name with
        | none => .error .unknownArgument
        | some flag => do
          let layer ← settlePending layer pending
          match value? with
          | some value => readOptions (← settle layer flag (some value)) none rest
          | none => readOptions layer (some (flag, none)) rest
    | .word =>
      match pending with
      | some (flag, none) => readOptions layer (some (flag, some argument)) rest
      | _ => .error .unknownArgument

/-- The commands that help can be asked for. -/
def commands : List String := ["extract", "help"]

/-- Help was asked for on a command, or on the program. -/
def readHelp : List String → ArgumentsFault
  | [] => .help
  | command :: rest => if commands.contains command ∧ rest = [] then .help else .invalidCommand

/-- The settings that the arguments of the program give to a run. -/
def readArguments : List String → Except ArgumentsFault Layer
  | [] => .error .helpWithoutCommand
  | argument :: rest =>
    match shapeOf argument with
    | .marker =>
      match rest with
      | [] => .error .helpWithoutCommand
      | command :: _ =>
        .error (if commands.contains command then .unknownArgument else .invalidCommand)
    | .short letter =>
      .error (if letter = 'h' then .help else if letter = 'V' then .version else .unknownArgument)
    | .long name value? =>
      let asked : Option ArgumentsFault :=
        if name = "help" then some .help else if name = "version" then some .version else none
      match asked with
      | none => .error .unknownArgument
      | some asked => .error (if value?.isSome then .unneededValue else asked)
    | .word =>
      if argument = "extract" then readOptions [] none rest
      else if argument = "help" then .error (readHelp rest)
      else .error .invalidCommand

end Rollup.CommandLine
