namespace Rollup

/-- A value as a source of settings gives it. -/
inductive Datum where
  /-- Nothing, said explicitly. -/
  | null
  | bool (b : Bool)
  | integer (n : Int)
  | text (text : String)
  /-- A number with a fraction, or a date: no setting takes one. -/
  | other
  | list (items : List Datum)
  | table (entries : List (String × Datum))
deriving Inhabited

/-- Values under names. Under one name the first value counts. -/
abbrev Entries (α : Type) := List (String × α)

namespace Entries

def get? {α : Type} (entries : Entries α) (name : String) : Option α := entries.lookup name

/-- The entries with a value under a name, in place of the one that is there. -/
def put {α : Type} (entries : Entries α) (name : String) (value : α) : Entries α :=
  match entries with
  | [] => [(name, value)]
  | entry :: rest => if entry.1 = name then (name, value) :: rest else entry :: put rest name value

end Entries

/-- What one source says of the settings: values of any type under names. -/
abbrev Layer := Entries Datum

mutual

/-- A value with a later one laid over it. -/
def Datum.overlay (datum : Datum) : Datum → Datum
  | .table later =>
    match datum with
    | .table entries => .table (Layer.overlay entries later)
    | _ => .table later
  | later => later

/-- The layer with the entries of a later one laid over its own. -/
def Layer.overlay (layer : Layer) : List (String × Datum) → Layer
  | [] => layer
  | (name, later) :: rest =>
    let merged :=
      match layer.get? name with
      | some datum => datum.overlay later
      | none => later
    Layer.overlay (layer.put name merged) rest

end

/-- Layers merged in their order. A later layer replaces what an earlier one says under the same
name, except that tables are merged entry by entry. -/
def Layer.merge (layers : List Layer) : Layer := layers.foldl Layer.overlay []

/-- The table with a datum at the end of a path of names; the datum itself if the path is empty. -/
def Datum.nest (path : List String) (datum : Datum) : Datum :=
  path.foldr (fun name inner => .table [(name, inner)]) datum

/-- The value at a path of names through tables. -/
def Datum.find? (datum : Datum) : List String → Option Datum
  | [] => some datum
  | name :: rest =>
    match datum with
    | .table entries => (Entries.get? entries name).bind fun inner => inner.find? rest
    | _ => none

end Rollup
