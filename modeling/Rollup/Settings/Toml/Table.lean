import Rollup.Settings.Layer

namespace Rollup.Toml

/-- How a table came to be, which tells who may add to it: it is declared at most once, and keys
with points only go on with tables that such keys have made. -/
inductive Origin where
  /-- By a header of its own, or as the file itself. -/
  | declared
  /-- On the way to a table that a header names. -/
  | passed
  /-- On the way to an entry whose key has points. -/
  | dotted
deriving DecidableEq, Repr

/-- What stands under a name of a table. -/
inductive Item where
  /-- A value, to which nothing can be added. -/
  | value (datum : Datum)
  | table (origin : Origin) (entries : List (String × Item))
  /-- A list of tables, of which only the last is still open. -/
  | tables (closed : List Datum) (last : List (String × Item))
deriving Inhabited

mutual

/-- The value that an item comes to once the file has been read. -/
def Item.datum : Item → Datum
  | .value datum => datum
  | .table _ entries => .table (layerOf entries)
  | .tables closed last => .list (closed ++ [.table (layerOf last)])

/-- Entries as they are once nothing more is added to them. -/
def layerOf : List (String × Item) → Layer
  | [] => []
  | (name, item) :: rest => (name, item.datum) :: layerOf rest

end

/-- Edits the table at a path from the table with the given entries. Tables that are not there are
made, and come from what makes them; a key with points does not lead into a declared table. -/
def editAt? (maker : Origin) (edit : Origin → Entries Item → Option (Entries Item))
    (origin : Origin) (entries : Entries Item) : List String → Option (Entries Item)
  | [] => edit origin entries
  | name :: rest =>
    match entries.get? name with
    | none => do
      let inner ← editAt? maker edit maker [] rest
      some (entries.put name (.table maker inner))
    | some (.value _) => none
    | some (.table origin inner) =>
      if maker = .dotted ∧ origin = .declared then none
      else do
        let inner ← editAt? maker edit origin inner rest
        some (entries.put name (.table origin inner))
    | some (.tables closed last) => do
      let last ← editAt? maker edit .declared last rest
      some (entries.put name (.tables closed last))

/-- Adds an entry with a key to a table. A key with points adds to a table that such keys have made,
and a plain key to one that they have not. -/
def insert? (key : List String) (datum : Datum) (origin : Origin) (entries : Entries Item) :
    Option (Entries Item) :=
  match key.getLast? with
  | none => none
  | some name =>
    let path := key.dropLast
    let add := fun origin entries =>
      if (path ≠ [] ↔ origin = .dotted) ∧ (Entries.get? entries name).isNone then
        some (entries ++ [(name, .value datum)])
      else none
    editAt? .dotted add origin entries path

/-- Declares the table with a name. It may have been passed on the way to others, and keeps them. -/
def declare? (name : String) (entries : Entries Item) : Option (Entries Item) :=
  match entries.get? name with
  | none => some (entries.put name (.table .declared []))
  | some (.table .passed inner) => some (entries.put name (.table .declared inner))
  | some _ => none

/-- Opens a further table in the list of tables with a name. -/
def extend? (name : String) (entries : Entries Item) : Option (Entries Item) :=
  match entries.get? name with
  | none => some (entries.put name (.tables [] []))
  | some (.tables closed last) =>
    some (entries.put name (.tables (closed ++ [.table (layerOf last)]) []))
  | some _ => none

/-- Edits what the last name of a header's path stands for. -/
def editHeader? (edit : String → Entries Item → Option (Entries Item)) (path : List String)
    (root : Entries Item) : Option (Entries Item) :=
  match path.getLast? with
  | none => none
  | some name => editAt? .passed (fun _ entries => edit name entries) .declared root path.dropLast

end Rollup.Toml
