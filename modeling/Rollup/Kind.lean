namespace Rollup

inductive ElementKind where
  | node
  | way
  | relation
deriving DecidableEq, Repr, Inhabited

namespace ElementKind

def name : ElementKind → String
  | .node => "node"
  | .way => "way"
  | .relation => "relation"

def pluralName (kind : ElementKind) : String := kind.name ++ "s"

def all : List ElementKind := [.node, .way, .relation]

def ofName? (text : String) : Option ElementKind := all.find? fun kind => kind.name = text

/-- The kind with this name in the singular or the plural, in any case of letters. -/
def read? (text : String) : Option ElementKind :=
  let lower := text.toLower
  all.find? fun kind => lower = kind.name ∨ lower = kind.pluralName

def unknownMessage (text : String) : String := "unknown element kind '" ++ text ++ "'"

/-- The kind that a letter stands for. -/
def ofLetter? (c : Char) : Option ElementKind :=
  if c = 'N' ∨ c = 'n' then some .node
  else if c = 'W' ∨ c = 'w' then some .way
  else if c = 'R' ∨ c = 'r' then some .relation
  else none

/-- The kind that a member's type code stands for, by its first character alone. -/
def ofMemberCode? (code : String) : Option ElementKind := code.toList.head?.bind ofLetter?

end ElementKind

/-- The kinds of records: the elements, and the changesets that edited them. -/
inductive RecordKind where
  | element (kind : ElementKind)
  | changeset
deriving DecidableEq, Repr, Inhabited

namespace RecordKind

def name : RecordKind → String
  | .element kind => kind.name
  | .changeset => "changeset"

def pluralName (kind : RecordKind) : String := kind.name ++ "s"

def all : List RecordKind := ElementKind.all.map .element ++ [.changeset]

def ofPluralName? (text : String) : Option RecordKind :=
  all.find? fun kind => kind.pluralName = text

/-- The kind of elements that records of a kind are of, if they are elements. -/
def elementKind? : RecordKind → Option ElementKind
  | .element kind => some kind
  | .changeset => none

/-- The table that records of a kind are in, unless another is named. -/
def defaultTable (kind : RecordKind) : String := kind.pluralName ++ "_rollup"

/-- The column with the changeset of a record. -/
def changesetColumn : RecordKind → String
  | .element _ => "changeset_id"
  | .changeset => "id"

end RecordKind

end Rollup
