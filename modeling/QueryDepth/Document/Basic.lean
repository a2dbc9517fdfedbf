/-! Documents as trees of nodes. A node says what it stands for, which nodes it selects and where
its text begins. Trees may also be built by hand, so any kind of node may stand anywhere, selection
sets may be missing, and locations may be unknown. -/
namespace QueryDepth

/-- A place in a text. Lines and columns count from one, columns in code points. -/
structure Location where
  line : Nat
  column : Nat
  deriving DecidableEq, Repr

namespace Location

def start : Location := ⟨1, 1⟩

def right (place : Location) (count : Nat) : Location := ⟨place.line, place.column + count⟩

def nextLine (place : Location) : Location := ⟨place.line + 1, 1⟩

/-- A place as it is printed in front of a message. -/
def render (place : Location) : String := s!"{place.line}:{place.column}"

end Location

/-- The three kinds of operation. They select fields alike. -/
inductive OperationType where
  | query
  | mutation
  | subscription
  deriving DecidableEq, Repr

namespace OperationType

def keyword : OperationType → String
  | query => "query"
  | mutation => "mutation"
  | subscription => "subscription"

def ofKeyword? (word : String) : Option OperationType :=
  [query, mutation, subscription].find? (·.keyword == word)

end OperationType

/-- What a node stands for, apart from the nodes it selects. -/
inductive NodeKind where
  /-- A field, perhaps answered under another name. -/
  | field (responseName : Option String) (name : String)
  /-- The use of a fragment by name. -/
  | fragmentSpread (name : String)
  /-- Selections that apply to one type, written in place. -/
  | inlineFragment (typeCondition : Option String)
  /-- An operation. An absent name is an anonymous operation. -/
  | operation (type : OperationType) (name : Option String)
  /-- Selections that spreads use by name. -/
  | fragmentDefinition (name : String) (typeCondition : String)
  /-- A name standing by itself. -/
  | name (text : String)
  /-- The definition of a scalar type. -/
  | scalarType (name : String)
  /-- Any other definition or extension of the type system. -/
  | typeSystem
  deriving DecidableEq, Repr

/-- A node of a document. `selections` is absent where nothing is selected at all, and empty where
an empty selection set is present. -/
structure Node where
  kind : NodeKind
  selections : Option (List Node)
  location : Option Location
  deriving BEq, Repr

namespace Node

/-- The name that a node bears. A field bears its own name, never the one it is answered under. -/
def name? (node : Node) : Option String :=
  match node.kind with
  | .field _ name => some name
  | .fragmentSpread name => some name
  | .fragmentDefinition name _ => some name
  | .operation _ name => name
  | .scalarType name => some name
  | .inlineFragment _ | .name _ | .typeSystem => none

theorem sizeOf_selections_lt {node : Node} {selections : List Node}
    (opened : node.selections = some selections) : sizeOf selections < sizeOf node := by
  obtain ⟨kind, found, location⟩ := node
  simp only at opened
  subst opened
  simp
  omega

theorem sizeOf_lt_of_selected {node child : Node} {selections : List Node}
    (opened : node.selections = some selections) (member : child ∈ selections) :
    sizeOf child < sizeOf node :=
  Nat.lt_trans (List.sizeOf_lt_of_mem member) (sizeOf_selections_lt opened)

end Node

structure Document where
  definitions : List Node
  deriving BEq, Repr

end QueryDepth
