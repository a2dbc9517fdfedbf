import QueryDepth.Document.Basic

/-! The definitions of a document by name. A name keeps the place where it first appeared, and the
last definition that bears it is the one that counts. -/
namespace QueryDepth

/-- Nodes by name, in the order in which the names first appeared. -/
abbrev NameTable := List (String × Node)

namespace NameTable

/-- Files a node under a name, in the place of a node already filed there. -/
def insert (table : NameTable) (name : String) (node : Node) : NameTable :=
  match table with
  | [] => [(name, node)]
  | entry :: rest =>
    if entry.1 = name then (name, node) :: rest else entry :: insert rest name node

def find? (table : NameTable) (name : String) : Option Node :=
  (List.find? (fun entry => entry.1 == name) table).map Prod.snd

def names (table : NameTable) : List String := table.map Prod.fst

theorem mem_of_find? {table : NameTable} {name : String} {node : Node}
    (found : table.find? name = some node) : (name, node) ∈ table := by
  simp only [find?, Option.map_eq_some_iff] at found
  obtain ⟨entry, filed, rfl⟩ := found
  have same : entry.1 = name := by simpa using List.find?_some filed
  exact same ▸ List.mem_of_find?_eq_some filed

theorem mem_names_of_find? {table : NameTable} {name : String} {node : Node}
    (found : table.find? name = some node) : name ∈ table.names :=
  List.mem_map.mpr ⟨(name, node), mem_of_find? found, rfl⟩

/-- What is filed after a node was filed is that node or was filed before. -/
theorem mem_insert {table : NameTable} {name : String} {node : Node} {entry : String × Node}
    (filed : entry ∈ table.insert name node) : entry = (name, node) ∨ entry ∈ table := by
  induction table with
  | nil => exact .inl (List.mem_singleton.mp filed)
  | cons first rest ih =>
    rw [insert] at filed
    split at filed
    · rcases List.mem_cons.mp filed with same | later
      · exact .inl same
      · exact .inr (List.mem_cons_of_mem _ later)
    · rcases List.mem_cons.mp filed with rfl | later
      · exact .inr List.mem_cons_self
      · exact (ih later).imp_right (List.mem_cons_of_mem _)

/-- A name keeps its place, and a new one comes last. -/
theorem names_insert (table : NameTable) (name : String) (node : Node) :
    (table.insert name node).names =
      if name ∈ table.names then table.names else table.names ++ [name] := by
  induction table with
  | nil => rfl
  | cons first rest ih =>
    rw [insert]
    by_cases same : first.1 = name
    · simp [names, same]
    · simp only [if_neg same, names, List.map_cons, List.mem_cons, Ne.symm same, false_or] at ih ⊢
      rw [ih]
      by_cases present : name ∈ rest.map Prod.fst <;> simp [present]

end NameTable

structure DocumentIndex where
  fragments : NameTable := []
  operations : NameTable := []

namespace DocumentIndex

/-- Files one definition. Anonymous operations are filed under the empty name, and what is neither
an operation nor a fragment definition is left out. -/
def add (index : DocumentIndex) (definition : Node) : DocumentIndex :=
  match definition.kind with
  | .fragmentDefinition name _ =>
    { index with fragments := index.fragments.insert name definition }
  | .operation _ name =>
    { index with operations := index.operations.insert (name.getD "") definition }
  | .field .. | .fragmentSpread .. | .inlineFragment .. | .name .. | .scalarType .. | .typeSystem =>
    index

end DocumentIndex

def Document.index (document : Document) : DocumentIndex :=
  document.definitions.foldl .add {}

end QueryDepth
