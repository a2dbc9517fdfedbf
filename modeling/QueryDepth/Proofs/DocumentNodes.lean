import QueryDepth.Document.Index

/-! All nodes of a document, and how its index is related to them. What the index files are
definitions of the document under their own names, and no two operations share a name there. -/
namespace QueryDepth

/-- Whether nodes of a kind have to select something, which the grammar sees to. -/
def NodeKind.mustSelect : NodeKind → Bool
  | .inlineFragment _ | .operation .. | .fragmentDefinition .. => true
  | .field .. | .fragmentSpread _ | .name _ | .scalarType _ | .typeSystem => false

mutual

/-- A node and all nodes below it, in the order of the text. -/
def Node.tree : Node → List Node
  | ⟨kind, none, location⟩ => [⟨kind, none, location⟩]
  | ⟨kind, some selections, location⟩ => ⟨kind, some selections, location⟩ :: treeAll selections

/-- Nodes and all nodes below them, in the order of the text. -/
def treeAll : List Node → List Node
  | [] => []
  | node :: rest => node.tree ++ treeAll rest

end

def Document.nodes (document : Document) : List Node := document.definitions.flatMap Node.tree

/-- A document is complete if all its operations, inline fragments and fragment definitions have
selection sets. -/
def Document.Complete (document : Document) : Prop :=
  ∀ node ∈ document.nodes, node.kind.mustSelect = true → node.selections.isSome = true

instance (document : Document) : Decidable document.Complete :=
  inferInstanceAs (Decidable (∀ node ∈ document.nodes, _))

/-- A node cannot be opened if it has to select something and has no selection set. -/
def Node.Unopenable (node : Node) : Prop :=
  node.kind.mustSelect = true ∧ node.selections = none

theorem Document.Complete.not_unopenable {document : Document} (complete : document.Complete)
    {node : Node} (inside : node ∈ document.nodes) : ¬ node.Unopenable := by
  rintro ⟨selects, missing⟩
  have present := complete node inside selects
  rw [missing] at present
  cases present

theorem Node.self_mem_tree (node : Node) : node ∈ node.tree := by
  obtain ⟨kind, _ | selections, location⟩ := node <;> simp [Node.tree]

theorem mem_treeAll {node : Node} {nodes : List Node} :
    node ∈ treeAll nodes ↔ ∃ top ∈ nodes, node ∈ top.tree := by
  induction nodes with
  | nil => simp [treeAll]
  | cons top rest ih => simp [treeAll, ih]

theorem Node.tree_of_unopened {node : Node} (unopened : node.selections = none) :
    node.tree = [node] := by
  obtain ⟨kind, _, location⟩ := node
  subst unopened
  rfl

theorem Node.mem_tree_of_opened {top node : Node} {selections : List Node}
    (opened : top.selections = some selections) :
    node ∈ top.tree ↔ node = top ∨ ∃ child ∈ selections, node ∈ child.tree := by
  obtain ⟨kind, _, location⟩ := top
  subst opened
  rw [Node.tree, List.mem_cons, mem_treeAll]

theorem Node.selected_mem_tree {top parent child : Node} {selections : List Node}
    (inside : parent ∈ top.tree) (opened : parent.selections = some selections)
    (selected : child ∈ selections) : child ∈ top.tree := by
  rcases below : top.selections with _ | between
  · rw [Node.tree_of_unopened below, List.mem_singleton] at inside
    subst inside
    simp [below] at opened
  · rw [Node.mem_tree_of_opened below] at inside ⊢
    rcases inside with rfl | ⟨next, member, inside⟩
    · obtain rfl : between = selections := Option.some.inj (below.symm.trans opened)
      exact .inr ⟨child, selected, child.self_mem_tree⟩
    · exact .inr ⟨next, member, Node.selected_mem_tree inside opened selected⟩
termination_by sizeOf top
decreasing_by exact Node.sizeOf_lt_of_selected below member

namespace Document

variable {document : Document}

theorem mem_nodes_of_definition {definition : Node} (defined : definition ∈ document.definitions) :
    definition ∈ document.nodes :=
  List.mem_flatMap.mpr ⟨definition, defined, definition.self_mem_tree⟩

theorem mem_nodes_of_selected {parent child : Node} {selections : List Node}
    (inside : parent ∈ document.nodes) (opened : parent.selections = some selections)
    (selected : child ∈ selections) : child ∈ document.nodes := by
  obtain ⟨top, defined, inside⟩ := List.mem_flatMap.mp inside
  exact List.mem_flatMap.mpr ⟨top, defined, Node.selected_mem_tree inside opened selected⟩

end Document

/-- An index files definitions from a list, each under its own name, and operations under names that
differ. -/
structure DocumentIndex.Files (index : DocumentIndex) (definitions : List Node) : Prop where
  fragments : ∀ entry ∈ index.fragments, entry.2 ∈ definitions ∧
    ∃ typeCondition, entry.2.kind = .fragmentDefinition entry.1 typeCondition
  operations : ∀ entry ∈ index.operations, entry.2 ∈ definitions ∧
    ∃ type name, entry.2.kind = .operation type name ∧ entry.1 = name.getD ""
  distinct : index.operations.names.Nodup

namespace DocumentIndex

theorem Files.add {index : DocumentIndex} {definitions : List Node} {definition : Node}
    (files : index.Files definitions) (defined : definition ∈ definitions) :
    (index.add definition).Files definitions := by
  unfold DocumentIndex.add
  split
  · rename_i name typeCondition kind
    refine ⟨fun entry filed => ?_, files.operations, files.distinct⟩
    rcases NameTable.mem_insert filed with rfl | earlier
    · exact ⟨defined, typeCondition, kind⟩
    · exact files.fragments entry earlier
  · rename_i type name kind
    refine ⟨files.fragments, fun entry filed => ?_, ?_⟩
    · rcases NameTable.mem_insert filed with rfl | earlier
      · exact ⟨defined, type, name, kind, rfl⟩
      · exact files.operations entry earlier
    · simp only [NameTable.names_insert]
      split
      · exact files.distinct
      · rename_i fresh
        refine List.nodup_append.mpr ⟨files.distinct, by simp, fun earlier member later added => ?_⟩
        rintro rfl
        exact fresh (List.mem_singleton.mp added ▸ member)
  all_goals exact files

theorem Files.foldl_add {index : DocumentIndex} {definitions added : List Node}
    (files : index.Files definitions) (defined : ∀ definition ∈ added, definition ∈ definitions) :
    (added.foldl .add index).Files definitions := by
  induction added generalizing index with
  | nil => exact files
  | cons definition rest ih =>
    exact ih (files.add (defined definition List.mem_cons_self))
      fun later member => defined later (List.mem_cons_of_mem _ member)

end DocumentIndex

/-- The index of a document files its definitions. -/
theorem Document.index_files (document : Document) : document.index.Files document.definitions :=
  DocumentIndex.Files.foldl_add ⟨by simp, by simp, .nil⟩ fun _ => id

theorem Document.mem_nodes_of_operation {document : Document} {entry : String × Node}
    (indexed : entry ∈ document.index.operations) : entry.2 ∈ document.nodes :=
  mem_nodes_of_definition (document.index_files.operations entry indexed).1

theorem Document.mem_nodes_of_fragment {document : Document} {fragment : String}
    {definition : Node} (known : document.index.fragments.find? fragment = some definition) :
    definition ∈ document.nodes :=
  mem_nodes_of_definition (document.index_files.fragments _ (NameTable.mem_of_find? known)).1

/-- A known fragment is filed as a fragment definition. -/
theorem Document.exists_kind_of_known {document : Document} {fragment : String} {definition : Node}
    (known : document.index.fragments.find? fragment = some definition) :
    ∃ typeCondition, definition.kind = .fragmentDefinition fragment typeCondition :=
  (document.index_files.fragments _ (NameTable.mem_of_find? known)).2

end QueryDepth
