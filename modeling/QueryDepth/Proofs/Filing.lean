import Mathlib.Data.List.Basic
import Mathlib.Data.List.Induction
import QueryDepth.Proofs.DocumentNodes

/-! What the index of a document holds, said without the index. Of the definitions that are filed
under one name the last one is in force, and operations stand in the order in which their names
first appear. -/
namespace QueryDepth

/-- What a definition is filed under. Fragments and operations are filed apart, so a fragment may
bear the name of an operation. -/
inductive Slot where
  | fragment (name : String)
  | operation (key : String)
  deriving DecidableEq

namespace Node

/-- What a node is filed under if it is a definition. An anonymous operation is filed under the
empty name. -/
def slot? (node : Node) : Option Slot :=
  match node.kind with
  | .fragmentDefinition name _ => some (.fragment name)
  | .operation _ name => some (.operation (name.getD ""))
  | .field .. | .fragmentSpread _ | .inlineFragment _ | .name _ | .scalarType _ | .typeSystem =>
    none

/-- The key of an operation. -/
def operationKey? (node : Node) : Option String :=
  match node.slot? with
  | some (.operation key) => some key
  | some (.fragment _) | none => none

theorem operationKey?_eq_some {node : Node} {key : String} :
    node.operationKey? = some key ↔ node.slot? = some (.operation key) := by
  unfold operationKey?
  split <;> simp_all

end Node

theorem eraseDups_concat (keys : List String) (key : String) :
    (keys ++ [key]).eraseDups = if key ∈ keys then keys.eraseDups else keys.eraseDups ++ [key] := by
  rw [List.eraseDups_append]
  by_cases earlier : key ∈ keys <;> simp [List.removeAll, List.eraseDups_cons, earlier]

theorem eraseDups_filter (p : String → Bool) (keys : List String) :
    (keys.filter p).eraseDups = keys.eraseDups.filter p := by
  induction keys using List.reverseRecOn with
  | nil => rfl
  | append_singleton keys key ih =>
    rw [List.filter_append, eraseDups_concat]
    by_cases kept : p key = true
    · by_cases earlier : key ∈ keys <;> simp [kept, earlier, eraseDups_concat, ih]
    · by_cases earlier : key ∈ keys <;> simp [kept, earlier, ih]

theorem nodup_eraseDups (keys : List String) : keys.eraseDups.Nodup := by
  induction keys using List.reverseRecOn with
  | nil => exact .nil
  | append_singleton keys key ih =>
    rw [eraseDups_concat]
    split
    · exact ih
    · rename_i fresh
      refine List.nodup_append.mpr ⟨ih, by simp, fun earlier member last added => ?_⟩
      rintro rfl
      exact fresh (List.mem_singleton.mp added ▸ List.mem_eraseDups.mp member)

namespace Document

/-- The definitions that are filed under a slot, in their order. -/
def filedUnder (document : Document) (slot : Slot) : List Node :=
  document.definitions.filter fun definition => definition.slot? = some slot

/-- The definition that counts for a slot: the last one that is filed under it. -/
def inForce? (document : Document) (slot : Slot) : Option Node :=
  (document.filedUnder slot).getLast?

/-- The keys of the operations, in the order of their first occurrence. -/
def operationKeys (document : Document) : List String :=
  (document.definitions.filterMap Node.operationKey?).eraseDups

variable {document : Document} {slot : Slot}

theorem mem_filedUnder {definition : Node} : definition ∈ document.filedUnder slot ↔
    definition ∈ document.definitions ∧ definition.slot? = some slot := by
  simp [filedUnder]

theorem inForce?_isSome : (document.inForce? slot).isSome = true ↔
    ∃ definition ∈ document.definitions, definition.slot? = some slot := by
  constructor
  · intro present
    obtain ⟨definition, last⟩ := Option.isSome_iff_exists.mp present
    exact ⟨definition, mem_filedUnder.mp (List.mem_of_getLast? last)⟩
  · rintro ⟨definition, filed⟩
    exact List.getLast?_isSome.mpr (List.ne_nil_of_mem (mem_filedUnder.mpr filed))

theorem mem_operationKeys {key : String} :
    key ∈ document.operationKeys ↔ (document.inForce? (.operation key)).isSome = true := by
  simp only [operationKeys, List.mem_eraseDups, List.mem_filterMap, Node.operationKey?_eq_some,
    inForce?_isSome]

/-- One more definition at the end is in force for its slot, and for no other. -/
theorem inForce?_concat (definitions : List Node) (definition : Node) :
    inForce? ⟨definitions ++ [definition]⟩ slot =
      if definition.slot? = some slot then some definition else inForce? ⟨definitions⟩ slot := by
  by_cases filed : definition.slot? = some slot <;> simp [inForce?, filedUnder, filed]

/-- The key of one more operation at the end comes last, unless it has occurred before. -/
theorem operationKeys_concat (definitions : List Node) (definition : Node) :
    operationKeys ⟨definitions ++ [definition]⟩ =
      match definition.operationKey? with
      | some key =>
        if key ∈ operationKeys ⟨definitions⟩ then operationKeys ⟨definitions⟩
        else operationKeys ⟨definitions⟩ ++ [key]
      | none => operationKeys ⟨definitions⟩ := by
  cases keyed : definition.operationKey? with
  | none => simp [operationKeys, keyed]
  | some key => simp [operationKeys, keyed, eraseDups_concat]

end Document

namespace NameTable

theorem find?_cons (entry : String × Node) (rest : NameTable) (name : String) :
    find? (entry :: rest) name = if entry.1 = name then some entry.2 else find? rest name := by
  by_cases same : entry.1 = name <;> simp [find?, same]

/-- A node that is filed is found under its name, and what other names find stays as it is. -/
theorem find?_insert (table : NameTable) (name wanted : String) (node : Node) :
    (table.insert name node).find? wanted =
      if name = wanted then some node else table.find? wanted := by
  induction table with
  | nil => rw [insert, find?_cons]
  | cons entry rest ih =>
    rw [insert]
    by_cases replaced : entry.1 = name
    · rw [if_pos replaced, find?_cons, find?_cons, replaced]
      by_cases same : name = wanted <;> simp [same]
    · rw [if_neg replaced, find?_cons, find?_cons, ih]
      by_cases first : entry.1 = wanted
      · have other : name ≠ wanted := fun same => replaced (first.trans same.symm)
        simp [first, other]
      · simp [first]

/-- Where names differ, each one finds the node that is filed under it. -/
theorem find?_of_mem {table : NameTable} (distinct : table.names.Nodup) {entry : String × Node}
    (filed : entry ∈ table) : table.find? entry.1 = some entry.2 := by
  induction table with
  | nil => cases filed
  | cons first rest ih =>
    obtain ⟨fresh, distinct⟩ := List.nodup_cons.mp distinct
    rw [find?_cons]
    rcases List.mem_cons.mp filed with rfl | later
    · rw [if_pos rfl]
    · have other : first.1 ≠ entry.1 := fun same => fresh (same ▸ List.mem_map_of_mem later)
      rw [if_neg other]
      exact ih distinct later

/-- Where names differ, a table is what its names find, in their order. -/
theorem eq_filterMap_find? {table : NameTable} (distinct : table.names.Nodup) :
    table = table.names.filterMap fun name => (table.find? name).map (name, ·) := by
  have each : ∀ entry ∈ table, (table.find? entry.1).map (entry.1, ·) = some (id entry) := by
    intro entry filed
    rw [find?_of_mem distinct filed, Option.map_some, id]
  have kept := List.filterMap_eq_map_iff_forall_eq_some.mpr each
  rw [names, List.filterMap_map]
  exact (kept.trans (List.map_id table)).symm

end NameTable

/-- Filing a definition goes by its slot alone. -/
theorem DocumentIndex.add_eq (index : DocumentIndex) (definition : Node) :
    index.add definition =
      match definition.slot? with
      | some (.fragment name) =>
        { index with fragments := index.fragments.insert name definition }
      | some (.operation key) =>
        { index with operations := index.operations.insert key definition }
      | none => index := by
  obtain ⟨kind, selections, location⟩ := definition
  cases kind <;> rfl

namespace Document

theorem index_concat (definitions : List Node) (definition : Node) :
    index ⟨definitions ++ [definition]⟩ = (index ⟨definitions⟩).add definition := by
  simp [index]

theorem find?_fragments (document : Document) (name : String) :
    document.index.fragments.find? name = document.inForce? (.fragment name) := by
  obtain ⟨definitions⟩ := document
  induction definitions using List.reverseRecOn with
  | nil => rfl
  | append_singleton definitions definition ih =>
    rw [index_concat, inForce?_concat, ← ih, DocumentIndex.add_eq]
    rcases filed : definition.slot? with _ | name | key <;> simp [NameTable.find?_insert]

theorem find?_operations (document : Document) (key : String) :
    document.index.operations.find? key = document.inForce? (.operation key) := by
  obtain ⟨definitions⟩ := document
  induction definitions using List.reverseRecOn with
  | nil => rfl
  | append_singleton definitions definition ih =>
    rw [index_concat, inForce?_concat, ← ih, DocumentIndex.add_eq]
    rcases filed : definition.slot? with _ | name | key <;> simp [NameTable.find?_insert]

/-- Operations stand in the order in which their keys first occur. -/
theorem names_operations (document : Document) :
    document.index.operations.names = document.operationKeys := by
  obtain ⟨definitions⟩ := document
  induction definitions using List.reverseRecOn with
  | nil => rfl
  | append_singleton definitions definition ih =>
    rw [index_concat, operationKeys_concat, ← ih, DocumentIndex.add_eq]
    rcases filed : definition.slot? with _ | name | key
    · simp [Node.operationKey?, filed]
    · simp [Node.operationKey?, filed]
    · simp [Node.operationKey?, filed, NameTable.names_insert]

/-! Where the definitions are replaced one by one and stay filed under the same names, the index is
replaced likewise. -/
section Replaced

variable {replace : Node → Node} (keeps : ∀ node : Node, (replace node).slot? = node.slot?)
include keeps

theorem inForce?_map (document : Document) (slot : Slot) :
    inForce? ⟨document.definitions.map replace⟩ slot = (document.inForce? slot).map replace := by
  have same : ((fun definition : Node => decide (definition.slot? = some slot)) ∘ replace) =
      fun definition => decide (definition.slot? = some slot) := by
    funext definition
    simp only [Function.comp, keeps]
  rw [inForce?, filedUnder, List.filter_map, same, List.getLast?_map]
  rfl

theorem find?_fragments_map (document : Document) (fragment : String) :
    (index ⟨document.definitions.map replace⟩).fragments.find? fragment =
      (document.index.fragments.find? fragment).map replace := by
  rw [find?_fragments, find?_fragments, inForce?_map keeps]

theorem operationKeys_map (document : Document) :
    operationKeys ⟨document.definitions.map replace⟩ = document.operationKeys := by
  have same : Node.operationKey? ∘ replace = Node.operationKey? := by
    funext definition
    simp only [Function.comp, Node.operationKey?, keeps]
  rw [operationKeys, List.filterMap_map, same]
  rfl

theorem operations_map (document : Document) :
    (index ⟨document.definitions.map replace⟩).operations =
      document.index.operations.map fun entry => (entry.1, replace entry.2) := by
  rw [NameTable.eq_filterMap_find? (index_files _).distinct,
    NameTable.eq_filterMap_find? document.index_files.distinct, List.map_filterMap]
  simp only [names_operations, find?_operations, operationKeys_map keeps, inForce?_map keeps,
    Option.map_map]
  rfl

end Replaced

end Document

end QueryDepth
