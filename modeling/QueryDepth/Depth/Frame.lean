import QueryDepth.Document.Index

/-! Nodes still to be visited, each with its depth and the fragments entered on the way. A frame
leads to finitely many others, even where fragments spread one another in a circle: each step
comes closer to the limit, enters one more fragment, or goes to a smaller node. -/
namespace QueryDepth

/-- A node to be visited. `depth` is the number of counted fields above it, and `entered` holds the
fragments entered since the last of them. -/
structure Frame where
  node : Node
  depth : Nat
  entered : List String

/-- What stays the same during the walk of one operation. -/
structure Scope where
  operation : String
  fragments : NameTable
  limit : Int

namespace Frame

def exceeds (frame : Frame) (scope : Scope) : Bool := scope.limit < frame.depth

/-- The nodes selected by the node of a frame. -/
def selected (frame : Frame) : List Node := frame.node.selections.getD []

/-- The fragment definition that the walk goes on with at a spread: one that is known and not
entered yet. -/
def definition? (frame : Frame) (scope : Scope) (fragment : String) : Option Node :=
  if frame.entered.contains fragment then none else scope.fragments.find? fragment

/-- The frames that a frame within the limit leads to, if nothing is left out. -/
def next (frame : Frame) (scope : Scope) : List Frame :=
  if frame.exceeds scope then []
  else match frame.node.kind with
    | .field .. => frame.selected.map fun child => ⟨child, frame.depth + 1, []⟩
    | .fragmentSpread fragment =>
      (frame.definition? scope fragment).toList.map fun definition =>
        ⟨definition, frame.depth, fragment :: frame.entered⟩
    | .inlineFragment _ | .fragmentDefinition .. | .operation .. =>
      frame.selected.map fun child => ⟨child, frame.depth, frame.entered⟩
    | .name _ | .scalarType _ | .typeSystem => []

/-- The fragments that can still be entered. -/
def enterable (frame : Frame) (scope : Scope) : List String :=
  scope.fragments.names.filter (!frame.entered.contains ·)

/-- How far a frame may still lead: the depth that is left, the fragments that can still be
entered, and the size of the node, the first being the most important. -/
noncomputable def rank (frame : Frame) (scope : Scope) : Nat × Nat × Nat :=
  ((scope.limit + 1 - frame.depth).toNat, (frame.enterable scope).length, sizeOf frame.node)

def RankLt : Nat × Nat × Nat → Nat × Nat × Nat → Prop :=
  Prod.Lex (· < ·) (Prod.Lex (· < ·) (· < ·))

theorem enterable_length_lt {frame : Frame} {scope : Scope} {fragment : String} {definition : Node}
    (found : frame.definition? scope fragment = some definition) :
    (enterable ⟨definition, frame.depth, fragment :: frame.entered⟩ scope).length <
      (frame.enterable scope).length := by
  simp only [definition?] at found
  split at found
  · contradiction
  · rename_i fresh
    have known := NameTable.mem_names_of_find? found
    have split :
        enterable ⟨definition, frame.depth, fragment :: frame.entered⟩ scope =
          (frame.enterable scope).filter (· != fragment) := by
      simp only [enterable, List.filter_filter]
      congr 1
      funext name
      by_cases same : name = fragment <;> simp [same]
    rw [split]
    refine List.length_filter_lt_length_iff_exists.mpr ⟨fragment, ?_, by simp⟩
    exact List.mem_filter.mpr ⟨known, by simpa using fresh⟩

theorem sizeOf_lt_of_mem_selected {frame : Frame} {child : Node}
    (member : child ∈ frame.selected) : sizeOf child < sizeOf frame.node := by
  simp only [selected] at member
  cases opened : frame.node.selections with
  | none => simp [opened] at member
  | some selections =>
    rw [opened, Option.getD_some] at member
    exact Node.sizeOf_lt_of_selected opened member

/-- What a frame leads to has a lower rank. -/
theorem rank_lt_of_mem_next {frame child : Frame} {scope : Scope}
    (member : child ∈ frame.next scope) : RankLt (child.rank scope) (frame.rank scope) := by
  simp only [next] at member
  split at member
  · contradiction
  · rename_i within
    have room : (frame.depth : Int) ≤ scope.limit := by
      simp only [exceeds, decide_eq_true_eq] at within
      omega
    split at member
    · obtain ⟨node, _, rfl⟩ := List.mem_map.mp member
      exact .left _ _ (by simp only; omega)
    · obtain ⟨definition, found, rfl⟩ := List.mem_map.mp member
      exact .right _ (.left _ _ (enterable_length_lt (Option.mem_toList.mp found)))
    · obtain ⟨node, selected, rfl⟩ := List.mem_map.mp member
      exact .right _ (.right _ (sizeOf_lt_of_mem_selected selected))
    · obtain ⟨node, selected, rfl⟩ := List.mem_map.mp member
      exact .right _ (.right _ (sizeOf_lt_of_mem_selected selected))
    · obtain ⟨node, selected, rfl⟩ := List.mem_map.mp member
      exact .right _ (.right _ (sizeOf_lt_of_mem_selected selected))
    all_goals contradiction

/-- The number of frames that are visited from a frame on, itself included, if nothing is left
out. -/
def cost (scope : Scope) (frame : Frame) : Nat :=
  (frame.next scope).attach.foldr (fun child total => cost scope child.val + total) 0 + 1
termination_by frame.rank scope
decreasing_by exact rank_lt_of_mem_next child.property

/-- The number of frames that are visited from several frames on, if nothing is left out. -/
def totalCost (scope : Scope) (frames : List Frame) : Nat :=
  frames.foldr (fun frame total => cost scope frame + total) 0

@[simp] theorem totalCost_nil (scope : Scope) : totalCost scope [] = 0 := rfl

@[simp] theorem totalCost_cons (scope : Scope) (frame : Frame) (rest : List Frame) :
    totalCost scope (frame :: rest) = cost scope frame + totalCost scope rest := rfl

theorem totalCost_append (scope : Scope) (first rest : List Frame) :
    totalCost scope (first ++ rest) = totalCost scope first + totalCost scope rest := by
  induction first with
  | nil => simp
  | cons frame first ih => rw [List.cons_append, totalCost_cons, totalCost_cons, ih, Nat.add_assoc]

theorem cost_eq (scope : Scope) (frame : Frame) :
    cost scope frame = totalCost scope (frame.next scope) + 1 := by
  rw [cost, totalCost, List.foldr_attach (f := fun child total => cost scope child + total)]

theorem totalCost_next_lt (scope : Scope) (frame : Frame) :
    totalCost scope (frame.next scope) < cost scope frame := by
  rw [cost_eq]
  exact Nat.lt_succ_self _

theorem totalCost_lt_cons (scope : Scope) (frame : Frame) (rest : List Frame) :
    totalCost scope rest < totalCost scope (frame :: rest) := by
  have costs := totalCost_next_lt scope frame
  rw [totalCost_cons]
  omega

end Frame

end QueryDepth
