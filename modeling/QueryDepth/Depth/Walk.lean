import QueryDepth.Depth.Frame
import QueryDepth.Depth.Violation
import QueryDepth.Exclusion

/-! The depth of operations. Fields that select something count one each on the way down, and the
first node found beyond the limit is a violation, below which nothing is looked at. Nodes are
visited in the order of the text, with fragments where they are spread. What is still to be
visited is kept on a list, so deep documents do no harm. -/
namespace QueryDepth

namespace Frame

/-- Whether the walk goes on from a node within the limit to what it leads to. -/
def goesOn (frame : Frame) (scope : Scope) (exclusion : Exclusion) : Run Bool := do
  match frame.node.kind with
  | .field _ name => return !(← exclusion.excludes name)
  | .fragmentSpread fragment =>
    if (scope.fragments.find? fragment).isNone then
      Run.tell (.unknownFragment fragment scope.operation)
      return false
    if frame.entered.contains fragment then
      Run.tell (.fragmentCycle fragment scope.operation)
      return false
    return true
  | .inlineFragment _ | .fragmentDefinition .. | .operation .. =>
    if frame.node.selections.isNone then throw .missingSelections
    return true
  | .name _ | .scalarType _ | .typeSystem => return false

end Frame

/-- How far a walk has come: the frames that are still to be visited, the next one first, and the
nodes found beyond the limit so far, the latest one first. -/
structure Progress where
  frames : List Frame
  found : List Node

namespace Scope

/-- One turn of a walk: a frame is visited, while the frames in `rest` wait behind it. -/
def turn (scope : Scope) (exclusion : Exclusion) (frame : Frame) (rest : List Frame)
    (found : List Node) : Run Progress := do
  if frame.exceeds scope then return ⟨rest, frame.node :: found⟩
  if ← frame.goesOn scope exclusion then return ⟨frame.next scope ++ rest, found⟩
  return ⟨rest, found⟩

/-- All that a turn can do, if it comes to an end: it reports the frame, opens it, or drops it. -/
theorem turn_cases {scope : Scope} {exclusion : Exclusion} {frame : Frame} {rest : List Frame}
    {found : List Node} {trace left : Trace} {next : Progress}
    (turned : (scope.turn exclusion frame rest found).after trace = (.ok next, left)) :
    (frame.exceeds scope = true ∧ next = ⟨rest, frame.node :: found⟩ ∧ left = trace) ∨
    (frame.exceeds scope = false ∧ next = ⟨frame.next scope ++ rest, found⟩ ∧
      (frame.goesOn scope exclusion).after trace = (.ok true, left)) ∨
    (frame.exceeds scope = false ∧ next = ⟨rest, found⟩ ∧
      (frame.goesOn scope exclusion).after trace = (.ok false, left)) := by
  cases beyond : frame.exceeds scope with
  | true =>
    simp only [turn, beyond] at turned
    cases turned
    exact .inl ⟨rfl, rfl, rfl⟩
  | false =>
    simp only [turn, beyond, Bool.false_eq_true, ↓reduceIte, Run.after_bind] at turned
    rcases visited : (frame.goesOn scope exclusion).after trace with ⟨failure | opens, after⟩
    · simp only [visited] at turned
      cases turned
    · cases opens <;>
        simp only [visited, Bool.false_eq_true, ↓reduceIte, Run.after_pure] at turned <;>
        cases turned
      · exact .inr (.inr ⟨rfl, rfl, rfl⟩)
      · exact .inr (.inl ⟨rfl, rfl, rfl⟩)

/-- Every turn lowers what is left to be visited. -/
theorem totalCost_turn_lt {scope : Scope} {exclusion : Exclusion} {frame : Frame}
    {rest : List Frame} {found : List Node} {trace left : Trace} {next : Progress}
    (turned : (scope.turn exclusion frame rest found).after trace = (.ok next, left)) :
    Frame.totalCost scope next.frames < Frame.totalCost scope (frame :: rest) := by
  obtain ⟨_, rfl, _⟩ | ⟨_, rfl, _⟩ | ⟨_, rfl, _⟩ := turn_cases turned
  · exact Frame.totalCost_lt_cons scope frame rest
  · rw [Frame.totalCost_append]
    exact Nat.add_lt_add_right (Frame.totalCost_next_lt scope frame) _
  · exact Frame.totalCost_lt_cons scope frame rest

/-- Takes turns until no frame is left or a turn fails. -/
def walk (scope : Scope) (exclusion : Exclusion) (progress : Progress) (trace : Trace) :
    Except Failure (List Node) × Trace :=
  match progress with
  | ⟨[], found⟩ => (.ok found.reverse, trace)
  | ⟨frame :: rest, found⟩ =>
    match _ : (scope.turn exclusion frame rest found).after trace with
    | (.error failure, left) => (.error failure, left)
    | (.ok next, left) => scope.walk exclusion next left
termination_by Frame.totalCost scope progress.frames
decreasing_by exact totalCost_turn_lt ‹_›

@[simp] theorem walk_nil (scope : Scope) (exclusion : Exclusion) (found : List Node)
    (trace : Trace) : scope.walk exclusion ⟨[], found⟩ trace = (.ok found.reverse, trace) := by
  rw [walk]

theorem walk_cons (scope : Scope) (exclusion : Exclusion) (frame : Frame) (rest : List Frame)
    (found : List Node) (trace : Trace) :
    scope.walk exclusion ⟨frame :: rest, found⟩ trace =
      match (scope.turn exclusion frame rest found).after trace with
      | (.error failure, left) => (.error failure, left)
      | (.ok next, left) => scope.walk exclusion next left := by
  rw [walk]
  split <;> simp_all

/-- The violations of one operation, in the order in which they are found. -/
def violations (scope : Scope) (exclusion : Exclusion) (operation : Node) :
    Run (List Violation) := do
  let nodes ← ExceptT.mk (scope.walk exclusion ⟨[⟨operation, 0, []⟩], []⟩)
  return nodes.map fun node => ⟨scope.operation, scope.limit, node⟩

theorem violations_after (scope : Scope) (exclusion : Exclusion) (operation : Node)
    (trace : Trace) : (scope.violations exclusion operation).after trace =
      match scope.walk exclusion ⟨[⟨operation, 0, []⟩], []⟩ trace with
      | (.ok nodes, left) =>
        (.ok (nodes.map fun node => ⟨scope.operation, scope.limit, node⟩), left)
      | (.error failure, left) => (.error failure, left) := by
  simp only [violations, Run.after_bind, Run.after_mk, Run.after_pure]
  rcases scope.walk exclusion ⟨[⟨operation, 0, []⟩], []⟩ trace with ⟨_ | _, _⟩ <;> rfl

end Scope

/-- The violations of all operations of a document, in the order in which their names first
appear. -/
def Document.violations (document : Document) (limit : Int) (exclusion : Exclusion) :
    Run (List Violation) := do
  let index := document.index
  let found ← index.operations.mapM fun (name, operation) =>
    Scope.violations ⟨name, index.fragments, limit⟩ exclusion operation
  return found.flatten

end QueryDepth
