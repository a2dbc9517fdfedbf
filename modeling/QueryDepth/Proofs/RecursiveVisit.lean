import QueryDepth.Depth.Walk

/-! The walk with its list of frames, against the rule that it follows: a visit of a node is a visit
of what the node selects, from left to right, and of the definition where a fragment is spread. The
two are the same computation, so they agree on the violations and their order, on the questions
that are put to a predicate, on the events, and on where a failure cuts everything off. -/
namespace QueryDepth.RecursiveVisit

/-- The fragments of a scope that a visit can still enter. -/
def unentered (scope : Scope) (entered : List String) : Nat :=
  (scope.fragments.names.filter (!entered.contains ·)).length

theorem unentered_lt {scope : Scope} {fragment : String} {entered : List String} {definition : Node}
    (known : scope.fragments.find? fragment = some definition) (fresh : fragment ∉ entered) :
    unentered scope (fragment :: entered) < unentered scope entered := by
  have found : Frame.definition? ⟨definition, 0, entered⟩ scope fragment = some definition := by
    simpa [Frame.definition?, fresh] using known
  exact Frame.enterable_length_lt found

mutual

/-- Visits a node that has `depth` counted fields above it, with the fragments entered since the
last of them. The outcome is what lies beyond the limit, from left to right. -/
def visit (scope : Scope) (exclusion : Exclusion) (node : Node) (depth : Nat)
    (entered : List String) : Run (List Node) :=
  if scope.limit < depth then return [node]
  else
    match node.kind with
    | .field _ name => do
      if ← exclusion.excludes name then return []
      match _ : node.selections with
      | none => return []
      | some selections => visitAll scope exclusion selections (depth + 1) []
    | .fragmentSpread fragment =>
      match _ : scope.fragments.find? fragment with
      | none => do
        Run.tell (.unknownFragment fragment scope.operation)
        return []
      | some definition =>
        if _ : fragment ∈ entered then do
          Run.tell (.fragmentCycle fragment scope.operation)
          return []
        else visit scope exclusion definition depth (fragment :: entered)
    | .inlineFragment _ | .fragmentDefinition .. | .operation .. =>
      match _ : node.selections with
      | none => throw .missingSelections
      | some selections => visitAll scope exclusion selections depth entered
    | .name _ | .scalarType _ | .typeSystem => return []
termination_by ((scope.limit + 1 - depth).toNat, unentered scope entered, sizeOf node)
decreasing_by
  · exact .left _ _ (by omega)
  · exact .right _ (.left _ _ (unentered_lt ‹_› ‹_›))
  all_goals exact .right _ (.right _ (Node.sizeOf_selections_lt ‹_›))

def visitAll (scope : Scope) (exclusion : Exclusion) (nodes : List Node) (depth : Nat)
    (entered : List String) : Run (List Node) :=
  match nodes with
  | [] => return []
  | node :: rest => do
    let found ← visit scope exclusion node depth entered
    let others ← visitAll scope exclusion rest depth entered
    return found ++ others
termination_by ((scope.limit + 1 - depth).toNat, unentered scope entered, sizeOf nodes)
decreasing_by
  all_goals exact .right _ (.right _ (by rw [List.cons.sizeOf_spec]; omega))

end

def visitFrames (scope : Scope) (exclusion : Exclusion) : List Frame → Run (List Node)
  | [] => return []
  | frame :: rest => do
    let found ← visit scope exclusion frame.node frame.depth frame.entered
    let others ← visitFrames scope exclusion rest
    return found ++ others

/-- What a walk comes to that has come this far, if what is left of it is visited. -/
def visitRest (scope : Scope) (exclusion : Exclusion) (progress : Progress) : Run (List Node) := do
  let nodes ← visitFrames scope exclusion progress.frames
  return progress.found.reverse ++ nodes

theorem visitFrames_append (scope : Scope) (exclusion : Exclusion) (first rest : List Frame) :
    visitFrames scope exclusion (first ++ rest) = do
      let found ← visitFrames scope exclusion first
      let others ← visitFrames scope exclusion rest
      return found ++ others := by
  induction first with
  | nil => simp [visitFrames]
  | cons frame first ih =>
    simp only [List.cons_append, visitFrames, ih, bind_assoc, pure_bind, List.append_assoc]

/-- What the frames come to is put together in their order. -/
theorem visitFrames_eq_flatten (scope : Scope) (exclusion : Exclusion) (frames : List Frame) :
    visitFrames scope exclusion frames = do
      return (← frames.mapM fun frame =>
        visit scope exclusion frame.node frame.depth frame.entered).flatten := by
  induction frames with
  | nil => rfl
  | cons frame rest ih => rw [Run.mapM_flatten_cons, visitFrames, ih]

theorem visitFrames_map (scope : Scope) (exclusion : Exclusion) (nodes : List Node) (depth : Nat)
    (entered : List String) :
    visitFrames scope exclusion (nodes.map fun node => ⟨node, depth, entered⟩) =
      visitAll scope exclusion nodes depth entered := by
  induction nodes with
  | nil => simp [visitFrames, visitAll]
  | cons node rest ih => simp [visitFrames, visitAll, ih]

/-- A frame beyond the limit is reported and not opened. -/
theorem visit_beyond {scope : Scope} (exclusion : Exclusion) {frame : Frame}
    (beyond : frame.exceeds scope = true) :
    visit scope exclusion frame.node frame.depth frame.entered = return [frame.node] := by
  have exceeded : scope.limit < frame.depth := by simpa [Frame.exceeds] using beyond
  rw [visit, if_pos exceeded]

/-- A frame within the limit is visited by visiting the frames that it leads to. -/
theorem visit_within {scope : Scope} (exclusion : Exclusion) {frame : Frame}
    (within : frame.exceeds scope = false) :
    visit scope exclusion frame.node frame.depth frame.entered = do
      if ← frame.goesOn scope exclusion then visitFrames scope exclusion (frame.next scope)
      else return [] := by
  have room : ¬ scope.limit < frame.depth := by simpa [Frame.exceeds] using within
  obtain ⟨⟨kind, selections, location⟩, depth, entered⟩ := frame
  rw [visit, if_neg room]
  simp only [Frame.goesOn, Frame.next, within]
  cases kind with
  | field responseName name =>
    simp only [bind_assoc, pure_bind]
    refine bind_congr fun excluded => ?_
    cases excluded with
    | true => simp
    | false =>
      cases selections with
      | none => simp [Frame.selected, visitFrames]
      | some selections => simp [Frame.selected, visitFrames_map]
  | fragmentSpread fragment =>
    dsimp only
    split
    · rename_i unknown
      simp [unknown]
    · rename_i definition known
      by_cases again : fragment ∈ entered
      · simp [known, again]
      · simp [known, again, Frame.definition?, visitFrames]
  | inlineFragment | operation | fragmentDefinition =>
    cases selections with
    | none => simp
    | some selections => simp [Frame.selected, visitFrames_map]
  | name | scalarType | typeSystem => simp

/-- What is left to be visited stays the same over a turn. -/
theorem visitRest_turn (scope : Scope) (exclusion : Exclusion) (frame : Frame) (rest : List Frame)
    (found : List Node) :
    visitRest scope exclusion ⟨frame :: rest, found⟩ =
      scope.turn exclusion frame rest found >>= visitRest scope exclusion := by
  cases beyond : frame.exceeds scope with
  | true =>
    simp [visitRest, visitFrames, Scope.turn, visit_beyond exclusion beyond, beyond]
  | false =>
    simp only [visitRest, visitFrames, Scope.turn, visit_within exclusion beyond, beyond,
      Bool.false_eq_true, ↓reduceIte, bind_assoc]
    refine bind_congr fun opens => ?_
    cases opens with
    | true => simp [visitFrames_append, visitRest]
    | false => simp [visitRest]

/-- A walk comes to what a visit of the rest comes to, from wherever it has come. -/
theorem walk_eq_visitRest (scope : Scope) (exclusion : Exclusion) (progress : Progress)
    (trace : Trace) :
    scope.walk exclusion progress trace = (visitRest scope exclusion progress).after trace := by
  induction progress, trace using Scope.walk.induct scope exclusion with
  | case1 trace found => simp [visitRest, visitFrames]
  | case2 trace frame rest found failure left turned =>
    rw [Scope.walk_cons, visitRest_turn, Run.after_bind, turned]
  | case3 trace frame rest found next left turned ih =>
    rw [Scope.walk_cons, visitRest_turn, Run.after_bind, turned]
    exact ih

/-- The violations of a document, found by visiting its operations one after the other. -/
def visited (document : Document) (limit : Int) (exclusion : Exclusion) : Run (List Violation) := do
  let index := document.index
  let found ← index.operations.mapM fun (name, operation) => do
    let nodes ← visit ⟨name, index.fragments, limit⟩ exclusion operation 0 []
    return nodes.map fun node => ⟨name, limit, node⟩
  return found.flatten

/-- An operation is walked just as it is visited. -/
theorem walk_eq_visit (scope : Scope) (exclusion : Exclusion) (operation : Node) :
    ExceptT.mk (scope.walk exclusion ⟨[⟨operation, 0, []⟩], []⟩) =
      visit scope exclusion operation 0 [] := by
  refine Run.ext fun trace => ?_
  rw [Run.after_mk, walk_eq_visitRest]
  simp [visitRest, visitFrames]

theorem violations_eq_visit (scope : Scope) (exclusion : Exclusion) (operation : Node) :
    scope.violations exclusion operation = do
      let nodes ← visit scope exclusion operation 0 []
      return nodes.map fun node => ⟨scope.operation, scope.limit, node⟩ := by
  rw [Scope.violations, walk_eq_visit]

/-- **The walk is the recursive visit.** As computations they are equal: whatever the document, the
limit and the exclusion, and whatever has been left behind before, both come to the same violations
in the same order or to the same failure, and both leave the same questions and events behind. -/
theorem violations_eq_visited (document : Document) (limit : Int) (exclusion : Exclusion) :
    document.violations limit exclusion = visited document limit exclusion := by
  simp only [Document.violations, visited, Scope.violations, walk_eq_visit]

end QueryDepth.RecursiveVisit
