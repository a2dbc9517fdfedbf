import Mathlib.Data.List.Nodup
import QueryDepth.Proofs.Descent
import QueryDepth.Proofs.PureExclusion
import QueryDepth.Proofs.RecursiveVisit

/-! What a walk finds if its exclusion decides by the names of fields and no selection set is
missing. It is then a function of the document and the limit, and the frames that it visits follow
the ways down, as far as no fragment is entered again. For other exclusions, what holds of every
question holds of the visit as a whole. -/
namespace QueryDepth

/-- The scope in which an operation of a document is walked. -/
def Document.scope (document : Document) (name : String) (limit : Int) : Scope :=
  ⟨name, document.index.fragments, limit⟩

theorem Document.violations_eq_flatten (document : Document) (limit : Int)
    (exclusion : Exclusion) :
    document.violations limit exclusion = do
      return (← document.index.operations.mapM fun entry =>
        (document.scope entry.1 limit).violations exclusion entry.2).flatten := rfl

/-- The ways down in a scope. -/
def Scope.descent (scope : Scope) (excluded : String → Bool) : Descent :=
  ⟨scope.fragments, excluded⟩

/-- The nodes one step down from a node, in the order of the text. -/
def Descent.targets (descent : Descent) (node : Node) : List Node :=
  match node.kind with
  | .field _ name => if descent.excluded name then [] else node.selections.getD []
  | .fragmentSpread fragment => (descent.fragments.find? fragment).toList
  | .inlineFragment _ | .operation .. | .fragmentDefinition .. => node.selections.getD []
  | .name _ | .scalarType _ | .typeSystem => []

namespace Frame

/-- Whether the walk goes on from a frame within the limit, if fields are left out. -/
def goes (frame : Frame) (scope : Scope) (excluded : String → Bool) : Bool :=
  match frame.node.kind with
  | .field _ name => !excluded name
  | .fragmentSpread fragment =>
    (scope.fragments.find? fragment).isSome && !frame.entered.contains fragment
  | .inlineFragment _ | .operation .. | .fragmentDefinition .. => true
  | .name _ | .scalarType _ | .typeSystem => false

/-- The frames that a frame leads to if fields are left out. -/
def children (frame : Frame) (scope : Scope) (excluded : String → Bool) : List Frame :=
  if frame.goes scope excluded then frame.next scope else []

/-- The frame of a node one step down. -/
def step (frame : Frame) (child : Node) : Frame :=
  match frame.node.kind with
  | .field .. => ⟨child, frame.depth + 1, []⟩
  | .fragmentSpread fragment => ⟨child, frame.depth, fragment :: frame.entered⟩
  | .inlineFragment _ | .operation .. | .fragmentDefinition .. | .name _ | .scalarType _
  | .typeSystem => ⟨child, frame.depth, frame.entered⟩

/-- Whether the node of a frame spreads a fragment that was entered. -/
def Again (frame : Frame) : Prop :=
  ∃ fragment, frame.node.kind = .fragmentSpread fragment ∧ fragment ∈ frame.entered

variable {frame child : Frame} {scope : Scope} {excluded : String → Bool} {node : Node}

theorem mem_next_of_mem_children (member : child ∈ frame.children scope excluded) :
    child ∈ frame.next scope := by
  unfold children at member
  split at member
  · exact member
  · contradiction

@[simp] theorem step_node (frame : Frame) (node : Node) : (frame.step node).node = node := by
  unfold step
  split <;> rfl

/-- A step down leaves the depth as it is, or it makes the depth one more and forgets the fragments
entered so far. -/
theorem step_cases (frame : Frame) (node : Node) :
    (frame.step node).depth = frame.depth ∨
      (frame.step node).depth = frame.depth + 1 ∧ (frame.step node).entered = [] := by
  unfold step
  split
  · exact .inr ⟨rfl, rfl⟩
  all_goals exact .inl rfl

theorem step_counted (node : Node) (counts : (scope.descent excluded).counts frame.node = true) :
    frame.step node = ⟨node, frame.depth + 1, []⟩ := by
  unfold Descent.counts at counts
  unfold step
  split at counts <;> simp_all

theorem step_neutral (leads : (scope.descent excluded).Leads frame.node node)
    (neutral : (scope.descent excluded).counts frame.node = false) :
    (frame.step node).depth = frame.depth := by
  obtain ⟨⟨kind, selections, location⟩, depth, entered⟩ := frame
  cases kind with
  | field responseName name =>
    rw [Descent.leads_iff] at leads
    simp only [Scope.descent, Descent.opens, Descent.counts] at leads neutral
    obtain ⟨kept, _, rfl, _⟩ | ⟨_, spread, _⟩ := leads
    · simp [kept] at neutral
    · cases spread
  | _ => rfl

/-- A frame within the limit leads to the frames one step down, unless it would enter a fragment
again. -/
theorem mem_children (within : frame.exceeds scope = false) :
    child ∈ frame.children scope excluded ↔ ¬ frame.Again ∧
      ∃ node, (scope.descent excluded).Leads frame.node node ∧ child = frame.step node := by
  obtain ⟨⟨kind, selections, location⟩, depth, entered⟩ := frame
  simp only [Descent.leads_iff, Again, children, goes, next, within, step, selected]
  cases kind with
  | field responseName name =>
    cases selections <;>
      simp [Scope.descent, Descent.opens, and_assoc, eq_comm (a := child)]
  | fragmentSpread fragment =>
    cases known : scope.fragments.find? fragment <;> by_cases again : fragment ∈ entered <;>
      simp [Scope.descent, Descent.opens, definition?, known, again, eq_comm (a := child)]
  | inlineFragment | operation | fragmentDefinition =>
    cases selections <;> simp [Scope.descent, Descent.opens, eq_comm (a := child)]
  | name | scalarType | typeSystem => simp [Scope.descent, Descent.opens]

/-- In the order of the text, a frame within the limit leads to the frames one step down. -/
theorem children_eq_map (within : frame.exceeds scope = false) (fresh : ¬ frame.Again) :
    frame.children scope excluded =
      ((scope.descent excluded).targets frame.node).map frame.step := by
  obtain ⟨⟨kind, selections, location⟩, depth, entered⟩ := frame
  unfold children goes next Descent.targets step selected
  cases kind with
  | field responseName name =>
    cases kept : excluded name <;> simp [within, Scope.descent, kept]
  | fragmentSpread fragment =>
    have unentered : fragment ∉ entered := fun again => fresh ⟨fragment, rfl, again⟩
    cases known : scope.fragments.find? fragment <;>
      simp [within, Scope.descent, definition?, known, unentered]
  | inlineFragment | operation | fragmentDefinition | name | scalarType | typeSystem =>
    simp [within]

theorem children_of_again (again : frame.Again) : frame.children scope excluded = [] := by
  obtain ⟨fragment, kind, entered⟩ := again
  simp [children, goes, kind, entered]

theorem exists_of_mem_selected (member : node ∈ frame.selected) :
    ∃ selections, frame.node.selections = some selections ∧ node ∈ selections := by
  unfold Frame.selected at member
  cases opened : frame.node.selections with
  | none => simp [opened] at member
  | some selections => exact ⟨selections, rfl, by simpa [opened] using member⟩

/-- Whatever a frame leads to stands one step down, even if no field is left out. -/
theorem leads_of_mem_next (member : child ∈ frame.next scope) :
    (scope.descent fun _ => false).Leads frame.node child.node := by
  unfold Frame.next at member
  rw [Descent.leads_iff]
  split at member
  · contradiction
  · cases kind : frame.node.kind <;> simp only [kind] at member
    case fragmentSpread fragment =>
      obtain ⟨definition, found, rfl⟩ := List.mem_map.mp member
      refine .inr ⟨fragment, rfl, ?_⟩
      unfold Frame.definition? at found
      split at found
      · cases found
      · exact Option.mem_toList.mp found
    case field | inlineFragment | operation | fragmentDefinition =>
      obtain ⟨node, selected, rfl⟩ := List.mem_map.mp member
      exact .inl ⟨by simp [Descent.opens, Scope.descent, kind], exists_of_mem_selected selected⟩
    all_goals contradiction

theorem mem_nodes_of_mem_children {document : Document} {name : String} {limit : Int}
    (inside : frame.node ∈ document.nodes)
    (within : frame.exceeds (document.scope name limit) = false)
    (member : child ∈ frame.children (document.scope name limit) excluded) :
    child.node ∈ document.nodes := by
  obtain ⟨_, node, leads, rfl⟩ := (mem_children within).mp member
  rw [step_node]
  exact Document.mem_nodes_of_leads inside leads

/-- Going on from a node that can be opened depends on the names of fields alone. -/
theorem goesOn_comesTo {exclusion : Exclusion} (decides : exclusion.Decides excluded)
    (opened : ¬ frame.node.Unopenable) :
    (frame.goesOn scope exclusion).ComesTo (.ok (frame.goes scope excluded)) := by
  obtain ⟨⟨kind, selections, location⟩, depth, entered⟩ := frame
  simp only [goesOn, goes]
  cases kind with
  | field responseName field => exact (decides field).bind (Run.comesTo_pure _)
  | fragmentSpread fragment =>
    dsimp only
    cases known : scope.fragments.find? fragment with
    | none => exact (Run.comesTo_tell _).bind (Run.comesTo_pure false)
    | some definition =>
      cases again : entered.contains fragment with
      | true => exact (Run.comesTo_tell _).bind (Run.comesTo_pure false)
      | false => exact Run.comesTo_pure true
  | inlineFragment | operation | fragmentDefinition =>
    cases selections with
    | none => exact absurd ⟨rfl, rfl⟩ opened
    | some selections => exact Run.comesTo_pure true
  | name | scalarType | typeSystem => exact Run.comesTo_pure false

/-- At a node that cannot be opened everything breaks. -/
theorem goesOn_of_unopenable (scope : Scope) (exclusion : Exclusion)
    (unopenable : frame.node.Unopenable) :
    frame.goesOn scope exclusion = throw .missingSelections := by
  obtain ⟨⟨kind, selections, location⟩, depth, entered⟩ := frame
  obtain ⟨selects, missing⟩ := unopenable
  simp only at selects missing
  subst missing
  cases kind with
  | inlineFragment | operation | fragmentDefinition => rfl
  | field | fragmentSpread | name | scalarType | typeSystem => cases selects

end Frame

namespace Scope

/-- What is found from a frame on, if fields are left out. -/
def found (scope : Scope) (excluded : String → Bool) (frame : Frame) : List Node :=
  if frame.exceeds scope then [frame.node]
  else (frame.children scope excluded).attach.flatMap fun child => found scope excluded child.val
termination_by frame.rank scope
decreasing_by exact Frame.rank_lt_of_mem_next (Frame.mem_next_of_mem_children child.property)

variable {scope : Scope} {excluded : String → Bool} {frame : Frame}

theorem found_beyond (beyond : frame.exceeds scope = true) :
    scope.found excluded frame = [frame.node] := by
  rw [found, if_pos beyond]

theorem found_within (within : frame.exceeds scope = false) :
    scope.found excluded frame =
      (frame.children scope excluded).flatMap (scope.found excluded) := by
  rw [found, within]
  simp

theorem mem_found_within {node : Node} (within : frame.exceeds scope = false) :
    node ∈ scope.found excluded frame ↔
      ∃ child ∈ frame.children scope excluded, node ∈ scope.found excluded child := by
  rw [found_within within, List.mem_flatMap]

/-- The walk reaches a frame if it comes to it from a frame on, by steps from frames within the
limit. -/
inductive Reaches (scope : Scope) (excluded : String → Bool) : Frame → Frame → Prop where
  | here {frame : Frame} : Reaches scope excluded frame frame
  | down {frame child target : Frame} (within : frame.exceeds scope = false)
      (led : child ∈ frame.children scope excluded) (below : Reaches scope excluded child target) :
      Reaches scope excluded frame target

/-- A node is found if it is reached beyond the limit. -/
theorem mem_found_iff {node : Node} : node ∈ scope.found excluded frame ↔
    ∃ reached, scope.Reaches excluded frame reached ∧ reached.exceeds scope = true ∧
      reached.node = node := by
  constructor
  · intro member
    induction frame using Scope.found.induct scope excluded with
    | case1 frame beyond =>
      rw [found_beyond beyond, List.mem_singleton] at member
      exact ⟨frame, .here, beyond, member.symm⟩
    | case2 frame within ih =>
      have within : frame.exceeds scope = false := by simpa using within
      obtain ⟨child, led, member⟩ := (mem_found_within within).mp member
      obtain ⟨reached, reaches, beyond, here⟩ := ih ⟨child, led⟩ member
      exact ⟨reached, .down within led reaches, beyond, here⟩
  · rintro ⟨reached, reaches, beyond, rfl⟩
    induction reaches with
    | here => rw [found_beyond beyond, List.mem_singleton]
    | down within led _ ih => exact (mem_found_within within).mpr ⟨_, led, ih beyond⟩

theorem Reaches.mem_nodes {document : Document} {name : String} {limit : Int} {reached : Frame}
    (reaches : (document.scope name limit).Reaches excluded frame reached)
    (inside : frame.node ∈ document.nodes) : reached.node ∈ document.nodes := by
  induction reaches with
  | here => exact inside
  | down within led _ ih => exact ih (Frame.mem_nodes_of_mem_children inside within led)

/-- The walk breaks if it reaches a node within the limit that cannot be opened. -/
def Breaks (scope : Scope) (excluded : String → Bool) (frame : Frame) : Prop :=
  ∃ reached, scope.Reaches excluded frame reached ∧ reached.exceeds scope = false ∧
    reached.node.Unopenable

theorem not_breaks_beyond (beyond : frame.exceeds scope = true) :
    ¬ scope.Breaks excluded frame := by
  rintro ⟨reached, reaches, inside, _⟩
  cases reaches with
  | here => cases beyond.symm.trans inside
  | down within => cases beyond.symm.trans within

/-- From a frame that can be opened the walk breaks if it breaks one step down. -/
theorem breaks_iff_children (within : frame.exceeds scope = false)
    (opened : ¬ frame.node.Unopenable) :
    scope.Breaks excluded frame ↔ ∃ child ∈ frame.children scope excluded,
      scope.Breaks excluded child := by
  constructor
  · rintro ⟨reached, reaches, inside, unopenable⟩
    cases reaches with
    | here => exact absurd unopenable opened
    | @down _ child _ _ led below => exact ⟨child, led, reached, below, inside, unopenable⟩
  · rintro ⟨child, led, reached, below, inside, unopenable⟩
    exact ⟨reached, .down within led below, inside, unopenable⟩

theorem not_breaks_of_complete {document : Document} (complete : document.Complete) {name : String}
    {limit : Int} (inside : frame.node ∈ document.nodes) :
    ¬ (document.scope name limit).Breaks excluded frame := by
  rintro ⟨reached, reaches, _, unopenable⟩
  exact complete.not_unopenable (reaches.mem_nodes inside) unopenable

end Scope

namespace RecursiveVisit

/-! A relation between computations that carries over relates whole visits with two exclusions if it
relates the questions that are put to them, and the failure where a selection set is missing. If
none is missing among the nodes that can be visited, nothing has to be known of that failure. -/
section Carries

variable {related : (α : Type) → Run α → Run α → Prop} {scope : Scope} {first second : Exclusion}

theorem goesOn_related (carries : Run.Carries related)
    (asks : ∀ name, related _ (first.excludes name) (second.excludes name)) (frame : Frame)
    (opened : frame.node.kind.mustSelect = true → frame.node.selections.isSome = true ∨
      related Bool (throw .missingSelections) (throw .missingSelections)) :
    related _ (frame.goesOn scope first) (frame.goesOn scope second) := by
  obtain ⟨⟨kind, selections, location⟩, depth, entered⟩ := frame
  unfold Frame.goesOn
  cases kind with
  | field responseName name => exact carries.bind (asks name) fun _ => carries.pure _
  | fragmentSpread fragment =>
    dsimp only
    split
    · exact carries.bind (carries.tell _ rfl) fun _ => carries.pure false
    · split
      · exact carries.bind (carries.tell _ rfl) fun _ => carries.pure false
      · exact carries.pure true
  | inlineFragment | operation | fragmentDefinition =>
    cases selections with
    | none =>
      rcases opened rfl with present | fails
      · cases present
      · exact fails
    | some selections => exact carries.pure true
  | name | scalarType | typeSystem => exact carries.pure false

/-- What relates the questions relates the visits. -/
theorem visit_related (carries : Run.Carries related) (nodes : Node → Prop)
    (asks : ∀ name, related _ (first.excludes name) (second.excludes name))
    (closed : ∀ {parent child}, nodes parent →
      (scope.descent fun _ => false).Leads parent child → nodes child)
    (opened : ∀ node, nodes node → node.kind.mustSelect = true → node.selections.isSome = true ∨
      related Bool (throw .missingSelections) (throw .missingSelections))
    (frame : Frame) (inside : nodes frame.node) :
    related _ (visit scope first frame.node frame.depth frame.entered)
      (visit scope second frame.node frame.depth frame.entered) := by
  cases beyond : frame.exceeds scope with
  | true =>
    rw [visit_beyond first beyond, visit_beyond second beyond]
    exact carries.pure _
  | false =>
    rw [visit_within first beyond, visit_within second beyond]
    refine carries.bind (goesOn_related carries asks frame (opened _ inside)) fun goes => ?_
    split
    · rw [visitFrames_eq_flatten, visitFrames_eq_flatten]
      exact carries.flatten fun child member =>
        visit_related carries nodes asks closed opened child
          (closed inside (Frame.leads_of_mem_next member))
    · exact carries.pure _
termination_by frame.rank scope
decreasing_by exact Frame.rank_lt_of_mem_next member

/-- What relates the questions relates the violations of a document. -/
theorem violations_related (carries : Run.Carries related) {document : Document}
    (asks : ∀ name, related _ (first.excludes name) (second.excludes name))
    (opened : ∀ node ∈ document.nodes, node.kind.mustSelect = true →
      node.selections.isSome = true ∨
        related Bool (throw .missingSelections) (throw .missingSelections)) (limit : Int) :
    related _ (document.violations limit first) (document.violations limit second) := by
  rw [Document.violations_eq_flatten, Document.violations_eq_flatten]
  refine carries.flatten fun ⟨name, operation⟩ filed => ?_
  rw [violations_eq_visit, violations_eq_visit]
  have visited : related _ (visit (document.scope name limit) first operation 0 [])
      (visit (document.scope name limit) second operation 0 []) :=
    visit_related carries (· ∈ document.nodes) asks Document.mem_nodes_of_leads opened
      ⟨operation, 0, []⟩ (Document.mem_nodes_of_operation filed)
  exact carries.bind visited fun _ => carries.pure _

end Carries

/-- Exclusions that decide alike lead to the same outcome, even where a selection set is missing. -/
theorem exists_outcome_of_decides {first second : Exclusion} {excluded : String → Bool}
    (decides : first.Decides excluded) (alike : second.Decides excluded) (document : Document)
    (limit : Int) : ∃ outcome, (document.violations limit first).ComesTo outcome ∧
      (document.violations limit second).ComesTo outcome :=
  violations_related Run.comesTo_carries
    (fun name => ⟨_, decides name, alike name⟩)
    (fun _ _ _ => .inr ⟨.error .missingSelections, fun _ => rfl, fun _ => rfl⟩) limit

/-- What composes and holds of the questions holds of a visit. -/
theorem visit_holds {holds : (α : Type) → Run α → Prop} {scope : Scope} {exclusion : Exclusion}
    (composes : Run.Composes holds) (nodes : Node → Prop)
    (asks : ∀ name, holds _ (exclusion.excludes name))
    (closed : ∀ {parent child}, nodes parent →
      (scope.descent fun _ => false).Leads parent child → nodes child)
    (opened : ∀ node, nodes node → node.kind.mustSelect = true → node.selections.isSome = true ∨
      holds _ (throw .missingSelections : Run Bool))
    (frame : Frame) (inside : nodes frame.node) :
    holds _ (visit scope exclusion frame.node frame.depth frame.entered) :=
  (visit_related composes.carries nodes (fun name => ⟨rfl, asks name⟩) closed
    (fun node inside selects => (opened node inside selects).imp_right fun fails => ⟨rfl, fails⟩)
    frame inside).2

variable {document : Document} {exclusion : Exclusion} {excluded : String → Bool} {scope : Scope}

/-- The violations of a complete document are found if the exclusion answers. -/
theorem violations_returns (complete : document.Complete) (answers : exclusion.Answers)
    (limit : Int) : (document.violations limit exclusion).Returns :=
  (violations_related Run.returns_composes.carries (fun name => ⟨rfl, answers.returns name⟩)
    (fun node inside selects => .inl (complete node inside selects)) limit).2

/-- A visit finds only nodes that can be visited. -/
theorem visit_findsOnly (nodes : Node → Prop)
    (closed : ∀ {parent child}, nodes parent →
      (scope.descent fun _ => false).Leads parent child → nodes child)
    (frame : Frame) (inside : nodes frame.node) :
    (visit scope exclusion frame.node frame.depth frame.entered).FindsOnly nodes := by
  intro trace found left returned
  cases beyond : frame.exceeds scope with
  | true =>
    rw [visit_beyond exclusion beyond] at returned
    cases returned
    simpa using inside
  | false =>
    rw [visit_within exclusion beyond] at returned
    obtain ⟨goes, middle, _, returned⟩ := Run.ok_of_bind returned
    split at returned
    · rw [visitFrames_eq_flatten] at returned
      refine Run.FindsOnly.flatten (fun child member => ?_) _ _ _ returned
      exact visit_findsOnly nodes closed child (closed inside (Frame.leads_of_mem_next member))
    · cases returned
      simp
termination_by frame.rank scope
decreasing_by exact Frame.rank_lt_of_mem_next member

/-- What is reported for a document stands in it, even if the exclusion does not decide by the
name. -/
theorem violations_findsOnly (document : Document) (limit : Int) (exclusion : Exclusion) :
    (document.violations limit exclusion).FindsOnly (·.node ∈ document.nodes) := by
  rw [Document.violations_eq_flatten]
  refine Run.FindsOnly.flatten fun ⟨name, operation⟩ filed => ?_
  intro trace found left returned
  rw [violations_eq_visit] at returned
  obtain ⟨nodes, middle, visited, returned⟩ := Run.ok_of_bind returned
  cases returned
  intro violation reported
  obtain ⟨node, member, rfl⟩ := List.mem_map.mp reported
  have inside : operation ∈ document.nodes := Document.mem_nodes_of_operation filed
  have only : (visit (document.scope name limit) exclusion operation 0 []).FindsOnly
      (· ∈ document.nodes) :=
    visit_findsOnly _ Document.mem_nodes_of_leads ⟨operation, 0, []⟩ inside
  exact only _ _ _ visited node member

/-- A visit comes to what is found, unless the walk breaks. -/
theorem visit_failsOr (decides : exclusion.Decides excluded) (frame : Frame) :
    Run.FailsOr .missingSelections (scope.Breaks excluded frame) (scope.found excluded frame)
      (visit scope exclusion frame.node frame.depth frame.entered) := by
  cases beyond : frame.exceeds scope with
  | true =>
    rw [visit_beyond exclusion beyond, Scope.found_beyond beyond]
    exact Run.failsOr_pure _ (Scope.not_breaks_beyond beyond)
  | false =>
    rw [visit_within exclusion beyond, Scope.found_within beyond]
    by_cases unopenable : frame.node.Unopenable
    · have breaks : scope.Breaks excluded frame := ⟨frame, .here, beyond, unopenable⟩
      rw [Frame.goesOn_of_unopenable scope exclusion unopenable]
      exact ⟨fun _ _ => rfl, fun never => absurd breaks never⟩
    · rw [Scope.breaks_iff_children beyond unopenable]
      refine (Frame.goesOn_comesTo decides unopenable).failsOr_bind ?_
      unfold Frame.children
      split
      · rw [visitFrames_eq_flatten]
        exact Run.failsOr_flatten fun child member => visit_failsOr decides child
      · exact Run.failsOr_pure _ (by simp)
termination_by frame.rank scope
decreasing_by exact Frame.rank_lt_of_mem_next member

theorem visit_comesTo (complete : document.Complete) (decides : exclusion.Decides excluded)
    {name : String} {limit : Int} (frame : Frame) (inside : frame.node ∈ document.nodes) :
    (visit (document.scope name limit) exclusion frame.node frame.depth frame.entered).ComesTo
      (.ok ((document.scope name limit).found excluded frame)) :=
  (visit_failsOr decides frame).2 (Scope.not_breaks_of_complete complete inside)

end RecursiveVisit

namespace Document

variable {document : Document} {exclusion : Exclusion} {excluded : String → Bool}

/-- The violations of a document, if fields are left out. -/
def found (document : Document) (limit : Int) (excluded : String → Bool) : List Violation :=
  document.index.operations.flatMap fun entry =>
    ((document.scope entry.1 limit).found excluded ⟨entry.2, 0, []⟩).map fun node =>
      ⟨entry.1, limit, node⟩

/-- A document has the violations that are found, unless the walk of an operation breaks. -/
theorem violations_failsOr (decides : exclusion.Decides excluded) (document : Document)
    (limit : Int) :
    Run.FailsOr .missingSelections
      (∃ entry ∈ document.index.operations,
        (document.scope entry.1 limit).Breaks excluded ⟨entry.2, 0, []⟩)
      (document.found limit excluded) (document.violations limit exclusion) := by
  rw [violations_eq_flatten]
  refine Run.failsOr_flatten fun ⟨name, operation⟩ _ => ?_
  rw [RecursiveVisit.violations_eq_visit]
  exact (RecursiveVisit.visit_failsOr decides ⟨operation, 0, []⟩).bind_pure _

theorem violations_comesTo (complete : document.Complete) (decides : exclusion.Decides excluded)
    (limit : Int) :
    (document.violations limit exclusion).ComesTo (.ok (document.found limit excluded)) := by
  refine (violations_failsOr decides document limit).2 ?_
  rintro ⟨entry, filed, breaks⟩
  exact Scope.not_breaks_of_complete complete (mem_nodes_of_operation filed) breaks

theorem mem_nodes_of_reported {limit : Int} {violation : Violation}
    (reported : violation ∈ document.found limit excluded) : violation.node ∈ document.nodes := by
  obtain ⟨⟨name, operation⟩, indexed, member⟩ := List.mem_flatMap.mp reported
  obtain ⟨node, found, rfl⟩ := List.mem_map.mp member
  obtain ⟨reached, reaches, _, rfl⟩ := Scope.mem_found_iff.mp found
  exact reaches.mem_nodes (mem_nodes_of_operation indexed)

/-- What is reported for an operation is what is found from it on. -/
theorem reported_iff {limit : Int} {name : String} {operation node : Node}
    (indexed : (name, operation) ∈ document.index.operations) :
    (∃ violation ∈ document.found limit excluded,
        violation.operation = name ∧ violation.node = node) ↔
      node ∈ (document.scope name limit).found excluded ⟨operation, 0, []⟩ := by
  simp only [found, List.mem_flatMap, List.mem_map]
  constructor
  · rintro ⟨_, ⟨⟨key, other⟩, filed, found, member, rfl⟩, rfl, rfl⟩
    obtain ⟨_, rfl⟩ := List.inj_on_of_nodup_map document.index_files.distinct filed indexed rfl
    exact member
  · intro member
    exact ⟨_, ⟨(name, operation), indexed, node, member, rfl⟩, rfl, rfl⟩

end Document

end QueryDepth
