import Mathlib.Data.List.Flatten
import QueryDepth.Proofs.CycleCut
import QueryDepth.Proofs.Filing

/-! What it means for a field to be left out. The walk treats such a field as if it selected
nothing, so the same is reported where the selection sets of these fields are taken away and no
field is left out. And where more fields are left out, the walk follows fewer ways, but each of them
as far as before: nothing is reported that was not reported already. -/
namespace QueryDepth.LeftOutFields

variable {document other : Document} {scope : Scope} {exclusion : Exclusion}
  {excluded fewer more : String → Bool} {node : Node} {name : String} {limit : Int}

/-! ## Leaving out more fields -/

/-- If the walk goes on from a frame where more fields are left out, it goes on where fewer are. -/
theorem goes_of_more (implies : ∀ name, fewer name = true → more name = true) {frame : Frame}
    (goes : frame.goes scope more = true) : frame.goes scope fewer = true := by
  unfold Frame.goes at goes ⊢
  split at goes
  · rename_i field _
    cases left : fewer field with
    | false => rfl
    | true =>
      rw [implies field left] at goes
      cases goes
  all_goals exact goes

/-- Where more fields are left out, a frame leads to the same frames as before or to none. -/
theorem children_sublist (implies : ∀ name, fewer name = true → more name = true)
    (frame : Frame) :
    (frame.children scope more).Sublist (frame.children scope fewer) := by
  unfold Frame.children
  split
  · rename_i goes
    rw [if_pos (goes_of_more implies goes)]
  · exact List.nil_sublist _

theorem found_sublist (implies : ∀ name, fewer name = true → more name = true) (frame : Frame) :
    (scope.found more frame).Sublist (scope.found fewer frame) := by
  induction frame using Scope.found.induct scope fewer with
  | case1 frame beyond => rw [Scope.found_beyond beyond, Scope.found_beyond beyond]
  | case2 frame within ih =>
    have within : frame.exceeds scope = false := by simpa using within
    rw [Scope.found_within within, Scope.found_within within]
    have front : ((frame.children scope more).flatMap (scope.found more)).Sublist
        ((frame.children scope fewer).flatMap (scope.found more)) :=
      (children_sublist implies frame).flatMap _
    exact front.trans (List.Sublist.flatMap_right _ fun child member => ih ⟨child, member⟩)

theorem violations_sublist (implies : ∀ name, fewer name = true → more name = true)
    (document : Document) (limit : Int) :
    (document.found limit more).Sublist (document.found limit fewer) :=
  List.Sublist.flatMap_right _ fun _ _ => (found_sublist implies _).map _

/-- Whatever an exclusion leaves out besides, it leaves out introspection. -/
theorem excluded_of_introspection (decides : exclusion.Decides excluded)
    (introspective : isIntrospection name = true) : excluded name = true := by
  have came := decides name .empty
  simp only [Exclusion.excludes, introspective, if_true, Run.after_pure] at came
  exact (Except.ok.inj came).symm

/-- **Leaving out more fields reports no more.** If an exclusion leaves out all that another one
leaves out, what it reports is part of what the other one reports, in the same order. So whatever is
reported at all is reported where nothing is left out but introspection. Exclusions that leave out
the same fields report the same, be it by name, by pattern or by a predicate. -/
theorem more_left_out_reports_no_more (complete : document.Complete) {few many : Exclusion}
    (decidesFew : few.Decides fewer) (decidesMany : many.Decides more)
    (implies : ∀ name, fewer name = true → more name = true) (limit : Int) :
    ∃ all found kept : List Violation,
      (document.violations limit .nothing).ComesTo (.ok all) ∧
      (document.violations limit few).ComesTo (.ok found) ∧
      (document.violations limit many).ComesTo (.ok kept) ∧
      kept.Sublist found ∧ found.Sublist all ∧
      ∀ alike : Exclusion, alike.Decides fewer →
        (document.violations limit alike).ComesTo (.ok found) := by
  have introspective : ∀ name, isIntrospection name = true → fewer name = true :=
    fun _ => excluded_of_introspection decidesFew
  have comesAll := Document.violations_comesTo complete Exclusion.decides_nothing limit
  have comesFew := Document.violations_comesTo complete decidesFew limit
  have comesMany := Document.violations_comesTo complete decidesMany limit
  have part : (document.found limit more).Sublist (document.found limit fewer) :=
    violations_sublist implies document limit
  have whole : (document.found limit fewer).Sublist (document.found limit isIntrospection) :=
    violations_sublist introspective document limit
  refine ⟨_, _, _, comesAll, comesFew, comesMany, part, whole, ?_⟩
  intro alike decidesAlike
  exact Document.violations_comesTo complete decidesAlike limit

/-- The predicate that leaves out two of the fields of overlapping circles. -/
def eitherField : Predicate where
  respond _ name := .answers (name == "b" || name == "x")

/-- With two fields left out, part of what is reported for a query into overlapping circles is what
is reported with one of them. -/
theorem overlapping_more_left_out_reports_no_more :
    CycleCut.overlapping.Complete ∧
    Exclusion.Decides (.exact "x") (fun name => isIntrospection name || name == "x") ∧
    Exclusion.Decides (.predicate eitherField)
      (fun name => isIntrospection name || (name == "b" || name == "x")) ∧
    (∀ name, (isIntrospection name || name == "x") = true →
      (isIntrospection name || (name == "b" || name == "x")) = true) ∧
    ∃ all found kept : List Violation,
      (CycleCut.overlapping.violations 2 .nothing).ComesTo (.ok all) ∧
      (CycleCut.overlapping.violations 2 (.exact "x")).ComesTo (.ok found) ∧
      (CycleCut.overlapping.violations 2 (.predicate eitherField)).ComesTo (.ok kept) ∧
      kept.Sublist found ∧ found.Sublist all := by
  have complete : CycleCut.overlapping.Complete := by decide
  have decidesFew := Exclusion.decides_exact "x"
  have decidesMany : Exclusion.Decides (.predicate eitherField)
      (fun name => isIntrospection name || (name == "b" || name == "x")) :=
    Exclusion.decides_predicate fun _ _ => .inl rfl
  have implies : ∀ name, (isIntrospection name || name == "x") = true →
      (isIntrospection name || (name == "b" || name == "x")) = true := by
    intro name left
    rcases Bool.or_eq_true_iff.mp left with introspective | same
    · rw [introspective, Bool.true_or]
    · rw [same, Bool.or_true, Bool.or_true]
  obtain ⟨all, found, kept, comes, comesFew, comesMany, part, whole, _⟩ :=
    more_left_out_reports_no_more complete decidesFew decidesMany implies 2
  exact ⟨complete, decidesFew, decidesMany, implies, all, found, kept, comes, comesFew, comesMany,
    part, whole⟩

/-! ## Taking away what is left out -/

/-- Whether nodes of a kind are fields that are left out. -/
def leavesOut (excluded : String → Bool) : NodeKind → Bool
  | .field _ name => excluded name
  | .fragmentSpread _ | .inlineFragment _ | .operation .. | .fragmentDefinition .. | .name _
  | .scalarType _ | .typeSystem => false

mutual

/-- A node in which the fields left out have no selection sets, wherever they stand. -/
def bare (excluded : String → Bool) : Node → Node
  | ⟨kind, none, location⟩ => ⟨kind, none, location⟩
  | ⟨kind, some selections, location⟩ =>
    ⟨kind, if leavesOut excluded kind then none else some (bareAll excluded selections), location⟩

def bareAll (excluded : String → Bool) : List Node → List Node
  | [] => []
  | node :: rest => bare excluded node :: bareAll excluded rest

end

/-- A document in which the fields left out have no selection sets, in operations and in fragments
alike. -/
def bareDocument (excluded : String → Bool) (document : Document) : Document :=
  ⟨document.definitions.map (bare excluded)⟩

/-- A violation of the document in which the fields left out have no selection sets. -/
def bareViolation (excluded : String → Bool) (violation : Violation) : Violation :=
  { violation with node := bare excluded violation.node }

theorem bareAll_eq_map (excluded : String → Bool) (nodes : List Node) :
    bareAll excluded nodes = nodes.map (bare excluded) := by
  induction nodes with
  | nil => rfl
  | cons node rest ih => rw [bareAll, ih, List.map_cons]

/-- A field that is left out loses its selection set, and every other node stays as it is but for
what it selects. -/
theorem bare_eq (excluded : String → Bool) (node : Node) :
    bare excluded node = { node with
      selections := if leavesOut excluded node.kind then none
        else node.selections.map (List.map (bare excluded)) } := by
  obtain ⟨kind, _ | selections, location⟩ := node <;> simp [bare, bareAll_eq_map]

@[simp] theorem bare_kind (excluded : String → Bool) (node : Node) :
    (bare excluded node).kind = node.kind := by
  rw [bare_eq]

theorem bare_slot? (excluded : String → Bool) (node : Node) :
    (bare excluded node).slot? = node.slot? := by
  simp only [Node.slot?, bare_kind]

/-- The nodes that are left stand for nodes that were there. -/
theorem exists_of_mem_tree_bare {top : Node} (inside : node ∈ (bare excluded top).tree) :
    ∃ original ∈ top.tree, node = bare excluded original := by
  cases opened : (bare excluded top).selections with
  | none =>
    rw [Node.tree_of_unopened opened, List.mem_singleton] at inside
    exact ⟨top, top.self_mem_tree, inside⟩
  | some left =>
    rcases (Node.mem_tree_of_opened opened).mp inside with rfl | ⟨child, selected, below⟩
    · exact ⟨top, top.self_mem_tree, rfl⟩
    · rw [bare_eq] at opened
      simp only at opened
      split at opened
      · cases opened
      · obtain ⟨selections, before, rfl⟩ := Option.map_eq_some_iff.mp opened
        obtain ⟨original, member, rfl⟩ := List.mem_map.mp selected
        obtain ⟨source, inner, same⟩ := exists_of_mem_tree_bare below
        exact ⟨source, (Node.mem_tree_of_opened before).mpr (.inr ⟨original, member, inner⟩), same⟩
termination_by sizeOf top
decreasing_by exact Node.sizeOf_lt_of_selected before member

theorem complete_bareDocument (excluded : String → Bool) (complete : document.Complete) :
    (bareDocument excluded document).Complete := by
  intro node inside selects
  obtain ⟨top, written, below⟩ := List.mem_flatMap.mp inside
  obtain ⟨definition, defined, rfl⟩ := List.mem_map.mp written
  obtain ⟨original, inner, rfl⟩ := exists_of_mem_tree_bare below
  have original_mem : original ∈ document.nodes :=
    List.mem_flatMap.mpr ⟨definition, defined, inner⟩
  rw [bare_kind] at selects
  have present := complete original original_mem selects
  have kept : leavesOut excluded original.kind = false := by
    unfold NodeKind.mustSelect at selects
    unfold leavesOut
    split at selects <;> simp_all
  rw [bare_eq, kept]
  simpa using present

/-- One step down there is what was there before: nothing below a field that is left out, and
everything below any other node. -/
theorem targets_bare (introspective : ∀ name, isIntrospection name = true → excluded name = true)
    (document : Document) (node : Node) :
    ((bareDocument excluded document).descent isIntrospection).targets (bare excluded node) =
      ((document.descent excluded).targets node).map (bare excluded) := by
  have written := bare_eq excluded node
  unfold Descent.targets
  rw [bare_kind]
  cases kind : node.kind with
  | field responseName field =>
    cases left : excluded field with
    | true => simp [written, kind, leavesOut, left, Document.descent]
    | false =>
      have outside : isIntrospection field = false := by
        cases introspection : isIntrospection field with
        | false => rfl
        | true => simp [introspective field introspection] at left
      simp only [written, kind, leavesOut, left, outside, Document.descent]
      cases node.selections <;> rfl
  | fragmentSpread fragment =>
    simp only [Document.descent, bareDocument, Document.find?_fragments_map (bare_slot? excluded)]
    cases document.index.fragments.find? fragment <;> rfl
  | inlineFragment | operation | fragmentDefinition =>
    simp only [written, kind, leavesOut]
    cases node.selections <;> rfl
  | name | scalarType | typeSystem => rfl

def bareFrame (excluded : String → Bool) (frame : Frame) : Frame :=
  { frame with node := bare excluded frame.node }

theorem step_bare (frame : Frame) (node : Node) :
    (bareFrame excluded frame).step (bare excluded node) =
      bareFrame excluded (frame.step node) := by
  unfold Frame.step bareFrame
  rw [bare_kind]
  split <;> rfl

theorem again_bare_iff {frame : Frame} : (bareFrame excluded frame).Again ↔ frame.Again := by
  simp only [Frame.Again, bareFrame, bare_kind]

/-- Without leaving out anything but introspection, the nodes are found that stand for the ones
found before. -/
theorem found_bare (introspective : ∀ name, isIntrospection name = true → excluded name = true)
    (frame : Frame) :
    ((bareDocument excluded document).scope name limit).found isIntrospection
        (bareFrame excluded frame) =
      ((document.scope name limit).found excluded frame).map (bare excluded) := by
  induction frame using Scope.found.induct (document.scope name limit) excluded with
  | case1 frame beyond =>
    have beyond' : (bareFrame excluded frame).exceeds
        ((bareDocument excluded document).scope name limit) = true := beyond
    rw [Scope.found_beyond beyond, Scope.found_beyond beyond']
    rfl
  | case2 frame within ih =>
    have within : frame.exceeds (document.scope name limit) = false := by simpa using within
    have within' : (bareFrame excluded frame).exceeds
        ((bareDocument excluded document).scope name limit) = false := within
    rw [Scope.found_within within, Scope.found_within within', List.map_flatMap]
    by_cases again : frame.Again
    · rw [Frame.children_of_again again, Frame.children_of_again (again_bare_iff.mpr again)]
      rfl
    · have fresh : ¬ (bareFrame excluded frame).Again := again_bare_iff.not.mpr again
      have down : (bareFrame excluded frame).children
            ((bareDocument excluded document).scope name limit) isIntrospection =
          (frame.children (document.scope name limit) excluded).map (bareFrame excluded) := by
        rw [Frame.children_eq_map within again, Frame.children_eq_map within' fresh, List.map_map]
        refine (congrArg _ (targets_bare introspective document frame.node)).trans ?_
        rw [List.map_map]
        exact List.map_congr_left fun node _ => step_bare frame node
      rw [down, List.flatMap_map]
      exact List.flatMap_congr fun child member => ih ⟨child, member⟩

theorem violations_bare (introspective : ∀ name, isIntrospection name = true → excluded name = true)
    (document : Document) (limit : Int) :
    (bareDocument excluded document).found limit isIntrospection =
      (document.found limit excluded).map (bareViolation excluded) := by
  have filed : (bareDocument excluded document).index.operations =
      document.index.operations.map fun entry => (entry.1, bare excluded entry.2) :=
    Document.operations_map (bare_slot? excluded) document
  simp only [Document.found, filed, List.flatMap_map, List.map_flatMap, List.map_map]
  refine List.flatMap_congr fun entry _ => ?_
  have nodes : ((bareDocument excluded document).scope entry.1 limit).found isIntrospection
        ⟨bare excluded entry.2, 0, []⟩ =
      ((document.scope entry.1 limit).found excluded ⟨entry.2, 0, []⟩).map (bare excluded) :=
    found_bare introspective ⟨entry.2, 0, []⟩
  rw [nodes, List.map_map]
  rfl

/-- **A field that is left out is a leaf.** What is reported with fields left out is what is
reported without, once the selection sets of these fields are taken away: one by one and in the same
order, each at the node that is left of the one where it was. So it makes no difference what stands
below a field that is left out. -/
theorem left_out_fields_are_leaves (complete : document.Complete)
    (decides : exclusion.Decides excluded) (limit : Int) :
    ∃ found : List Violation,
      (document.violations limit exclusion).ComesTo (.ok found) ∧
      ((bareDocument excluded document).violations limit .nothing).ComesTo
        (.ok (found.map (bareViolation excluded))) ∧
      ∀ other : Document, other.Complete →
        bareDocument excluded other = bareDocument excluded document →
        ∃ foundOther : List Violation,
          (other.violations limit exclusion).ComesTo (.ok foundOther) ∧
          foundOther.map (bareViolation excluded) = found.map (bareViolation excluded) := by
  have introspective : ∀ name, isIntrospection name = true → excluded name = true :=
    fun _ => excluded_of_introspection decides
  have bared := Document.violations_comesTo (complete_bareDocument excluded complete)
    Exclusion.decides_nothing limit
  rw [violations_bare introspective] at bared
  refine ⟨_, Document.violations_comesTo complete decides limit, bared, ?_⟩
  intro other completeOther same
  refine ⟨_, Document.violations_comesTo completeOther decides limit, ?_⟩
  rw [← violations_bare introspective, ← violations_bare introspective, same]

/-- With a field left out, overlapping circles are cut where it stands, as if it were a leaf. -/
theorem overlapping_left_out_fields_are_leaves :
    CycleCut.overlapping.Complete ∧
    Exclusion.Decides (.exact "b") (fun name => isIntrospection name || name == "b") ∧
    ∃ found : List Violation,
      (CycleCut.overlapping.violations 1 (.exact "b")).ComesTo (.ok found) ∧
      ((bareDocument (fun name => isIntrospection name || name == "b")
        CycleCut.overlapping).violations 1 .nothing).ComesTo
          (.ok (found.map (bareViolation fun name => isIntrospection name || name == "b"))) := by
  have complete : CycleCut.overlapping.Complete := by decide
  have decides := Exclusion.decides_exact "b"
  obtain ⟨found, comes, bared, _⟩ := left_out_fields_are_leaves complete decides 1
  exact ⟨complete, decides, found, comes, bared⟩

end QueryDepth.LeftOutFields
