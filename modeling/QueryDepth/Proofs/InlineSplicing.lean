import QueryDepth.Proofs.DecidedWalk
import QueryDepth.Proofs.Filing

/-! Inline fragments taken apart. An inline fragment adds nothing to the depth, so what it selects
can be written in its place. The walk does the same before and after: it asks the same questions in
the same order and tells the same events. Only where an inline fragment was reported, the nodes are
reported that have taken its place, so a document stays within a limit as long as no inline fragment
comes to nothing. -/
namespace QueryDepth.InlineSplicing

open RecursiveVisit

variable {document : Document} {exclusion : Exclusion} {node : Node} {frame : Frame} {name : String}
  {limit : Int}

/-! ## Splicing -/

def isInline (node : Node) : Bool :=
  match node.kind with
  | .inlineFragment _ => true
  | .field .. | .fragmentSpread _ | .operation .. | .fragmentDefinition .. | .name _ | .scalarType _
  | .typeSystem => false

theorem isInline_iff : isInline node = true ↔
    ∃ typeCondition, node.kind = .inlineFragment typeCondition := by
  unfold isInline
  split <;> simp_all

/-- What stands for a node among selections: what an inline fragment selects, and otherwise the node
itself. -/
def unwrapped (node : Node) : List Node :=
  if isInline node then node.selections.getD [] else [node]

mutual

/-- A node with the inline fragments below it spliced. -/
def splice : Node → Node
  | ⟨kind, none, location⟩ => ⟨kind, none, location⟩
  | ⟨kind, some selections, location⟩ => ⟨kind, some (spliceAll selections), location⟩

/-- Selections in which every inline fragment is replaced by what it selects, spliced in turn. -/
def spliceAll : List Node → List Node
  | [] => []
  | node :: rest => unwrapped (splice node) ++ spliceAll rest

end

/-- What stands for a node among spliced selections. -/
def pieces (node : Node) : List Node := unwrapped (splice node)

/-- A document with all selections spliced, in operations and in fragments alike. -/
def splicedDocument (document : Document) : Document := ⟨document.definitions.map splice⟩

/-- The violations that stand for a violation once selections are spliced: one for each node that
stands for the node where it was. -/
def violationPieces (violation : Violation) : List Violation :=
  (pieces violation.node).map fun node => { violation with node := node }

/-- No inline fragment of a document comes to nothing when it is spliced. -/
def NoneVanishes (document : Document) : Prop :=
  ∀ node ∈ document.nodes, isInline node = true → pieces node ≠ []

instance (document : Document) : Decidable (NoneVanishes document) :=
  inferInstanceAs (Decidable (∀ node ∈ document.nodes, _))

theorem spliceAll_eq_flatMap (nodes : List Node) : spliceAll nodes = nodes.flatMap pieces := by
  induction nodes with
  | nil => rfl
  | cons node rest ih => rw [spliceAll, ih, List.flatMap_cons, pieces]

theorem splice_eq (node : Node) :
    splice node = { node with
      selections := node.selections.map (List.flatMap pieces) } := by
  obtain ⟨kind, _ | selections, location⟩ := node <;> simp [splice, spliceAll_eq_flatMap]

@[simp] theorem splice_kind (node : Node) : (splice node).kind = node.kind := by
  rw [splice_eq]

@[simp] theorem splice_selections (node : Node) :
    (splice node).selections = node.selections.map (List.flatMap pieces) := by
  rw [splice_eq]

@[simp] theorem isInline_splice (node : Node) : isInline (splice node) = isInline node := by
  simp only [isInline, splice_kind]

theorem splice_slot? (node : Node) : (splice node).slot? = node.slot? := by
  simp only [Node.slot?, splice_kind]

theorem pieces_of_inline (inline : isInline node = true) :
    pieces node = (node.selections.getD []).flatMap pieces := by
  rw [pieces, unwrapped, isInline_splice, if_pos inline, splice_selections]
  cases node.selections <;> rfl

theorem pieces_of_other (other : isInline node = false) : pieces node = [splice node] := by
  rw [pieces, unwrapped, isInline_splice, other]
  rfl

/-! ## Visits of spliced selections -/

/-- The frames that are visited instead of a frame. -/
def framePieces (frame : Frame) : List Frame :=
  (pieces frame.node).map fun node => { frame with node := node }

def spliceFrame (frame : Frame) : Frame := { frame with node := splice frame.node }

theorem framePieces_of_other (other : isInline frame.node = false) :
    framePieces frame = [spliceFrame frame] := by
  rw [framePieces, pieces_of_other other]
  rfl

/-- Within the limit, an inline fragment is replaced by what it leads to. -/
theorem framePieces_of_inline {scope : Scope} (inline : isInline frame.node = true)
    (within : frame.exceeds scope = false) :
    framePieces frame = (frame.next scope).flatMap framePieces := by
  obtain ⟨typeCondition, kind⟩ := isInline_iff.mp inline
  rw [framePieces, pieces_of_inline inline, List.map_flatMap, Frame.next, within, kind]
  simp only [Bool.false_eq_true, if_false, Frame.selected, List.flatMap_map]
  rfl

/-- Within the limit, the walk always goes on from an inline fragment of a complete document. -/
theorem goesOn_inline {scope : Scope} (complete : document.Complete) (exclusion : Exclusion)
    (inline : isInline frame.node = true) (inside : frame.node ∈ document.nodes) :
    frame.goesOn scope exclusion = return true := by
  obtain ⟨typeCondition, kind⟩ := isInline_iff.mp inline
  have opened := complete _ inside (by rw [kind]; rfl)
  obtain ⟨selections, present⟩ := Option.isSome_iff_exists.mp opened
  simp [Frame.goesOn, kind, present]

/-- The walk goes on from a spliced node where it went on before. -/
theorem goesOn_splice (exclusion : Exclusion) (frame : Frame) :
    (spliceFrame frame).goesOn ((splicedDocument document).scope name limit) exclusion =
      frame.goesOn (document.scope name limit) exclusion := by
  unfold Frame.goesOn spliceFrame
  simp only [splice_kind, splice_selections, Option.isNone_map, Document.scope, splicedDocument,
    Document.find?_fragments_map splice_slot?]
  cases frame.node.kind <;> rfl

/-- It leads to what stands for the frames it led to, unless it is an inline fragment itself. -/
theorem next_splice (other : isInline frame.node = false)
    (within : frame.exceeds (document.scope name limit) = false) :
    (spliceFrame frame).next ((splicedDocument document).scope name limit) =
      (frame.next (document.scope name limit)).flatMap framePieces := by
  have same : (spliceFrame frame).exceeds ((splicedDocument document).scope name limit) = false :=
    within
  have selected : (spliceFrame frame).selected = frame.selected.flatMap pieces := by
    simp only [Frame.selected, spliceFrame, splice_selections]
    cases frame.node.selections <;> rfl
  have kindSame : (spliceFrame frame).node.kind = frame.node.kind := splice_kind frame.node
  unfold Frame.next
  rw [within, same, selected, kindSame]
  cases kind : frame.node.kind with
  | inlineFragment => simp [isInline, kind] at other
  | fragmentSpread fragment =>
    have known := Document.find?_fragments_map splice_slot? document fragment
    simp only [Frame.definition?, spliceFrame, splicedDocument, Document.scope, known,
      Bool.false_eq_true, if_false]
    split
    · rfl
    · cases found : document.index.fragments.find? fragment with
      | none => rfl
      | some definition =>
        -- The definition is no inline fragment, so a single node stands for it.
        obtain ⟨typeCondition, kind⟩ := Document.exists_kind_of_known found
        have whole : pieces definition = [splice definition] :=
          pieces_of_other (by simp [isInline, kind])
        simp [framePieces, whole]
  | field | operation | fragmentDefinition =>
    simp only [Bool.false_eq_true, if_false, List.map_flatMap, List.flatMap_map]
    rfl
  | name | scalarType | typeSystem => rfl

theorem visitFrames_singleton (scope : Scope) (exclusion : Exclusion) (frame : Frame) :
    visitFrames scope exclusion [frame] =
      visit scope exclusion frame.node frame.depth frame.entered := by
  simp [visitFrames]

/-- Frames beyond the limit are all reported. -/
theorem visitFrames_beyond {scope : Scope} (exclusion : Exclusion) {frames : List Frame}
    (beyond : ∀ frame ∈ frames, frame.exceeds scope = true) :
    visitFrames scope exclusion frames = return frames.map Frame.node := by
  induction frames with
  | nil => rfl
  | cons frame rest ih =>
    have later := ih fun other member => beyond other (List.mem_cons_of_mem _ member)
    rw [visitFrames, visit_beyond exclusion (beyond frame List.mem_cons_self), later]
    rfl

/-- Frames are visited by visiting what stands for them, if this is so of each of them. -/
theorem visitFrames_pieces {scope another : Scope} {frames : List Frame}
    (each : ∀ frame ∈ frames, visitFrames another exclusion (framePieces frame) =
      List.flatMap pieces <$> visit scope exclusion frame.node frame.depth frame.entered) :
    visitFrames another exclusion (frames.flatMap framePieces) =
      List.flatMap pieces <$> visitFrames scope exclusion frames := by
  induction frames with
  | nil => rfl
  | cons frame rest ih =>
    have later := ih fun other member => each other (List.mem_cons_of_mem _ member)
    rw [List.flatMap_cons, visitFrames_append, each frame List.mem_cons_self, later, visitFrames]
    simp only [map_bind, bind_map_left, map_pure, List.flatMap_append]

/-- **Visits of spliced selections.** A visit of what stands for a node comes to what stands for the
nodes that a visit of the node comes to, and leaves the same behind. -/
theorem visit_pieces (complete : document.Complete) (frame : Frame)
    (inside : frame.node ∈ document.nodes) :
    visitFrames ((splicedDocument document).scope name limit) exclusion (framePieces frame) =
      List.flatMap pieces <$>
        visit (document.scope name limit) exclusion frame.node frame.depth frame.entered := by
  cases beyond : frame.exceeds (document.scope name limit) with
  | true =>
    have all : ∀ piece ∈ framePieces frame,
        piece.exceeds ((splicedDocument document).scope name limit) = true := by
      intro piece member
      obtain ⟨node, _, rfl⟩ := List.mem_map.mp member
      exact beyond
    have nodes : (framePieces frame).map Frame.node = pieces frame.node := by
      rw [framePieces, List.map_map]
      exact List.map_id _
    rw [visitFrames_beyond exclusion all, visit_beyond exclusion beyond, nodes]
    simp
  | false =>
    have below : visitFrames ((splicedDocument document).scope name limit) exclusion
          ((frame.next (document.scope name limit)).flatMap framePieces) =
        List.flatMap pieces <$> visitFrames (document.scope name limit) exclusion
          (frame.next (document.scope name limit)) :=
      visitFrames_pieces fun child member =>
        visit_pieces complete child
          (Document.mem_nodes_of_leads inside (Frame.leads_of_mem_next member))
    rw [visit_within exclusion beyond]
    cases inline : isInline frame.node with
    | true =>
      rw [framePieces_of_inline inline beyond, below, goesOn_inline complete exclusion inline inside]
      simp
    | false =>
      have same : (spliceFrame frame).exceeds
          ((splicedDocument document).scope name limit) = false := beyond
      have opened := visit_within exclusion same
      rw [goesOn_splice, next_splice inline beyond, below] at opened
      rw [framePieces_of_other inline, visitFrames_singleton, opened, map_bind]
      refine bind_congr fun opens => ?_
      cases opens <;> rfl
termination_by frame.rank (document.scope name limit)
decreasing_by exact Frame.rank_lt_of_mem_next member

/-! ## Documents -/

/-- The violations of an operation are replaced by what stands for them. -/
theorem violations_splice (complete : document.Complete) (exclusion : Exclusion)
    {operation : Node} (indexed : (name, operation) ∈ document.index.operations) :
    ((splicedDocument document).scope name limit).violations exclusion (splice operation) =
      List.flatMap violationPieces <$>
        (document.scope name limit).violations exclusion operation := by
  obtain ⟨_, type, bears, kind, _⟩ := document.index_files.operations _ indexed
  have other : isInline operation = false := by
    unfold isInline
    rw [kind]
  have visited :
      visit ((splicedDocument document).scope name limit) exclusion (splice operation) 0 [] =
        List.flatMap pieces <$> visit (document.scope name limit) exclusion operation 0 [] := by
    rw [← visit_pieces complete ⟨operation, 0, []⟩ (Document.mem_nodes_of_operation indexed),
      framePieces_of_other other, visitFrames_singleton]
    rfl
  rw [violations_eq_visit, violations_eq_visit, visited]
  simp only [map_bind, bind_map_left, map_pure, List.map_flatMap, List.flatMap_map]
  rfl

theorem violations_splicedDocument (complete : document.Complete) (limit : Int)
    (exclusion : Exclusion) :
    (splicedDocument document).violations limit exclusion =
      List.flatMap violationPieces <$> document.violations limit exclusion := by
  have filed : (splicedDocument document).index.operations =
      document.index.operations.map fun entry => (entry.1, splice entry.2) :=
    Document.operations_map splice_slot? document
  rw [Document.violations_eq_flatten, Document.violations_eq_flatten, filed]
  apply Run.mapM_flatten_flatMap
  intro entry indexed
  exact violations_splice complete exclusion indexed

/-- If no inline fragment vanishes, something is reported where something was reported before. -/
theorem flatMap_violationPieces_eq_nil (whole : NoneVanishes document) {found : List Violation}
    (stand : ∀ violation ∈ found, violation.node ∈ document.nodes) :
    found.flatMap violationPieces = [] ↔ found = [] := by
  constructor
  · intro nothing
    apply List.eq_nil_iff_forall_not_mem.mpr
    intro violation member
    have vanishes : violationPieces violation = [] := List.flatMap_eq_nil_iff.mp nothing _ member
    have none : pieces violation.node = [] := List.map_eq_nil_iff.mp vanishes
    cases inline : isInline violation.node with
    | true => exact whole _ (stand violation member) inline none
    | false =>
      rw [pieces_of_other inline] at none
      cases none
  · rintro rfl
    rfl

/-- **Inline fragments are neutral.** If all selections are spliced, each violation is replaced, in
place, by what stands for it: for an inline fragment one violation for each node that it comes to,
and for any other node one at the spliced node. The same questions and events are left behind. This
holds of exclusions that remember what they were asked, too, and where a predicate fails. So as long
as no inline fragment comes to nothing, documents that differ in inline fragments alone stay within
the same limits. -/
theorem splicing_keeps_violations (complete : document.Complete) (limit : Int)
    (exclusion : Exclusion) :
    (splicedDocument document).violations limit exclusion =
      List.flatMap violationPieces <$> document.violations limit exclusion ∧
    (exclusion.Answers → ∀ trace, ∃ found left,
      (document.violations limit exclusion).after trace = (.ok found, left) ∧
      ((splicedDocument document).violations limit exclusion).after trace =
        (.ok (found.flatMap violationPieces), left)) ∧
    (NoneVanishes document → exclusion.Answers → ∀ other : Document, other.Complete →
      NoneVanishes other → splicedDocument other = splicedDocument document →
      ∀ trace, ∃ found foundOther left,
        (document.violations limit exclusion).after trace = (.ok found, left) ∧
        (other.violations limit exclusion).after trace = (.ok foundOther, left) ∧
        (found = [] ↔ foundOther = [])) := by
  have alike := violations_splicedDocument complete limit exclusion
  refine ⟨alike, ?_, ?_⟩
  · intro answers trace
    obtain ⟨found, left, returned⟩ := violations_returns complete answers limit trace
    refine ⟨found, left, returned, ?_⟩
    rw [alike, Run.after_map, returned]
    rfl
  · intro whole answers other completeOther wholeOther same trace
    obtain ⟨found, left, returned⟩ := violations_returns complete answers limit trace
    obtain ⟨foundOther, leftOther, returnedOther⟩ :=
      violations_returns completeOther answers limit trace
    have alikeOther := violations_splicedDocument completeOther limit exclusion
    rw [same, alike] at alikeOther
    have after := congrArg (Run.after · trace) alikeOther
    simp only [Run.after_map, returned, returnedOther] at after
    obtain ⟨pieces, rfl⟩ := Prod.mk.inj after
    have spliced : found.flatMap violationPieces = foundOther.flatMap violationPieces :=
      Except.ok.inj pieces
    refine ⟨found, foundOther, left, returned, returnedOther, ?_⟩
    have stand := violations_findsOnly document limit exclusion _ _ _ returned
    have standOther := violations_findsOnly other limit exclusion _ _ _ returnedOther
    rw [← flatMap_violationPieces_eq_nil whole stand, spliced,
      flatMap_violationPieces_eq_nil wholeOther standOther]

/-- Inline fragments inside of each other, in a query and in a fragment that goes round in itself.
-/
def wrapped : Document where
  definitions := [
    ⟨.operation .query (some "Q"), some [
      ⟨.inlineFragment (some "T"), some [
        ⟨.field none "a", some [
          ⟨.inlineFragment none, some [
            ⟨.inlineFragment none, some [⟨.field none "b", none, none⟩], none⟩,
            ⟨.field none "c", some [⟨.fragmentSpread "F", none, none⟩], none⟩], none⟩], none⟩,
        ⟨.fragmentSpread "F", none, none⟩], none⟩], none⟩,
    ⟨.fragmentDefinition "F" "T", some [
      ⟨.inlineFragment none, some [
        ⟨.fragmentSpread "F", none, none⟩,
        ⟨.field none "d", some [⟨.inlineFragment none, some [⟨.fragmentSpread "F", none, none⟩],
          none⟩], none⟩], none⟩], none⟩]

def everyThird : Predicate where
  respond asked _ := .answers (asked.length % 3 == 2)

/-- What is reported where inline fragments stand inside of each other, and what is reported where
they are spliced, under a predicate that remembers what it was asked. -/
theorem wrapped_splicing_keeps_violations :
    wrapped.Complete ∧ NoneVanishes wrapped ∧ Exclusion.Answers (.predicate everyThird) ∧
    (splicedDocument wrapped).Complete ∧ NoneVanishes (splicedDocument wrapped) ∧
    splicedDocument (splicedDocument wrapped) = splicedDocument wrapped ∧
    (∃ found left,
      (wrapped.violations 0 (.predicate everyThird)).after .empty = (.ok found, left) ∧
      ((splicedDocument wrapped).violations 0 (.predicate everyThird)).after .empty =
        (.ok (found.flatMap violationPieces), left)) ∧
    ∃ found foundSpliced left,
      (wrapped.violations 0 (.predicate everyThird)).after .empty = (.ok found, left) ∧
      ((splicedDocument wrapped).violations 0 (.predicate everyThird)).after .empty =
        (.ok foundSpliced, left) ∧
      (found = [] ↔ foundSpliced = []) := by
  have complete : wrapped.Complete := by decide
  have whole : NoneVanishes wrapped := by decide
  have answers : Exclusion.Answers (.predicate everyThird) := by
    intro asked name interruption
    simp [everyThird]
  have completeSpliced : (splicedDocument wrapped).Complete := by decide
  have wholeSpliced : NoneVanishes (splicedDocument wrapped) := by decide
  have again : splicedDocument (splicedDocument wrapped) = splicedDocument wrapped := rfl
  obtain ⟨_, replaced, accepted⟩ :=
    splicing_keeps_violations complete 0 (.predicate everyThird)
  exact ⟨complete, whole, answers, completeSpliced, wholeSpliced, again, replaced answers .empty,
    accepted whole answers _ completeSpliced wholeSpliced again .empty⟩

end QueryDepth.InlineSplicing
