import Mathlib.Logic.Relation
import QueryDepth.Proofs.DecidedWalk
import QueryDepth.Proofs.Filing

/-! Fragments written out where they are spread. If no fragment reaches itself, every spread of a
known fragment can be replaced by an inline fragment with the selections of the definition. The walk
does the same before and after, only at other nodes: it asks the same questions in the same order,
tells the same events, and reports the nodes that stand in the place of the ones reported before. -/
namespace QueryDepth.SpreadInlining

open RecursiveVisit

variable {fragments : NameTable} {document : Document} {node definition : Node}
  {fragment other : String} {within : List String}

/-! ## Fragments that reach themselves -/

/-- The fragment that a node spreads itself. -/
def spread? (node : Node) : Option String :=
  match node.kind with
  | .fragmentSpread fragment => some fragment
  | .field .. | .inlineFragment _ | .operation .. | .fragmentDefinition .. | .name _ | .scalarType _
  | .typeSystem => none

theorem spread?_eq_some : spread? node = some fragment ↔ node.kind = .fragmentSpread fragment := by
  unfold spread?
  split <;> simp_all

/-- A node spreads a fragment, perhaps deep inside. -/
def Spreads (node : Node) (fragment : String) : Prop :=
  ∃ spread ∈ node.tree, spread? spread = some fragment

/-- A fragment refers to another one if the definition that counts spreads it. -/
def Refers (fragments : NameTable) (fragment other : String) : Prop :=
  ∃ definition, fragments.find? fragment = some definition ∧ Spreads definition other

/-- No fragment reaches itself through spreads. -/
def Acyclic (fragments : NameTable) : Prop :=
  ∀ fragment, ¬ Relation.TransGen (Refers fragments) fragment fragment

/-- A node spreads a fragment or one that reaches it. -/
def Reaches (fragments : NameTable) (node : Node) (fragment : String) : Prop :=
  ∃ first, Spreads node first ∧ Relation.ReflTransGen (Refers fragments) first fragment

theorem reaches_of_spread (spreads : spread? node = some fragment) :
    Reaches fragments node fragment :=
  ⟨fragment, ⟨node, node.self_mem_tree, spreads⟩, .refl⟩

theorem Reaches.of_selected {child : Node} {selections : List Node}
    (opened : node.selections = some selections) (selected : child ∈ selections)
    (reaches : Reaches fragments child fragment) : Reaches fragments node fragment := by
  obtain ⟨first, ⟨spread, below, spreads⟩, path⟩ := reaches
  have inside : spread ∈ node.tree :=
    (Node.mem_tree_of_opened opened).mpr (.inr ⟨child, selected, below⟩)
  exact ⟨first, ⟨spread, inside, spreads⟩, path⟩

/-- A node that spreads nothing itself reaches what it does by way of a selected node. -/
theorem Reaches.exists_selected (unlike : spread? node = none)
    (reaches : Reaches fragments node fragment) :
    ∃ selections child, node.selections = some selections ∧ child ∈ selections ∧
      Reaches fragments child fragment := by
  obtain ⟨first, ⟨spread, below, spreads⟩, path⟩ := reaches
  have proper : spread ≠ node := by
    rintro rfl
    cases unlike.symm.trans spreads
  cases opened : node.selections with
  | none =>
    rw [Node.tree_of_unopened opened, List.mem_singleton] at below
    exact absurd below proper
  | some selections =>
    obtain same | ⟨child, selected, inside⟩ := (Node.mem_tree_of_opened opened).mp below
    · exact absurd same proper
    · exact ⟨selections, child, rfl, selected, first, ⟨spread, inside, spreads⟩, path⟩

theorem Reaches.of_definition (spreads : spread? node = some fragment)
    (known : fragments.find? fragment = some definition)
    (reaches : Reaches fragments definition other) : Reaches fragments node other := by
  obtain ⟨first, spread, path⟩ := reaches
  exact ⟨fragment, ⟨node, node.self_mem_tree, spreads⟩, .head ⟨definition, known, spread⟩ path⟩

theorem Acyclic.not_reaches (acyclic : Acyclic fragments)
    (known : fragments.find? fragment = some definition) :
    ¬ Reaches fragments definition fragment := by
  rintro ⟨first, spreads, path⟩
  exact acyclic fragment (.head' ⟨definition, known, spreads⟩ path)

/-- A fragment does not reach itself if numbers fall along every spread. -/
theorem acyclic_of_rank (rank : String → Nat)
    (falls : ∀ entry ∈ fragments, ∀ spread ∈ entry.2.tree, ∀ other ∈ spread? spread,
      rank other < rank entry.1) : Acyclic fragments := by
  have refers : ∀ fragment other, Refers fragments fragment other → rank other < rank fragment := by
    rintro fragment other ⟨definition, known, spread, below, spreads⟩
    exact falls _ (NameTable.mem_of_find? known) spread below other spreads
  have path : ∀ fragment other, Relation.TransGen (Refers fragments) fragment other →
      rank other < rank fragment := by
    intro fragment other path
    induction path with
    | single step => exact refers _ _ step
    | tail _ step earlier => exact (refers _ _ step).trans earlier
  exact fun fragment circle => Nat.lt_irrefl _ (path fragment fragment circle)

/-- No fragment of a list is reached by a node. -/
def Clear (fragments : NameTable) (within : List String) (node : Node) : Prop :=
  ∀ fragment ∈ within, ¬ Reaches fragments node fragment

theorem clear_nil (fragments : NameTable) (node : Node) : Clear fragments [] node := by
  simp [Clear]

/-- Where nothing is reached that was entered, no fragment is entered again. -/
theorem Clear.fresh (clear : Clear fragments within node) (spreads : spread? node = some fragment) :
    fragment ∉ within :=
  fun entered => clear fragment entered (reaches_of_spread spreads)

theorem Clear.of_selected {child : Node} {selections : List Node}
    (clear : Clear fragments within node) (opened : node.selections = some selections)
    (selected : child ∈ selections) : Clear fragments within child :=
  fun fragment entered reaches => clear fragment entered (reaches.of_selected opened selected)

/-- After entering a fragment, nothing that was entered is reached by its definition. -/
theorem Clear.of_definition (acyclic : Acyclic fragments) (clear : Clear fragments within node)
    (spreads : spread? node = some fragment)
    (known : fragments.find? fragment = some definition) :
    Clear fragments (fragment :: within) definition := by
  intro other entered reaches
  rcases List.mem_cons.mp entered with rfl | earlier
  · exact acyclic.not_reaches known reaches
  · exact clear other earlier (reaches.of_definition spreads known)

/-! ## Writing out -/

def typeCondition? (definition : Node) : Option String :=
  match definition.kind with
  | .fragmentDefinition _ typeCondition => some typeCondition
  | .field .. | .fragmentSpread _ | .inlineFragment _ | .operation .. | .name _ | .scalarType _
  | .typeSystem => none

/-- The inline fragment with the selections of a definition. -/
def inPlace (definition : Node) (location : Option Location) : Node :=
  ⟨.inlineFragment (typeCondition? definition), definition.selections, location⟩

theorem Clear.of_inPlace (acyclic : Acyclic fragments) (clear : Clear fragments within node)
    (spreads : spread? node = some fragment)
    (known : fragments.find? fragment = some definition) (location : Option Location) :
    Clear fragments (fragment :: within) (inPlace definition location) := by
  intro other entered reaches
  obtain ⟨selections, child, opened, selected, lower⟩ := reaches.exists_selected rfl
  exact (clear.of_definition acyclic spreads known) other entered
    (lower.of_selected opened selected)

/-- A node with all spreads of known fragments written out, apart from those of fragments that it is
within already. -/
def inline (fragments : NameTable) (within : List String) (node : Node) : Node :=
  match spread? node with
  | some fragment =>
    match _ : fragments.find? fragment with
    | none => node
    | some definition =>
      if _ : fragment ∈ within then node
      else inline fragments (fragment :: within) (inPlace definition node.location)
  | none =>
    match _ : node.selections with
    | none => node
    | some selections =>
      { node with
        selections := some (selections.attach.map fun child =>
          inline fragments within child.val) }
termination_by (unentered ⟨"", fragments, 0⟩ within, sizeOf node)
decreasing_by
  · exact .left _ _ (unentered_lt ‹_› ‹_›)
  · exact .right _ (Node.sizeOf_lt_of_selected ‹_› child.property)

theorem inline_unknown (spreads : spread? node = some fragment)
    (unknown : fragments.find? fragment = none) : inline fragments within node = node := by
  rw [inline, spreads]
  dsimp only
  split <;> simp_all

theorem inline_known (spreads : spread? node = some fragment)
    (known : fragments.find? fragment = some definition) (fresh : fragment ∉ within) :
    inline fragments within node =
      inline fragments (fragment :: within) (inPlace definition node.location) := by
  rw [inline, spreads]
  dsimp only
  split <;> simp_all

theorem inline_other (unlike : spread? node = none) :
    inline fragments within node =
      { node with selections := node.selections.map (List.map (inline fragments within)) } := by
  rw [inline, unlike]
  obtain ⟨kind, _ | selections, location⟩ := node <;> simp

/-- Where nothing is reached that a node is within, it makes no difference what it is within. -/
theorem inline_eq_of_clear (acyclic : Acyclic fragments) {outside : List String}
    (clear : Clear fragments within node) (clearOutside : Clear fragments outside node) :
    inline fragments within node = inline fragments outside node := by
  induction within, node using inline.induct fragments generalizing outside with
  | case1 within node fragment spreads unknown =>
    rw [inline_unknown spreads unknown, inline_unknown spreads unknown]
  | case2 within node fragment spreads definition known again =>
    exact absurd again (clear.fresh spreads)
  | case3 within node fragment spreads definition known fresh ih =>
    rw [inline_known spreads known fresh, inline_known spreads known (clearOutside.fresh spreads)]
    exact ih (clear.of_inPlace acyclic spreads known _)
      (clearOutside.of_inPlace acyclic spreads known _)
  | case4 within node unlike unopened =>
    rw [inline_other unlike, inline_other unlike, unopened]
    rfl
  | case5 within node unlike selections opened ih =>
    have same : ∀ child ∈ selections,
        inline fragments within child = inline fragments outside child := fun child selected =>
      ih ⟨child, selected⟩ (clear.of_selected opened selected)
        (clearOutside.of_selected opened selected)
    rw [inline_other unlike, inline_other unlike, opened, Option.map_some, Option.map_some,
      List.map_congr_left same]

/-- What it means for nodes to be written out: a spread of a known fragment becomes an inline
fragment with the selections of the definition, written out in turn, a spread of an unknown fragment
stays as it is, and so does every other node, but for what it selects. -/
structure WritesOut (fragments : NameTable) (image : Node → Node) : Prop where
  known : ∀ node fragment definition, spread? node = some fragment →
    fragments.find? fragment = some definition →
      image node = ⟨.inlineFragment (typeCondition? definition),
        definition.selections.map (List.map image), node.location⟩
  unknown : ∀ node fragment, spread? node = some fragment →
    fragments.find? fragment = none → image node = node
  other : ∀ node, spread? node = none →
    image node = { node with selections := node.selections.map (List.map image) }

/-- If no fragment reaches itself, all spreads of known fragments can be written out. -/
theorem writesOut_inline (acyclic : Acyclic fragments) :
    WritesOut fragments (inline fragments []) where
  known node fragment definition spreads known := by
    have clear : Clear fragments [fragment] (inPlace definition node.location) :=
      (clear_nil fragments node).of_inPlace acyclic spreads known _
    rw [inline_known spreads known (by simp), inline_eq_of_clear acyclic clear (clear_nil _ _),
      inline_other rfl]
    rfl
  unknown node fragment spreads unknown := inline_unknown spreads unknown
  other node unlike := inline_other unlike

/-! ## Visits of what is written out -/

/-- What stands for a node of a document once its fragments are written out. -/
def image (document : Document) (node : Node) : Node := inline document.index.fragments [] node

/-- A document with its fragments written out, in operations and in fragments alike. -/
def inlined (document : Document) : Document := ⟨document.definitions.map (image document)⟩

/-- A violation of the document with its fragments written out. -/
def imageViolation (document : Document) (violation : Violation) : Violation :=
  { violation with node := image document violation.node }

/-- The frame that is visited instead. It remembers no fragments, because none are entered. -/
def imageFrame (document : Document) (frame : Frame) : Frame :=
  ⟨image document frame.node, frame.depth, []⟩

variable {exclusion : Exclusion} {name : String} {limit : Int} {frame : Frame}

theorem image_slot? (document : Document) (node : Node) :
    (image document node).slot? = node.slot? := by
  cases spreads : spread? node with
  | none => rw [image, inline_other spreads]; rfl
  | some fragment =>
    have kind := spread?_eq_some.mp spreads
    cases known : document.index.fragments.find? fragment with
    | none => rw [image, inline_unknown spreads known]
    | some definition =>
      rw [image, inline_known spreads known (by simp), inline_other rfl]
      simp [Node.slot?, kind, inPlace]

variable {scope : Scope} {depth : Nat} {entered : List String}

theorem visit_unknown (exclusion : Exclusion) (room : ¬ scope.limit < depth)
    (spreads : spread? node = some fragment) (unknown : scope.fragments.find? fragment = none) :
    visit scope exclusion node depth entered = do
      Run.tell (.unknownFragment fragment scope.operation)
      return [] := by
  rw [visit, if_neg room, spread?_eq_some.mp spreads]
  dsimp only
  split <;> simp_all

theorem visit_known (exclusion : Exclusion) (room : ¬ scope.limit < depth)
    (spreads : spread? node = some fragment)
    (known : scope.fragments.find? fragment = some definition) (fresh : fragment ∉ entered) :
    visit scope exclusion node depth entered =
      visit scope exclusion definition depth (fragment :: entered) := by
  rw [visit, if_neg room, spread?_eq_some.mp spreads]
  dsimp only
  split <;> simp_all

/-- Within the limit, the node in place of a spread is visited like the definition. -/
theorem visit_inPlace (exclusion : Exclusion) (room : ¬ scope.limit < depth)
    {typeCondition : String} (kind : definition.kind = .fragmentDefinition fragment typeCondition)
    (location : Option Location) :
    visit scope exclusion (inPlace definition location) depth entered =
      visit scope exclusion definition depth entered := by
  rw [visit, visit, if_neg room, if_neg room, kind]
  rfl

/-- A node that is no spread is opened alike. -/
theorem goesOn_image (unlike : spread? frame.node = none) :
    (imageFrame document frame).goesOn ((inlined document).scope name limit) exclusion =
      frame.goesOn (document.scope name limit) exclusion := by
  obtain ⟨node, depth, entered⟩ := frame
  obtain ⟨kind, selections, location⟩ := node
  simp only [imageFrame, image, inline_other unlike, Frame.goesOn]
  cases kind <;> simp_all [spread?]

/-- Within the limit, it leads to the frames that stand for the ones it led to. -/
theorem next_image (unlike : spread? frame.node = none)
    (within : frame.exceeds (document.scope name limit) = false) :
    (imageFrame document frame).next ((inlined document).scope name limit) =
      (frame.next (document.scope name limit)).map (imageFrame document) := by
  have same : (imageFrame document frame).exceeds ((inlined document).scope name limit) = false :=
    within
  have written : (imageFrame document frame).node =
      { frame.node with selections := frame.node.selections.map (List.map (image document)) } :=
    inline_other unlike
  have selected : (imageFrame document frame).selected =
      frame.selected.map (image document) := by
    rw [Frame.selected, Frame.selected, written]
    cases frame.node.selections <;> rfl
  unfold Frame.next
  rw [within, same, written, selected]
  cases kind : frame.node.kind <;> simp_all [imageFrame, spread?]

/-- Whatever a frame leads to reaches no fragment that was entered on the way, if the frame does
not. -/
theorem clear_of_mem_next {child : Frame} {scope : Scope} (acyclic : Acyclic scope.fragments)
    (clear : Clear scope.fragments frame.entered frame.node) (member : child ∈ frame.next scope) :
    Clear scope.fragments child.entered child.node := by
  unfold Frame.next at member
  split at member
  · contradiction
  · cases kind : frame.node.kind <;> simp only [kind] at member
    case field =>
      obtain ⟨node, _, rfl⟩ := List.mem_map.mp member
      exact clear_nil _ _
    case fragmentSpread fragment =>
      obtain ⟨definition, found, rfl⟩ := List.mem_map.mp member
      have known : scope.fragments.find? fragment = some definition := by
        unfold Frame.definition? at found
        split at found
        · cases found
        · exact Option.mem_toList.mp found
      exact clear.of_definition acyclic (spread?_eq_some.mpr kind) known
    case inlineFragment | operation | fragmentDefinition =>
      obtain ⟨node, selected, rfl⟩ := List.mem_map.mp member
      obtain ⟨selections, opened, selected⟩ := Frame.exists_of_mem_selected selected
      exact clear.of_selected opened selected
    all_goals contradiction

/-- A spread of a known fragment leads to its definition, unless the fragment was entered. -/
theorem mem_next_of_known (within : frame.exceeds scope = false)
    (spreads : spread? frame.node = some fragment)
    (known : scope.fragments.find? fragment = some definition) (fresh : fragment ∉ frame.entered) :
    ⟨definition, frame.depth, fragment :: frame.entered⟩ ∈ frame.next scope := by
  have found : frame.definition? scope fragment = some definition := by
    simp [Frame.definition?, fresh, known]
  rw [Frame.next, within, spread?_eq_some.mp spreads]
  simp [found]

/-- Within the limit, what stands for a spread of a known fragment is visited like what stands for
the definition. -/
theorem visit_image_known (acyclic : Acyclic document.index.fragments) (exclusion : Exclusion)
    (room : ¬ scope.limit < depth) (spreads : spread? node = some fragment)
    (known : document.index.fragments.find? fragment = some definition) :
    visit scope exclusion (image document node) depth entered =
      visit scope exclusion (image document definition) depth entered := by
  obtain ⟨typeCondition, kind⟩ := Document.exists_kind_of_known known
  have written : image document definition = { definition with
      selections := definition.selections.map (List.map (image document)) } :=
    inline_other (by simp [spread?, kind])
  have placed : image document node = inPlace (image document definition) node.location := by
    rw [written]
    exact (writesOut_inline acyclic).known node fragment definition spreads known
  have kindWritten : (image document definition).kind = definition.kind := by rw [written]
  rw [placed, visit_inPlace exclusion room (kindWritten.trans kind)]

/-- **Visits of what is written out.** A visit of the node that stands for a node comes to the nodes
that stand for what a visit of the node comes to, and leaves the same behind. -/
theorem visit_image (acyclic : Acyclic document.index.fragments) (frame : Frame)
    (clear : Clear document.index.fragments frame.entered frame.node) :
    visit ((inlined document).scope name limit) exclusion (image document frame.node)
        frame.depth [] =
      List.map (image document) <$>
        visit (document.scope name limit) exclusion frame.node frame.depth frame.entered := by
  have same : (imageFrame document frame).exceeds ((inlined document).scope name limit) =
      frame.exceeds (document.scope name limit) := rfl
  cases beyond : frame.exceeds (document.scope name limit) with
  | true =>
    rw [visit_beyond exclusion beyond]
    exact visit_beyond exclusion (same.trans beyond)
  | false =>
    have room : ¬ (document.scope name limit).limit < frame.depth := by
      simpa [Frame.exceeds] using beyond
    have roomInlined : ¬ ((inlined document).scope name limit).limit < frame.depth := room
    cases spreads : spread? frame.node with
    | none =>
      have opened := visit_within exclusion (same.trans beyond)
      have below : visitFrames ((inlined document).scope name limit) exclusion
            ((frame.next (document.scope name limit)).map (imageFrame document)) =
          List.map (image document) <$>
            visitFrames (document.scope name limit) exclusion
              (frame.next (document.scope name limit)) := by
        rw [visitFrames_eq_flatten, visitFrames_eq_flatten]
        exact Run.mapM_flatten_map fun child member =>
          visit_image acyclic child (clear_of_mem_next acyclic clear member)
      rw [goesOn_image spreads, next_image spreads beyond, below] at opened
      refine opened.trans ?_
      rw [visit_within exclusion beyond, map_bind]
      refine bind_congr fun opens => ?_
      cases opens <;> rfl
    | some fragment =>
      cases known : document.index.fragments.find? fragment with
      | none =>
        have unknown : (inlined document).index.fragments.find? fragment = none := by
          rw [inlined, Document.find?_fragments_map (image_slot? document), known, Option.map_none]
        rw [image, inline_unknown spreads known,
          visit_unknown exclusion roomInlined spreads unknown,
          visit_unknown exclusion room spreads known]
        rfl
      | some definition =>
        have fresh := clear.fresh spreads
        have led := mem_next_of_known beyond spreads known fresh
        rw [visit_image_known acyclic exclusion roomInlined spreads known,
          visit_known exclusion room spreads known fresh]
        exact visit_image acyclic ⟨definition, frame.depth, fragment :: frame.entered⟩
          (clear_of_mem_next acyclic clear led)
termination_by frame.rank (document.scope name limit)
decreasing_by
  · exact Frame.rank_lt_of_mem_next member
  · exact Frame.rank_lt_of_mem_next led

theorem violations_image (acyclic : Acyclic document.index.fragments) (exclusion : Exclusion)
    (operation : Node) :
    ((inlined document).scope name limit).violations exclusion (image document operation) =
      List.map (imageViolation document) <$>
        (document.scope name limit).violations exclusion operation := by
  rw [violations_eq_visit, violations_eq_visit,
    visit_image acyclic ⟨operation, 0, []⟩ (clear_nil _ _)]
  simp only [map_bind, bind_map_left, map_pure, List.map_map]
  rfl

theorem violations_inlined (acyclic : Acyclic document.index.fragments) (limit : Int)
    (exclusion : Exclusion) :
    (inlined document).violations limit exclusion =
      List.map (imageViolation document) <$> document.violations limit exclusion := by
  have filed : (inlined document).index.operations =
      document.index.operations.map fun entry => (entry.1, image document entry.2) :=
    Document.operations_map (image_slot? document) document
  rw [Document.violations_eq_flatten, Document.violations_eq_flatten, filed]
  exact Run.mapM_flatten_map fun entry _ => violations_image acyclic exclusion entry.2

/-- **Spreads are as good as what they spread.** If no fragment reaches itself, fragments can be
written out everywhere. The violations are then the same ones in the same order, each at the node
that stands for the one where it was, and the same questions and events are left behind. This holds
of exclusions that remember what they were asked, too, and where a predicate fails. -/
theorem inlining_keeps_violations (complete : document.Complete)
    (acyclic : Acyclic document.index.fragments) (limit : Int) (exclusion : Exclusion) :
    WritesOut document.index.fragments (image document) ∧
    (inlined document).violations limit exclusion =
      List.map (imageViolation document) <$> document.violations limit exclusion ∧
    (exclusion.Answers → ∀ trace, ∃ found left,
      (document.violations limit exclusion).after trace = (.ok found, left) ∧
      ((inlined document).violations limit exclusion).after trace =
        (.ok (found.map (imageViolation document)), left)) := by
  have alike := violations_inlined acyclic limit exclusion
  refine ⟨writesOut_inline acyclic, alike, fun answers trace => ?_⟩
  obtain ⟨found, left, returned⟩ := violations_returns complete answers limit trace
  refine ⟨found, left, returned, ?_⟩
  rw [alike, map_eq_pure_bind, Run.after_bind, returned]
  rfl

/-- A fragment that is spread twice and refers to another one, next to an unknown one. -/
def sharing : Document where
  definitions := [
    ⟨.fragmentDefinition "G" "T", some [
      ⟨.field none "c", some [⟨.field none "d", none, none⟩], none⟩], none⟩,
    ⟨.operation .query (some "Q"), some [
      ⟨.fragmentSpread "F", none, none⟩,
      ⟨.field none "b", some [⟨.fragmentSpread "F", none, none⟩], none⟩,
      ⟨.fragmentSpread "U", none, none⟩], none⟩,
    ⟨.fragmentDefinition "F" "T", some [
      ⟨.field none "a", some [⟨.fragmentSpread "G", none, none⟩], none⟩,
      ⟨.fragmentSpread "G", none, none⟩], none⟩]

/-- A predicate that answers every other question and fails at the ones between. -/
def moody : Predicate where
  respond asked _ := if asked.length % 2 = 0 then .answers false else .fails "not again"

/-- What is reported for a fragment that is shared, and what is reported where it is written out,
under a predicate that remembers what it was asked. -/
theorem sharing_keeps_violations :
    sharing.Complete ∧ Acyclic sharing.index.fragments ∧ Exclusion.Answers (.predicate moody) ∧
    ∃ found left,
      (sharing.violations 0 (.predicate moody)).after .empty = (.ok found, left) ∧
      ((inlined sharing).violations 0 (.predicate moody)).after .empty =
        (.ok (found.map (imageViolation sharing)), left) := by
  have complete : sharing.Complete := by decide
  have acyclic : Acyclic sharing.index.fragments :=
    acyclic_of_rank (fun fragment => if fragment = "F" then 1 else 0) (by decide)
  have answers : Exclusion.Answers (.predicate moody) := by
    intro asked name interruption
    dsimp only [moody]
    split <;> simp
  obtain ⟨_, _, returned⟩ := inlining_keeps_violations complete acyclic 0 (.predicate moody)
  exact ⟨complete, acyclic, answers, returned answers .empty⟩

end QueryDepth.SpreadInlining
