import Mathlib.Data.List.Forall2
import QueryDepth.Proofs.DecidedWalk
import QueryDepth.Proofs.Filing
import QueryDepth.Proofs.WalkTermination
import QueryDepth.Rule.Basic

/-! Names and nesting alone decide about a document. Its outline is what is left without the names
under which fields are answered, the types to which fragments apply, the types of operations, and
the places in the text. Documents with one outline are visited alike: the same questions are asked,
the same events are told, and the violations stand at the same places. -/
namespace QueryDepth

/-! ## Outlines and places -/

/-- The kind of a node in an outline. -/
def NodeKind.outline : NodeKind → NodeKind
  | .field _ text => .field none text
  | .inlineFragment _ => .inlineFragment none
  | .operation _ text => .operation .query text
  | .fragmentDefinition text _ => .fragmentDefinition text ""
  | .fragmentSpread text => .fragmentSpread text
  | .name text => .name text
  | .scalarType text => .scalarType text
  | .typeSystem => .typeSystem

mutual

/-- The outline of a node: its name, and the outlines of the nodes that it selects. -/
def Node.outline : Node → Node
  | ⟨kind, none, _⟩ => ⟨kind.outline, none, none⟩
  | ⟨kind, some selections, _⟩ => ⟨kind.outline, some (outlineAll selections), none⟩

def outlineAll : List Node → List Node
  | [] => []
  | node :: rest => node.outline :: outlineAll rest

end

def Document.outline (document : Document) : Document := ⟨document.definitions.map Node.outline⟩

/-- The kind of a field that is answered under another name, or again under its own. -/
def NodeKind.answeredUnder (responseName : Option String) : NodeKind → NodeKind
  | .field _ text => .field responseName text
  | kind => kind

mutual

/-- A node in which every field is answered under a name that is chosen for it. -/
def Node.answered (choose : Node → Option String) : Node → Node
  | ⟨kind, none, location⟩ =>
    ⟨kind.answeredUnder (choose ⟨kind, none, location⟩), none, location⟩
  | ⟨kind, some selections, location⟩ =>
    ⟨kind.answeredUnder (choose ⟨kind, some selections, location⟩),
      some (answeredAll choose selections), location⟩

def answeredAll (choose : Node → Option String) : List Node → List Node
  | [] => []
  | node :: rest => node.answered choose :: answeredAll choose rest

end

def Document.answered (choose : Node → Option String) (document : Document) : Document :=
  ⟨document.definitions.map (Node.answered choose)⟩

/-- A place in a document: in which definition, and which selection to take on each level down. -/
structure Place where
  definition : Nat
  below : List Nat
  deriving DecidableEq, Repr

def Place.child (place : Place) (index : Nat) : Place :=
  ⟨place.definition, place.below ++ [index]⟩

/-- The selection of a node with a given number. -/
def Node.selection? (node : Node) (index : Nat) : Option Node := (node.selections.getD [])[index]?

/-- The node that is reached by taking selections one after the other. -/
def Node.at? : List Nat → Node → Option Node
  | [], node => some node
  | index :: below, node => (node.selection? index).bind (Node.at? below)

def Document.at? (document : Document) (place : Place) : Option Node :=
  (document.definitions[place.definition]?).bind (Node.at? place.below)

/-- Where a violation was seen: in which operation, and at which place. -/
structure Sighting where
  operation : String
  place : Place
  deriving DecidableEq, Repr

/-- What is seen of a violation. -/
def Violation.seen (violation : Violation) : String × Int × Option Node :=
  (violation.operation, violation.limit, some violation.node)

/-- What is to be seen of a violation at a place of a document. -/
def Document.seen (document : Document) (limit : Int) (sighting : Sighting) :
    String × Int × Option Node :=
  (sighting.operation, limit, document.at? sighting.place)

variable {document other : Document} {node : Node} {frame : Frame} {place : Place} {name : String}
  {limit : Int} {exclusion : Exclusion}

theorem outlineAll_eq_map (nodes : List Node) : outlineAll nodes = nodes.map Node.outline := by
  induction nodes with
  | nil => rfl
  | cons node rest ih => rw [outlineAll, ih, List.map_cons]

theorem Node.outline_eq (node : Node) : node.outline =
    ⟨node.kind.outline, node.selections.map (List.map Node.outline), none⟩ := by
  obtain ⟨kind, _ | selections, location⟩ := node <;> simp [Node.outline, outlineAll_eq_map]

@[simp] theorem Node.outline_kind (node : Node) : node.outline.kind = node.kind.outline := by
  rw [Node.outline_eq]

@[simp] theorem Node.outline_selections (node : Node) :
    node.outline.selections = node.selections.map (List.map Node.outline) := by
  rw [Node.outline_eq]

@[simp] theorem Node.outline_slot? (node : Node) : node.outline.slot? = node.slot? := by
  simp only [Node.slot?, Node.outline_kind]
  cases node.kind <;> rfl

theorem NodeKind.outline_answeredUnder (responseName : Option String) (kind : NodeKind) :
    (kind.answeredUnder responseName).outline = kind.outline := by
  cases kind <;> rfl

mutual

/-- The names under which fields are answered make no difference to the outline. -/
theorem Node.outline_answered (choose : Node → Option String) :
    ∀ node : Node, (node.answered choose).outline = node.outline
  | ⟨kind, none, location⟩ => by
    rw [Node.answered, Node.outline, Node.outline, NodeKind.outline_answeredUnder]
  | ⟨kind, some selections, location⟩ => by
    rw [Node.answered, Node.outline, Node.outline, NodeKind.outline_answeredUnder,
      outlineAll_answeredAll choose selections]

theorem outlineAll_answeredAll (choose : Node → Option String) :
    ∀ nodes : List Node, outlineAll (answeredAll choose nodes) = outlineAll nodes
  | [] => rfl
  | node :: rest => by
    rw [answeredAll, outlineAll, outlineAll, node.outline_answered choose,
      outlineAll_answeredAll choose rest]

end

theorem Node.selection?_outline (node : Node) (index : Nat) :
    node.outline.selection? index = (node.selection? index).map Node.outline := by
  rw [selection?, selection?, Node.outline_selections]
  cases node.selections <;> simp

theorem Node.at?_outline (below : List Nat) (node : Node) :
    node.outline.at? below = (node.at? below).map Node.outline := by
  induction below generalizing node with
  | nil => rfl
  | cons index below ih =>
    rw [at?, at?, selection?_outline]
    cases node.selection? index with
    | none => rfl
    | some child => exact ih child

/-- In the outline the outline of a node stands at its place. -/
theorem Document.at?_outline (document : Document) (place : Place) :
    document.outline.at? place = (document.at? place).map Node.outline := by
  simp only [at?, outline, List.getElem?_map]
  cases document.definitions[place.definition]? with
  | none => rfl
  | some definition => exact definition.at?_outline place.below

theorem Node.at?_append (below : List Nat) (index : Nat) (node : Node) :
    node.at? (below ++ [index]) = (node.at? below).bind (Node.selection? · index) := by
  induction below generalizing node with
  | nil => simp [at?]
  | cons first below ih =>
    rw [List.cons_append, at?, at?]
    cases node.selection? first with
    | none => rfl
    | some child => exact ih child

/-- The selections of a node stand below its place. -/
theorem Document.at?_child (stands : document.at? place = some node) (index : Nat) :
    document.at? (place.child index) = node.selection? index := by
  simp only [at?, Place.child] at stands ⊢
  cases defined : document.definitions[place.definition]? with
  | none => simp [defined] at stands
  | some definition =>
    rw [defined, Option.bind_some] at stands
    rw [Option.bind_some, Node.at?_append, stands, Option.bind_some]

/-! ## The same places -/

namespace Document

/-- The place of the definition that counts for a slot. -/
def placeInForce? (document : Document) (slot : Slot) : Option Place :=
  ((document.definitions.zipIdx.filter fun entry => entry.1.slot? = some slot).getLast?).map
    fun entry => ⟨entry.2, []⟩

/-- The operations of a document with their places, in the order in which they are checked. -/
def operationSightings (document : Document) : List Sighting :=
  document.operationKeys.filterMap fun key =>
    (document.placeInForce? (.operation key)).map fun place => ⟨key, place⟩

theorem placeInForce?_outline (document : Document) (slot : Slot) :
    document.outline.placeInForce? slot = document.placeInForce? slot := by
  simp only [placeInForce?, outline, List.zipIdx_map, List.filter_map, List.getLast?_map,
    Option.map_map]
  congr 3
  funext entry
  simp

theorem operationSightings_outline (document : Document) :
    document.outline.operationSightings = document.operationSightings := by
  have keys : document.outline.operationKeys = document.operationKeys :=
    operationKeys_map Node.outline_slot? document
  simp only [operationSightings, keys, placeInForce?_outline]

/-- If a definition counts for a slot, it stands at the place for it. -/
theorem inForce?_cases (document : Document) (slot : Slot) :
    (document.inForce? slot = none ∧ document.placeInForce? slot = none) ∨
      ∃ definition place, document.inForce? slot = some definition ∧
        document.placeInForce? slot = some place ∧ document.at? place = some definition := by
  let filed := document.definitions.zipIdx.filter fun entry => entry.1.slot? = some slot
  have inForce : document.inForce? slot = filed.getLast?.map Prod.fst := by
    have nodes : document.filedUnder slot = filed.map Prod.fst := by
      conv_lhs => rw [filedUnder, ← List.zipIdx_map_fst 0 document.definitions, List.filter_map]
      rfl
    rw [inForce?, nodes, List.getLast?_map]
  have place : document.placeInForce? slot = filed.getLast?.map fun entry => ⟨entry.2, []⟩ := rfl
  cases last : filed.getLast? with
  | none => exact .inl ⟨by rw [inForce, last, Option.map_none], by rw [place, last, Option.map_none]⟩
  | some entry =>
    have member := (List.mem_filter.mp (List.mem_of_getLast? last)).1
    have stands : document.definitions[entry.2]? = some entry.1 :=
      List.mem_zipIdx_iff_getElem?.mp member
    refine .inr ⟨entry.1, ⟨entry.2, []⟩, by rw [inForce, last]; rfl, by rw [place, last]; rfl, ?_⟩
    simp [at?, stands, Node.at?]

theorem operations_sighted (document : Document) :
    List.Forall₂ (fun (entry : String × Node) (sighting : Sighting) =>
      entry.1 = sighting.operation ∧ document.at? sighting.place = some entry.2)
      document.index.operations document.operationSightings := by
  rw [NameTable.eq_filterMap_find? document.index_files.distinct, names_operations,
    operationSightings]
  induction document.operationKeys with
  | nil => exact .nil
  | cons key rest ih =>
    rw [List.filterMap_cons, List.filterMap_cons, find?_operations]
    rcases document.inForce?_cases (.operation key) with ⟨none, nowhere⟩ | ⟨_, _, some, place, at_⟩
    · rw [none, nowhere]
      exact ih
    · rw [some, place]
      exact .cons ⟨rfl, at_⟩ ih

end Document

/-- A frame, by the place of its node. -/
structure Sight where
  place : Place
  depth : Nat
  entered : List String

/-- A frame that is the one sighted in a document. -/
structure Sight.Shows (document : Document) (frame : Frame) (sight : Sight) : Prop where
  stands : document.at? sight.place = some frame.node
  depth : frame.depth = sight.depth
  entered : frame.entered = sight.entered

/-- What a frame leads to, by the places of the nodes. -/
def Sight.next (document : Document) (node : Node) (sight : Sight) : List Sight :=
  let below := (List.range (node.selections.getD []).length).map sight.place.child
  match node.kind with
  | .field .. => below.map fun place => ⟨place, sight.depth + 1, []⟩
  | .fragmentSpread fragment =>
    if sight.entered.contains fragment then []
    else (document.placeInForce? (.fragment fragment)).toList.map fun place =>
      ⟨place, sight.depth, fragment :: sight.entered⟩
  | .inlineFragment _ | .fragmentDefinition .. | .operation .. =>
    below.map fun place => ⟨place, sight.depth, sight.entered⟩
  | .name _ | .scalarType _ | .typeSystem => []

theorem Sight.next_outline (document : Document) (node : Node) (sight : Sight) :
    sight.next document.outline node.outline = sight.next document node := by
  have count : (node.outline.selections.getD []).length = (node.selections.getD []).length := by
    rw [Node.outline_selections]
    cases node.selections <;> simp
  unfold next
  rw [count, Node.outline_kind]
  cases node.kind <;> simp only [NodeKind.outline, Document.placeInForce?_outline]

theorem selections_sighted (stands : document.at? place = some node) :
    List.Forall₂ (fun child place => document.at? place = some child) (node.selections.getD [])
      ((List.range (node.selections.getD []).length).map place.child) := by
  refine List.forall₂_iff_get.mpr ⟨by simp, fun index inside _ => ?_⟩
  simp only [List.get_eq_getElem, List.getElem_map, List.getElem_range]
  rw [Document.at?_child stands, Node.selection?, List.getElem?_eq_getElem inside]

/-- Whatever a frame leads to within the limit is sighted. -/
theorem Sight.next_shows {sight : Sight} (shows : sight.Shows document frame)
    (within : frame.exceeds (document.scope name limit) = false) :
    List.Forall₂ (Sight.Shows document) (frame.next (document.scope name limit))
      (sight.next document frame.node) := by
  obtain ⟨stands, depth, entered⟩ := shows
  have below := selections_sighted stands
  unfold Frame.next next
  rw [within]
  cases frame.node.kind with
  | field =>
    refine List.forall₂_map_left_iff.mpr (List.forall₂_map_right_iff.mpr (below.imp ?_))
    intro child place stands
    exact ⟨stands, by simp only [depth], rfl⟩
  | fragmentSpread fragment =>
    have known := document.find?_fragments fragment
    simp only [Frame.definition?, Document.scope, known, entered, Bool.false_eq_true, if_false]
    split
    · exact .nil
    · rcases document.inForce?_cases (.fragment fragment) with
        ⟨none, nowhere⟩ | ⟨definition, place, inForce, here, there⟩
      · rw [none, nowhere]
        exact .nil
      · rw [inForce, here]
        exact .cons ⟨there, depth, rfl⟩ .nil
  | inlineFragment | operation | fragmentDefinition =>
    refine List.forall₂_map_left_iff.mpr (List.forall₂_map_right_iff.mpr (below.imp ?_))
    intro child place stands
    exact ⟨stands, depth, entered⟩
  | name | scalarType | typeSystem => exact .nil

/-- The walk goes on from a node as it goes on from its outline. -/
theorem Frame.goesOn_outline (exclusion : Exclusion) (frame : Frame) :
    Frame.goesOn { frame with node := frame.node.outline } (document.outline.scope name limit)
      exclusion = frame.goesOn (document.scope name limit) exclusion := by
  have known : ∀ fragment, (document.outline.index.fragments.find? fragment).isNone =
      (document.index.fragments.find? fragment).isNone := by
    intro fragment
    rw [Document.outline, Document.find?_fragments_map Node.outline_slot?, Option.isNone_map]
  unfold Frame.goesOn
  simp only [Document.scope, Node.outline_kind, Node.outline_selections, Option.isNone_map]
  cases frame.node.kind with
  | fragmentSpread fragment =>
    simp only [NodeKind.outline, known]
    rfl
  | field | inlineFragment | operation | fragmentDefinition | name | scalarType | typeSystem => rfl

/-! ## The same visits -/

/-- Lists that are computed one after the other look alike if they do so one by one. -/
theorem Run.flatten_alike {α β γ δ ε : Type} {items : List α} {others : List β}
    {action : α → Run (List γ)} {another : β → Run (List δ)} {show₁ : γ → ε} {show₂ : δ → ε}
    (each : List.Forall₂ (fun item other =>
      List.map show₁ <$> action item = List.map show₂ <$> another other) items others) :
    List.map show₁ <$> (do return (← items.mapM action).flatten : Run (List γ)) =
      List.map show₂ <$> (do return (← others.mapM another).flatten : Run (List δ)) := by
  induction each with
  | nil => rfl
  | @cons item other items others alike _ ih =>
    have apart : ∀ {κ : Type} (look : κ → ε) (first rest : Run (List κ)),
        List.map look <$> (do
          let found ← first
          let later ← rest
          return found ++ later) = do
            let found ← List.map look <$> first
            let later ← List.map look <$> rest
            return found ++ later := by
      intro κ look first rest
      simp only [map_bind, bind_map_left, map_pure, List.map_append]
    rw [mapM_flatten_cons, mapM_flatten_cons, apart, apart, alike, ih]

/-- What stands on the right side of related lists has something beside it on the left. -/
theorem exists_beside {α β : Type} {related : α → β → Prop} {items : List α} {others : List β}
    (beside : List.Forall₂ related items others) {other : β} (member : other ∈ others) :
    ∃ item ∈ items, related item other := by
  induction beside with
  | nil => cases member
  | cons here _ ih =>
    rcases List.mem_cons.mp member with rfl | later
    · exact ⟨_, List.mem_cons_self, here⟩
    · obtain ⟨item, left, there⟩ := ih later
      exact ⟨item, List.mem_cons_of_mem _ left, there⟩

/-- Nodes at one place of documents with one outline have one outline. -/
theorem outline_eq_of_at? {first second : Node} (same : other.outline = document.outline)
    (here : document.at? place = some first) (there : other.at? place = some second) :
    second.outline = first.outline := by
  have both : other.outline.at? place = document.outline.at? place := by rw [same]
  rw [Document.at?_outline, Document.at?_outline, here, there] at both
  exact Option.some.inj both

/-- Frames that are sighted alike in documents with one outline lead on alike. -/
theorem Sight.shows_alike {sight : Sight} {first second : Frame}
    (same : other.outline = document.outline) (here : sight.Shows document first)
    (there : sight.Shows other second) (name : String) (limit : Int) (exclusion : Exclusion) :
    second.exceeds (other.scope name limit) = first.exceeds (document.scope name limit) ∧
      second.goesOn (other.scope name limit) exclusion =
        first.goesOn (document.scope name limit) exclusion ∧
      sight.next other second.node = sight.next document first.node := by
  have outline := outline_eq_of_at? same here.stands there.stands
  refine ⟨?_, ?_, ?_⟩
  · simp only [Frame.exceeds, Document.scope, there.depth, here.depth]
  · rw [← Frame.goesOn_outline exclusion second, ← Frame.goesOn_outline exclusion first, outline,
      same, there.depth, there.entered, here.depth, here.entered]
  · rw [← Sight.next_outline other, ← Sight.next_outline document, outline, same]

open RecursiveVisit

/-- **Visits go by the outline.** From a place on, a visit finds the same places in all documents
with one outline, and it leaves the same behind. -/
theorem exists_places (exclusion : Exclusion) (frame : Frame) {sight : Sight}
    (here : sight.Shows document frame) :
    ∃ places : Run (List Place), ∀ other : Document, other.outline = document.outline →
      ∀ shown, sight.Shows other shown →
        List.map some <$> visit (other.scope name limit) exclusion shown.node shown.depth
            shown.entered = List.map other.at? <$> places := by
  cases beyond : frame.exceeds (document.scope name limit) with
  | true =>
    refine ⟨pure [sight.place], fun other same shown there => ?_⟩
    obtain ⟨exceeds, -, -⟩ := Sight.shows_alike same here there name limit exclusion
    rw [visit_beyond exclusion (exceeds.trans beyond), map_pure, map_pure, List.map_singleton,
      List.map_singleton, there.stands]
  | false =>
    have each : ∀ step ∈ sight.next document frame.node, ∃ places : Run (List Place),
        ∀ other : Document, other.outline = document.outline → ∀ shown, step.Shows other shown →
          List.map some <$> visit (other.scope name limit) exclusion shown.node shown.depth
              shown.entered = List.map other.at? <$> places := by
      intro step member
      obtain ⟨child, led, shows⟩ := exists_beside (Sight.next_shows here beyond) member
      exact exists_places exclusion child shows
    choose! places located using each
    refine ⟨do
      if ← frame.goesOn (document.scope name limit) exclusion then
        return (← (sight.next document frame.node).mapM places).flatten
      else return [], fun other same shown there => ?_⟩
    obtain ⟨exceeds, goesOn, next⟩ := Sight.shows_alike same here there name limit exclusion
    have within := exceeds.trans beyond
    have below := Sight.next_shows there within
    rw [next] at below
    rw [visit_within exclusion within, goesOn, map_bind, map_bind]
    refine bind_congr fun opens => ?_
    cases opens with
    | false => rfl
    | true =>
      simp only [if_true]
      rw [visitFrames_eq_flatten]
      refine Run.flatten_alike (List.forall₂_iff_zip.mpr ⟨below.length_eq, fun pair => ?_⟩)
      have step := (List.of_mem_zip pair).2
      exact located _ step other same _ ((List.forall₂_iff_zip.mp below).2 pair)
termination_by frame.rank (document.scope name limit)
decreasing_by exact Frame.rank_lt_of_mem_next led

/-- The violations of documents with one outline are seen at the same places. -/
theorem exists_sightings (document : Document) (limit : Int) (exclusion : Exclusion) :
    ∃ sightings : Run (List Sighting), ∀ other : Document, other.outline = document.outline →
      List.map Violation.seen <$> other.violations limit exclusion =
        List.map (other.seen limit) <$> sightings := by
  have each : ∀ sighting ∈ document.operationSightings, ∃ places : Run (List Place),
      ∀ other : Document, other.outline = document.outline →
        ∀ operation, other.at? sighting.place = some operation →
          List.map some <$> visit (other.scope sighting.operation limit) exclusion operation 0 [] =
            List.map other.at? <$> places := by
    intro sighting member
    obtain ⟨⟨_, operation⟩, _, _, stands⟩ := exists_beside document.operations_sighted member
    have shows : Sight.Shows document ⟨operation, 0, []⟩ ⟨sighting.place, 0, []⟩ :=
      ⟨stands, rfl, rfl⟩
    obtain ⟨places, located⟩ := exists_places exclusion ⟨operation, 0, []⟩ shows
    exact ⟨places, fun other same operation there =>
      located other same ⟨operation, 0, []⟩ ⟨there, rfl, rfl⟩⟩
  choose! places located using each
  refine ⟨do return (← document.operationSightings.mapM fun sighting =>
    List.map (⟨sighting.operation, ·⟩) <$> places sighting).flatten, fun other same => ?_⟩
  have sightings : other.operationSightings = document.operationSightings := by
    rw [← Document.operationSightings_outline other, same, Document.operationSightings_outline]
  have sighted := other.operations_sighted
  rw [sightings] at sighted
  rw [Document.violations_eq_flatten]
  refine Run.flatten_alike (List.forall₂_iff_zip.mpr
    ⟨sighted.length_eq, fun {entry sighting} pair => ?_⟩)
  obtain ⟨called, there⟩ := (List.forall₂_iff_zip.mp sighted).2 pair
  have found := located sighting (List.of_mem_zip pair).2 other same entry.2 there
  rw [violations_eq_visit, called]
  -- On both sides the nodes are labelled with the operation and the limit once they are found.
  have labelled := congrArg
    (List.map (fun shown => (sighting.operation, limit, shown)) <$> ·) found
  simp only [map_bind, map_pure, List.map_map, Functor.map_map] at labelled ⊢
  exact labelled

theorem operations_alike (same : other.outline = document.outline) (limit : Int)
    (exclusion : Exclusion) :
    List.map Violation.operation <$> other.violations limit exclusion =
      List.map Violation.operation <$> document.violations limit exclusion := by
  obtain ⟨sightings, located⟩ := exists_sightings document limit exclusion
  have called : ∀ alike : Document, alike.outline = document.outline →
      List.map Violation.operation <$> alike.violations limit exclusion =
        List.map Sighting.operation <$> sightings := by
    intro alike same
    have named := congrArg (List.map Prod.fst <$> ·) (located alike same)
    simp only [Functor.map_map, List.map_map] at named
    exact named
  rw [called other same, called document rfl]

namespace DepthRule

/-- What a search for violations leaves behind, once the check that it is for has been counted. -/
def concluded (rule : DepthRule) : Except Failure (List String) × Trace → Trace
  | (.ok operations, left) =>
    { left with
      metrics := left.metrics.record operations
      events :=
        if operations.isEmpty then left.events
        else .rejected operations.eraseDups.mergeSort rule.limit :: left.events }
  | (.error _, left) => left

/-- What a check leaves behind goes by the operations of the violations. -/
theorem check_leaves (rule : DepthRule) (document : Document) (trace : Trace) :
    ((rule.check document).after trace).2 = rule.concluded
      ((List.map Violation.operation <$>
        document.violations rule.limit rule.exclusion).after trace) := by
  rw [check_after, Run.after_map]
  rcases (document.violations rule.limit rule.exclusion).after trace with ⟨failure | found, left⟩
  · rfl
  · simp only [Except.map, concluded, List.isEmpty_map, rejectedOperations]

/-- A check leaves the same behind for documents with one outline. -/
theorem check_alike (rule : DepthRule) (same : other.outline = document.outline) (trace : Trace) :
    ((rule.check other).after trace).2 = ((rule.check document).after trace).2 := by
  rw [check_leaves, check_leaves, operations_alike same]

end DepthRule

theorem Document.outline_answered (choose : Node → Option String) (document : Document) :
    (document.answered choose).outline = document.outline := by
  simp only [outline, answered, List.map_map]
  congr 1
  exact List.map_congr_left fun definition _ => definition.outline_answered choose

/-- **Only names and nesting decide.** All documents with one outline have violations in the same
operations and at the same places, or they fail in the same way. It makes no difference which names
a predicate is asked about, what it answers, and whether it fails or puts an end to everything: the
questions and the events are the same, and a check moves the counters in the same way. To answer
fields under other names, be it those of introspection or of excluded fields, leaves the outline as
it is. -/
theorem only_names_and_nesting_decide (document : Document) (limit : Int)
    (exclusion : Exclusion) :
    (∃ sightings : Run (List Sighting), ∀ other : Document, other.outline = document.outline →
      List.map Violation.seen <$> other.violations limit exclusion =
        List.map (other.seen limit) <$> sightings) ∧
    (∀ other : Document, other.outline = document.outline → ∀ trace : Trace,
      ((other.violations limit exclusion).after trace).2 =
          ((document.violations limit exclusion).after trace).2 ∧
        ∀ rule : DepthRule,
          ((rule.check other).after trace).2 = ((rule.check document).after trace).2) ∧
    (∀ choose : Node → Option String,
      (document.answered choose).outline = document.outline) := by
  refine ⟨exists_sightings document limit exclusion, fun other same trace => ⟨?_, ?_⟩,
    fun choose => document.outline_answered choose⟩
  · have left := congrArg (fun action => (Run.after action trace).2)
      (operations_alike same limit exclusion)
    simpa only [Run.after_map] using left
  · intro rule
    exact rule.check_alike same trace

/-- A query with a field below a field, by way of a fragment. -/
def plain : Document where
  definitions := [
    ⟨.operation .query (some "Q"), some [⟨.fragmentSpread "F", none, none⟩], none⟩,
    ⟨.fragmentDefinition "F" "T", some [
      ⟨.field none "a", some [⟨.field none "b", none, none⟩], none⟩], none⟩]

/-- A mutation of the same outline. Its fields are answered under the name of an excluded field and
under one of introspection. -/
def disguised : Document where
  definitions := [
    ⟨.operation .mutation (some "Q"), some [⟨.fragmentSpread "F", none, none⟩], some .start⟩,
    ⟨.fragmentDefinition "F" "U", some [
      ⟨.field (some "x") "a", some [⟨.field (some "__b") "b", none, some ⟨3, 5⟩⟩], none⟩], none⟩]

/-- Neither name gets the fields past the limit. -/
theorem disguised_violations_are_seen :
    disguised.outline = plain.outline ∧
    (∃ sightings : Run (List Sighting),
      List.map Violation.seen <$> disguised.violations 0 (.exact "x") =
        List.map (disguised.seen 0) <$> sightings) ∧
    ((disguised.violations 0 (.exact "x")).after .empty).2 =
      ((plain.violations 0 (.exact "x")).after .empty).2 ∧
    (disguised.violations 0 (.exact "x")).after .empty =
      (.ok [⟨"Q", 0, ⟨.field (some "__b") "b", none, some ⟨3, 5⟩⟩⟩], .empty) := by
  have same : disguised.outline = plain.outline := rfl
  obtain ⟨⟨sightings, located⟩, alike, _⟩ := only_names_and_nesting_decide plain 0 (.exact "x")
  have found : (disguised.violations 0 (.exact "x")).after .empty =
      (.ok [⟨"Q", 0, ⟨.field (some "__b") "b", none, some ⟨3, 5⟩⟩⟩], .empty) :=
    WalkTermination.violations_eq_of_within 6 rfl
  exact ⟨same, ⟨sightings, located disguised same⟩, (alike disguised same .empty).1, found⟩

end QueryDepth
