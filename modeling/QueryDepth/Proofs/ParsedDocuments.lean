import QueryDepth.Document.Grammar
import QueryDepth.Proofs.DocumentNodes

/-! What the grammar sees to: every node of a document that was read has a place in the text, and it
selects something if nodes of its kind have to. A reader is judged by what it yields. Whatever it
reads and throws away, and wherever it refuses the text, need not be looked at. -/
namespace QueryDepth

namespace Reader

variable {α β : Type} {holds : α → Prop}

/-- All that a reader yields has a property. -/
def Yields (reader : Reader α) (holds : α → Prop) : Prop :=
  ∀ stream value next, reader stream = .ok (value, next) → holds value

theorem yields_pure {value : α} (has : holds value) : Yields (pure value) holds := by
  rintro stream _ next ⟨⟩
  exact has

theorem yields_refuseAt (place : Location) (complaint : Complaint) :
    Yields (refuseAt place complaint) holds := by
  rintro stream value next ⟨⟩

theorem Yields.bind {reader : Reader α} {next : α → Reader β} {later : β → Prop}
    (first : reader.Yields holds) (second : ∀ value, holds value → (next value).Yields later) :
    (reader >>= next).Yields later := by
  intro stream result left read
  change (reader stream >>= fun pair => next pair.1 pair.2) = _ at read
  cases begun : reader stream with
  | error problem => simp [begun, Bind.bind, Except.bind] at read
  | ok pair =>
    rw [begun] at read
    exact second pair.1 (first stream pair.1 pair.2 begun) pair.2 result left read

theorem yields_bind {reader : Reader α} {next : α → Reader β} {later : β → Prop}
    (second : ∀ value, (next value).Yields later) : (reader >>= next).Yields later := by
  have first : reader.Yields fun _ => True := fun _ _ _ _ => trivial
  exact first.bind fun value _ => second value

theorem Yields.map {reader : Reader α} (each : reader.Yields holds) (convert : α → β) :
    (convert <$> reader).Yields fun result => ∃ value, holds value ∧ result = convert value := by
  rw [map_eq_pure_bind]
  exact each.bind fun value has => yields_pure ⟨value, has, rfl⟩

theorem yields_refuse (complaint : Complaint) : Yields (refuse complaint) holds :=
  yields_bind fun _ => yields_refuseAt _ _

theorem yields_unexpected : Yields unexpected holds := yields_bind fun _ => yields_refuse _

/-- Items up to a closing mark all have what an item has. -/
theorem yields_itemsUntil {item : Reader α} (each : item.Yields holds) (close : Punctuator)
    (done : List α) (before : ∀ found ∈ done, holds found) :
    Yields (itemsUntil item close done) fun items => ∀ found ∈ items, holds found := by
  intro stream
  fun_induction itemsUntil item close done stream with
  | case1 | case2 | case5 => rintro items next ⟨⟩
  | case3 done stream found afterItem read afterClose closes =>
    rintro items next ⟨⟩
    have has := each stream found afterItem read
    simpa [or_imp, forall_and, has] using before
  | case4 done stream found afterItem read next goesOn passes ih =>
    have has := each stream found afterItem read
    exact ih (by simpa [has] using before)

theorem yields_many {item : Reader α} (each : item.Yields holds) (first last : Punctuator) :
    (many first item last).Yields fun items => ∀ found ∈ items, holds found :=
  yields_bind fun _ => yields_itemsUntil each last [] (by simp)

end Reader

/-- A node as the grammar makes it: it has a place, and it selects something if it has to. -/
structure Node.Written (node : Node) : Prop where
  located : node.location.isSome = true
  opened : node.kind.mustSelect = true → node.selections.isSome = true

/-- A node is read from a text if it and all nodes below it are as the grammar makes them. -/
def Node.Read (top : Node) : Prop := ∀ node ∈ top.tree, node.Written

namespace Node

/-- A node that selects nothing is read if it need not select anything. -/
theorem read_of_unopened {kind : NodeKind} (free : kind.mustSelect = false) (place : Location) :
    Read ⟨kind, none, some place⟩ := by
  intro node inside
  rw [tree_of_unopened rfl, List.mem_singleton] at inside
  subst inside
  exact ⟨rfl, by simp [free]⟩

/-- A node that selects nodes is read if they are. -/
theorem read_of_opened {selections : List Node} (below : ∀ node ∈ selections, node.Read)
    (kind : NodeKind) (place : Location) : Read ⟨kind, some selections, some place⟩ := by
  intro node inside
  rcases (mem_tree_of_opened rfl).mp inside with rfl | ⟨child, selected, inside⟩
  · exact ⟨rfl, fun _ => rfl⟩
  · exact below child selected node inside

end Node

namespace Grammar

open Reader

variable {selections : Reader (List Node)}

theorem field_yields (below : selections.Yields fun nodes => ∀ node ∈ nodes, node.Read)
    (depth : Nat) : (field selections depth).Yields Node.Read := by
  unfold field
  refine yields_bind fun token => yields_bind fun first => yields_bind fun renamed => ?_
  extract_lets rest
  have finishes : ∀ second, (rest second).Yields Node.Read := by
    intro second
    refine yields_bind fun _ => yields_bind fun _ => yields_bind fun opens => ?_
    cases opens with
    | true =>
      refine Yields.bind (below.map some) ?_
      rintro _ ⟨nodes, read, rfl⟩
      exact yields_pure (Node.read_of_opened read _ _)
    | false =>
      have nothing : Yields (pure none : Reader (Option (List Node))) (· = none) := yields_pure rfl
      refine nothing.bind ?_
      rintro _ rfl
      exact yields_pure (Node.read_of_unopened (by cases second <;> rfl) _)
  cases renamed with
  | true => exact yields_bind finishes
  | false => exact yields_bind finishes

/-- A spread selects nothing, and an inline fragment selects what was read. -/
theorem fragment_yields (below : selections.Yields fun nodes => ∀ node ∈ nodes, node.Read)
    (depth : Nat) : (fragment selections depth).Yields Node.Read := by
  unfold fragment
  refine yields_bind fun token => yields_bind fun _ => yields_bind fun conditional => ?_
  refine yields_bind fun named => ?_
  extract_lets inline
  have inlined : ∀ condition, (inline condition).Yields Node.Read := by
    intro condition
    refine yields_bind fun _ => below.bind fun nodes read => ?_
    exact yields_pure (Node.read_of_opened read _ _)
  split
  · exact yields_bind fun name => yields_bind fun _ => yields_pure (Node.read_of_unopened rfl _)
  · cases conditional with
    | true => exact yields_bind inlined
    | false => exact yields_bind inlined

theorem selectionSet_yields (depth : Nat) :
    (selectionSet depth).Yields fun nodes => ∀ node ∈ nodes, node.Read := by
  induction depth with
  | zero => exact yields_refuse _
  | succ depth ih =>
    refine yields_many ?_ _ _
    refine yields_bind fun spreads => ?_
    split
    · exact fragment_yields ih depth
    · exact field_yields ih depth

theorem definitionSelections_yields :
    definitionSelections.Yields fun nodes => ∀ node ∈ nodes, node.Read :=
  selectionSet_yields maximalNesting

theorem operation_yields : operation.Yields Node.Read := by
  unfold operation
  refine yields_bind fun token => yields_bind fun _ => yields_bind fun type => ?_
  refine yields_bind fun named => ?_
  extract_lets rest
  have finishes : ∀ name, (rest name).Yields Node.Read := by
    intro name
    refine yields_bind fun _ => yields_bind fun _ => definitionSelections_yields.bind ?_
    intro nodes read
    exact yields_pure (Node.read_of_opened read _ _)
  cases named with
  | true => exact yields_bind finishes
  | false => exact yields_bind finishes

theorem fragmentDefinition_yields : fragmentDefinition.Yields Node.Read := by
  unfold fragmentDefinition
  refine yields_bind fun token => yields_bind fun _ => yields_bind fun _ => ?_
  refine yields_bind fun name => yields_bind fun _ => yields_bind fun condition => ?_
  refine yields_bind fun _ => ?_
  refine definitionSelections_yields.bind fun nodes read => ?_
  exact yields_pure (Node.read_of_opened read _ _)

/-- Of the type system nothing is kept but places. -/
theorem typeSystemExtension_yields : typeSystemExtension.Yields Node.Read := by
  unfold typeSystemExtension
  refine yields_bind fun token => yields_bind fun keyword => ?_
  extract_lets body
  cases body with
  | none => exact yields_refuseAt _ _
  | some body =>
    refine yields_bind fun _ => yields_bind fun _ => yields_bind fun adds => ?_
    split
    · exact yields_bind fun _ => yields_pure (Node.read_of_unopened rfl _)
    · exact yields_pure (Node.read_of_unopened rfl _)

theorem typeSystemDefinition_yields (body : Reader Unit) :
    (typeSystemDefinition body).Yields Node.Read := by
  unfold typeSystemDefinition
  refine yields_bind fun token => yields_bind fun _ => yields_bind fun _ => ?_
  exact yields_bind fun _ => yields_pure (Node.read_of_unopened rfl _)

theorem definition_yields : definition.Yields Node.Read := by
  unfold definition
  refine yields_bind fun token => ?_
  split
  · refine definitionSelections_yields.bind fun nodes read => ?_
    exact yields_pure (Node.read_of_opened read _ _)
  · extract_lets described rest
    have finishes : ∀ opening, (rest opening).Yields Node.Read := by
      intro opening
      simp only [rest]
      split
      · repeat' split
        · exact typeSystemDefinition_yields _
        · exact operation_yields
        · exact fragmentDefinition_yields
        · exact yields_refuse _
        · exact typeSystemExtension_yields
        · exact yields_unexpected
      · split
        · exact yields_bind fun _ => yields_refuseAt _ _
        · exact yields_refuseAt _ _
    split
    · exact yields_bind finishes
    · exact yields_bind finishes

/-- All definitions up to the end of input are read. -/
theorem definitions_read {done read : List Node} {stream : Stream}
    (parsed : definitions done stream = .ok read) (before : ∀ node ∈ done, node.Read) :
    ∀ node ∈ read, node.Read := by
  fun_induction definitions done stream with
  | case1 | case4 => cases parsed
  | case2 done stream found next reads ends =>
    cases parsed
    have has := definition_yields stream found next reads
    simpa [or_imp, forall_and, has] using before
  | case3 done stream found next reads goesOn passes ih =>
    have has := definition_yields stream found next reads
    exact ih parsed (by simpa [has] using before)

end Grammar

/-- All nodes of a document that a text holds are as the grammar makes them. -/
theorem Document.written_of_parse {text : String} {document : Document}
    (parses : Document.parse text = .ok document) : ∀ node ∈ document.nodes, node.Written := by
  unfold Document.parse at parses
  split at parses
  · cases parses
  · cases parses
  · split at parses
    · rename_i definitions read
      cases parses
      intro node inside
      obtain ⟨top, defined, inside⟩ := List.mem_flatMap.mp inside
      exact Grammar.definitions_read read (by simp) top defined node inside
    · cases parses

theorem Document.complete_of_parse {text : String} {document : Document}
    (parses : Document.parse text = .ok document) : document.Complete :=
  fun node inside => (written_of_parse parses node inside).opened

end QueryDepth
