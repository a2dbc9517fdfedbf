import QueryDepth.Proofs.DecidedWalk
import QueryDepth.Proofs.Filing

/-! Every operation is judged by itself. What is reported for a document is put together from
blocks, one for each operation key, and a block depends on the operation in force and on the
definitions in force of the fragments that it leads to, wherever they stand in the document. -/
namespace QueryDepth.OperationBlocks

open RecursiveVisit

variable {document other : Document} {scope another : Scope} {exclusion : Exclusion} {limit : Int}

/-! ## Scopes that agree -/

/-- Two scopes agree on nodes if they know the same fragments wherever these nodes lead. -/
structure AgreeOn (scope another : Scope) (nodes : Node → Prop) : Prop where
  operation : another.operation = scope.operation
  limit : another.limit = scope.limit
  closed : ∀ {parent child}, nodes parent →
    (scope.descent fun _ => false).Leads parent child → nodes child
  known : ∀ {spread fragment}, nodes spread → spread.kind = .fragmentSpread fragment →
    another.fragments.find? fragment = scope.fragments.find? fragment

variable {nodes : Node → Prop}

theorem exceeds_agree (agree : AgreeOn scope another nodes) (frame : Frame) :
    frame.exceeds another = frame.exceeds scope := by
  simp only [Frame.exceeds, agree.limit]

theorem goesOn_agree (agree : AgreeOn scope another nodes) {frame : Frame}
    (inside : nodes frame.node) :
    frame.goesOn another exclusion = frame.goesOn scope exclusion := by
  unfold Frame.goesOn
  cases kind : frame.node.kind with
  | fragmentSpread fragment => simp only [agree.known inside kind, agree.operation]
  | _ => rfl

theorem next_agree (agree : AgreeOn scope another nodes) {frame : Frame}
    (inside : nodes frame.node) : frame.next another = frame.next scope := by
  unfold Frame.next
  rw [exceeds_agree agree]
  cases kind : frame.node.kind with
  | fragmentSpread fragment => simp only [Frame.definition?, agree.known inside kind]
  | _ => rfl

theorem visitFrames_congr {frames : List Frame}
    (each : ∀ frame ∈ frames, visit another exclusion frame.node frame.depth frame.entered =
      visit scope exclusion frame.node frame.depth frame.entered) :
    visitFrames another exclusion frames = visitFrames scope exclusion frames := by
  induction frames with
  | nil => rfl
  | cons frame rest ih =>
    have later := ih fun other member => each other (List.mem_cons_of_mem _ member)
    rw [visitFrames, visitFrames, each frame List.mem_cons_self, later]

/-- Where two scopes agree, a visit is the same in both. -/
theorem visit_agree (agree : AgreeOn scope another nodes) (frame : Frame)
    (inside : nodes frame.node) :
    visit another exclusion frame.node frame.depth frame.entered =
      visit scope exclusion frame.node frame.depth frame.entered := by
  have same := exceeds_agree agree frame
  cases beyond : frame.exceeds scope with
  | true => rw [visit_beyond exclusion beyond, visit_beyond exclusion (same.trans beyond)]
  | false =>
    rw [visit_within exclusion beyond, visit_within exclusion (same.trans beyond),
      goesOn_agree agree inside, next_agree agree inside]
    have below : visitFrames another exclusion (frame.next scope) =
        visitFrames scope exclusion (frame.next scope) :=
      visitFrames_congr fun child member =>
        visit_agree agree child (agree.closed inside (Frame.leads_of_mem_next member))
    rw [below]
termination_by frame.rank scope
decreasing_by exact Frame.rank_lt_of_mem_next member

/-! ## Documents made of what is in force -/

/-- Definitions without those that are shadowed: a later one is filed under the same name. -/
def unshadowed : List Node → List Node
  | [] => []
  | definition :: later =>
    if later.any fun other => other.slot? = definition.slot? then unshadowed later
    else definition :: unshadowed later

/-- Whether a document that is about one operation key has a slot for something. -/
def concerns (key : String) : Slot → Bool
  | .fragment _ => true
  | .operation other => other = key

/-- The document that is made of only the last operation with a key and the last definition of each
fragment name. -/
def alone (document : Document) (key : String) : Document where
  definitions := (unshadowed document.definitions).filter (·.slot?.any (concerns key))

/-- Of the definitions under a slot, the last one is not shadowed. -/
theorem filter_unshadowed (definitions : List Node) (slot : Slot) :
    (unshadowed definitions).filter (fun definition => definition.slot? = some slot) =
      (definitions.filter fun definition => definition.slot? = some slot).getLast?.toList := by
  induction definitions with
  | nil => rfl
  | cons definition later ih =>
    rw [unshadowed]
    by_cases filed : definition.slot? = some slot
    · rw [List.filter_cons_of_pos (by simpa using filed), List.getLast?_cons, filed]
      by_cases shadowed : ∃ other ∈ later, other.slot? = some slot
      · obtain ⟨other, member, taken⟩ := shadowed
        have present : (later.filter fun other => other.slot? = some slot) ≠ [] :=
          List.ne_nil_of_mem (List.mem_filter.mpr ⟨member, by simpa using taken⟩)
        obtain ⟨last, found⟩ := Option.isSome_iff_exists.mp (List.getLast?_isSome.mpr present)
        rw [if_pos (List.any_eq_true.mpr ⟨other, member, by simpa using taken⟩), ih, found]
        rfl
      · have absent : (later.filter fun other => other.slot? = some slot) = [] :=
          List.filter_eq_nil_iff.mpr fun other member taken =>
            shadowed ⟨other, member, by simpa using taken⟩
        have last : ¬ (later.any fun other => other.slot? = some slot) = true := by
          simpa using shadowed
        rw [if_neg last, List.filter_cons_of_pos (by simpa using filed), ih, absent]
        rfl
    · split <;> simp [filed, ih]

/-- In the document about one key, what it concerns is in force as before, and nothing else is. -/
theorem inForce?_alone (document : Document) (key : String) (slot : Slot) :
    (alone document key).inForce? slot =
      if concerns key slot then document.inForce? slot else none := by
  unfold Document.inForce? Document.filedUnder alone
  rw [List.filter_filter]
  by_cases concerned : concerns key slot = true
  · have same : ∀ definition : Node,
        (decide (definition.slot? = some slot) && definition.slot?.any (concerns key)) =
          decide (definition.slot? = some slot) := by
      intro definition
      by_cases filed : definition.slot? = some slot <;> simp [filed, concerned]
    simp only [same, filter_unshadowed, concerned, if_true]
    cases (document.definitions.filter _).getLast? <;> rfl
  · have none : ∀ definition : Node,
        (decide (definition.slot? = some slot) && definition.slot?.any (concerns key)) = false := by
      intro definition
      by_cases filed : definition.slot? = some slot <;> simp [filed, concerned]
    simp [none, concerned]

theorem operations_eq_singleton {key : String} {operation : Node}
    (force : document.inForce? (.operation key) = some operation)
    (only : ∀ other, other ≠ key → document.inForce? (.operation other) = none) :
    document.index.operations = [(key, operation)] := by
  have distinct := document.index_files.distinct
  have keys : document.operationKeys = [key] := by
    have nodup := distinct
    rw [Document.names_operations] at nodup
    refine List.perm_singleton.mp ((List.perm_ext_iff_of_nodup nodup (List.nodup_singleton key)).mpr
      fun other => ?_)
    rw [Document.mem_operationKeys, List.mem_singleton]
    by_cases same : other = key
    · simp [same, force]
    · simp [same, only other same]
  rw [NameTable.eq_filterMap_find? distinct, Document.names_operations, keys]
  simp [Document.find?_operations, force]

theorem operations_eq_nil (absent : ∀ key, document.inForce? (.operation key) = none) :
    document.index.operations = [] := by
  have distinct := document.index_files.distinct
  have keys : document.operationKeys = [] := by
    refine List.eq_nil_iff_forall_not_mem.mpr fun key occurs => ?_
    simpa [absent] using Document.mem_operationKeys.mp occurs
  rw [NameTable.eq_filterMap_find? distinct, Document.names_operations, keys]
  rfl

/-- The walk of the operation in force, if there is one. -/
def block (document : Document) (limit : Int) (exclusion : Exclusion) (key : String) :
    Run (List Violation) :=
  match document.inForce? (.operation key) with
  | some operation => (document.scope key limit).violations exclusion operation
  | none => return []

/-! ## Blocks -/

/-- Where two scopes agree, an operation has the same violations in both. -/
theorem violations_agree (agree : AgreeOn scope another nodes) {operation : Node}
    (inside : nodes operation) :
    another.violations exclusion operation = scope.violations exclusion operation := by
  rw [violations_eq_visit, violations_eq_visit, agree.operation, agree.limit,
    visit_agree agree ⟨operation, 0, []⟩ inside]

theorem violations_of_singleton {key : String} {operation : Node}
    (indexed : document.index.operations = [(key, operation)]) :
    document.violations limit exclusion =
      (document.scope key limit).violations exclusion operation := by
  simp [Document.violations_eq_flatten, indexed]

/-- The document about one key has the block of this key. -/
theorem violations_alone (document : Document) (limit : Int) (exclusion : Exclusion)
    (key : String) :
    (alone document key).violations limit exclusion = block document limit exclusion key := by
  unfold block
  cases force : document.inForce? (.operation key) with
  | none =>
    have absent : ∀ other, (alone document key).inForce? (.operation other) = none := by
      intro other
      rw [inForce?_alone]
      by_cases same : other = key
      · simp [same, force]
      · simp [concerns, same]
    simp [Document.violations_eq_flatten, operations_eq_nil absent]
  | some operation =>
    have forced : (alone document key).inForce? (.operation key) = some operation := by
      simp [inForce?_alone, concerns, force]
    have only : ∀ other, other ≠ key →
        (alone document key).inForce? (.operation other) = none := by
      intro other different
      simp [inForce?_alone, concerns, different]
    have agree : AgreeOn (document.scope key limit) ((alone document key).scope key limit)
        fun _ => True := by
      refine ⟨rfl, rfl, fun _ _ => trivial, fun _ _ => ?_⟩
      simp [Document.scope, Document.find?_fragments, inForce?_alone, concerns]
    rw [violations_of_singleton (operations_eq_singleton forced only)]
    exact violations_agree agree trivial

/-- The violations of a document are its blocks one after the other. -/
theorem violations_eq_blocks (document : Document) (limit : Int) (exclusion : Exclusion) :
    document.violations limit exclusion = do
      return (← document.operationKeys.mapM (block document limit exclusion)).flatten := by
  rw [← Document.names_operations, NameTable.names]
  have each : ∀ entry ∈ document.index.operations, block document limit exclusion entry.1 =
      List.map id <$> (document.scope entry.1 limit).violations exclusion entry.2 := by
    intro entry filed
    have force := NameTable.find?_of_mem document.index_files.distinct filed
    rw [Document.find?_operations] at force
    simp [block, force]
  rw [Run.mapM_flatten_map each, Document.violations_eq_flatten]
  simp

/-! ## Documents that are judged alike -/

/-- An operation of the document leads to a spread of a fragment. -/
def Reaches (document : Document) (fragment : String) : Prop :=
  ∃ entry ∈ document.index.operations, ∃ above spread,
    (document.descent fun _ => false).Path entry.2 above spread ∧
      spread.kind = .fragmentSpread fragment

/-- Another document has the same in force as a document, as far as operations lead. -/
structure SameInForce (document other : Document) : Prop where
  operations : ∀ key, other.inForce? (.operation key) = document.inForce? (.operation key)
  fragments : ∀ fragment, Reaches document fragment →
    other.inForce? (.fragment fragment) = document.inForce? (.fragment fragment)

theorem SameInForce.block_eq (same : SameInForce document other) (limit : Int)
    (exclusion : Exclusion) : block other limit exclusion = block document limit exclusion := by
  funext key
  unfold block
  rw [same.operations]
  cases force : document.inForce? (.operation key) with
  | none => rfl
  | some operation =>
    have indexed : (key, operation) ∈ document.index.operations := by
      rw [← Document.find?_operations] at force
      exact NameTable.mem_of_find? force
    let reached : Node → Prop := fun node =>
      ∃ above, (document.descent fun _ => false).Path operation above node
    have agree : AgreeOn (document.scope key limit) (other.scope key limit) reached := by
      refine ⟨rfl, rfl, ?_, ?_⟩
      · rintro parent child ⟨above, path⟩ leads
        exact ⟨above ++ [parent], path.append (.down leads .here)⟩
      · rintro spread fragment ⟨above, path⟩ kind
        simp only [Document.scope, Document.find?_fragments]
        exact same.fragments fragment ⟨(key, operation), indexed, above, spread, path, kind⟩
    exact violations_agree agree ⟨[], .here⟩

theorem SameInForce.keys_perm (same : SameInForce document other) :
    other.operationKeys.Perm document.operationKeys := by
  have distinct := document.index_files.distinct
  have distinctOther := other.index_files.distinct
  rw [Document.names_operations] at distinct distinctOther
  refine (List.perm_ext_iff_of_nodup distinctOther distinct).mpr fun key => ?_
  rw [Document.mem_operationKeys, Document.mem_operationKeys, same.operations]

/-- A definition is idle in a document if it is no operation and no fragment, if it is shadowed by a
later one, or if it is a fragment that no operation leads to. -/
inductive Idle (document : Document) (definition : Node) (later : List Node) : Prop where
  | unfiled (slot : definition.slot? = none)
  | shadowed {other : Node} (member : other ∈ later) (slot : other.slot? = definition.slot?)
  | unreached {name : String} (slot : definition.slot? = some (.fragment name))
      (never : ¬ Reaches document name)

/-- What is left of the definitions of a document if idle ones are left out. -/
inductive LeavesOut (document : Document) : List Node → List Node → Prop where
  | nil : LeavesOut document [] []
  | kept {definition : Node} {before after : List Node} (rest : LeavesOut document before after) :
      LeavesOut document (definition :: before) (definition :: after)
  | dropped {definition : Node} {before after : List Node}
      (idle : Idle document definition before) (rest : LeavesOut document before after) :
      LeavesOut document (definition :: before) after

/-- The definition in force for a slot that is reached is never left out. -/
theorem getLast?_of_leavesOut {slot : Slot}
    (reached : ∀ name, slot = .fragment name → Reaches document name) {before after : List Node}
    (leaves : LeavesOut document before after) :
    (after.filter fun definition => definition.slot? = some slot).getLast? =
      (before.filter fun definition => definition.slot? = some slot).getLast? := by
  induction leaves with
  | nil => rfl
  | @kept definition _ _ _ ih =>
    by_cases filed : definition.slot? = some slot
    · simp only [List.filter_cons, filed, decide_true, if_true, List.getLast?_cons, ih]
    · simpa [filed] using ih
  | @dropped definition before _ idle _ ih =>
    by_cases filed : definition.slot? = some slot
    · cases idle with
      | unfiled unfiled => simp [filed] at unfiled
      | @shadowed later member same =>
        have present : (before.filter fun definition => definition.slot? = some slot) ≠ [] :=
          List.ne_nil_of_mem (List.mem_filter.mpr ⟨member, by simp [same, filed]⟩)
        obtain ⟨last, found⟩ := Option.isSome_iff_exists.mp (List.getLast?_isSome.mpr present)
        simp only [List.filter_cons, filed, decide_true, if_true, List.getLast?_cons, ih, found]
        rfl
      | @unreached name fragment never =>
        exact absurd (reached name (Option.some.inj (filed.symm.trans fragment))) never
    · simpa [filed] using ih

theorem LeavesOut.sameInForce
    (leaves : LeavesOut document document.definitions other.definitions) :
    SameInForce document other where
  operations key := getLast?_of_leavesOut (fun name clash => by cases clash) leaves
  fragments fragment reached :=
    getLast?_of_leavesOut (fun name same => Slot.fragment.inj same ▸ reached) leaves

/-- The operations of a document, shadowed ones included. -/
def operations (document : Document) : List Node :=
  document.definitions.filter (·.operationKey?.isSome)

theorem operationKeys_eq (document : Document) :
    document.operationKeys = ((operations document).filterMap Node.operationKey?).eraseDups := by
  unfold Document.operationKeys operations
  rw [List.filterMap_filter]
  congr 2
  funext definition
  cases definition.operationKey? <;> rfl

theorem filedUnder_operation (document : Document) (key : String) :
    document.filedUnder (.operation key) =
      (operations document).filter fun definition => definition.slot? = some (.operation key) := by
  unfold Document.filedUnder operations
  rw [List.filter_filter]
  congr 1
  funext definition
  by_cases filed : definition.slot? = some (.operation key)
  · simp [filed, Node.operationKey?_eq_some.mpr filed]
  · simp [filed]

/-- Documents with the same operations in the same order, and with the same definitions in the same
order for every fragment name, have the same violations. -/
theorem violations_eq_of_moved (operationsSame : operations other = operations document)
    (fragmentsSame : ∀ name,
      other.filedUnder (.fragment name) = document.filedUnder (.fragment name))
    (limit : Int) (exclusion : Exclusion) :
    other.violations limit exclusion = document.violations limit exclusion := by
  have same : SameInForce document other := by
    constructor
    · intro key
      rw [Document.inForce?, Document.inForce?, filedUnder_operation, filedUnder_operation,
        operationsSame]
    · intro name _
      rw [Document.inForce?, Document.inForce?, fragmentsSame]
  rw [violations_eq_blocks, violations_eq_blocks, same.block_eq, operationKeys_eq,
    operationKeys_eq, operationsSame]

/-- A block does not depend on what has been left behind before, if the exclusion goes by the
name. -/
theorem block_steady (document : Document) (limit : Int) (byName : exclusion.GoesByName)
    (key : String) :
    (block document limit exclusion key).Steady := by
  unfold block
  split
  · rename_i operation _
    have visited : (visit (document.scope key limit) exclusion operation 0 []).Steady :=
      visit_holds Run.steady_composes (fun _ => True) byName (fun _ _ => trivial)
        (fun _ _ _ => .inr (Run.steady_throw _)) ⟨operation, 0, []⟩ trivial
    rw [violations_eq_visit]
    exact visited.bind fun _ => Run.steady_pure _
  · exact Run.steady_pure _

/-- Blocks that come to results are put together in the order of the keys. -/
theorem violations_comesTo_blocks {found : String → List Violation}
    (each : ∀ key ∈ document.operationKeys,
      (block document limit exclusion key).ComesTo (.ok (found key))) :
    (document.violations limit exclusion).ComesTo (.ok (document.operationKeys.flatMap found)) := by
  rw [violations_eq_blocks]
  exact Run.comesTo_flatten each

/-- So another document comes to the same blocks if it has the same in force. -/
theorem violations_comesTo_of_block_eq {found : String → List Violation}
    (each : ∀ key ∈ document.operationKeys,
      (block document limit exclusion key).ComesTo (.ok (found key)))
    (keys : other.operationKeys.Perm document.operationKeys)
    (same : block other limit exclusion = block document limit exclusion) :
    (other.violations limit exclusion).ComesTo (.ok (other.operationKeys.flatMap found)) := by
  refine violations_comesTo_blocks fun key occurs => ?_
  rw [same]
  exact each key (keys.mem_iff.mp occurs)

/-- **Operations are judged by themselves, and only what is in force matters.** What is reported for
a document is what is reported for each operation key alone, in the order in which the keys first
occur. So leaving out or adding idle definitions changes at most the order, moving fragments
around changes nothing, and any other order of the definitions puts the same blocks in another
order, as long as definitions of one name keep theirs. -/
theorem operations_judged_alone (byName : exclusion.GoesByName) {trace left : Trace}
    {found : List Violation}
    (returned : (document.violations limit exclusion).after trace = (.ok found, left)) :
    ∃ reported : String → List Violation,
      (∀ key ∈ document.operationKeys,
        ((alone document key).violations limit exclusion).ComesTo (.ok (reported key))) ∧
      found = document.operationKeys.flatMap reported ∧
      (∀ other : Document, LeavesOut document document.definitions other.definitions ∨
          LeavesOut other other.definitions document.definitions →
        ∃ rest, (other.violations limit exclusion).ComesTo (.ok rest) ∧ rest.Perm found) ∧
      (∀ other : Document, operations other = operations document →
        (∀ name, other.filedUnder (.fragment name) = document.filedUnder (.fragment name)) →
        other.violations limit exclusion = document.violations limit exclusion) ∧
      (∀ other : Document, (∀ slot, other.filedUnder slot = document.filedUnder slot) →
        other.operationKeys.Perm document.operationKeys ∧
        (other.violations limit exclusion).ComesTo
          (.ok (other.operationKeys.flatMap reported))) := by
  rw [violations_eq_blocks] at returned
  obtain ⟨reported, ready⟩ := Run.flatten_of_steady (block_steady document limit byName)
  obtain ⟨each, rfl⟩ := ready returned
  refine ⟨reported, ?_, rfl, ?_, ?_, ?_⟩
  · intro key occurs
    rw [violations_alone]
    exact each key occurs
  · intro other leaves
    obtain ⟨keys, same⟩ : other.operationKeys.Perm document.operationKeys ∧
        block other limit exclusion = block document limit exclusion := by
      rcases leaves with fewer | more
      · exact ⟨fewer.sameInForce.keys_perm, fewer.sameInForce.block_eq limit exclusion⟩
      · exact ⟨more.sameInForce.keys_perm.symm, (more.sameInForce.block_eq limit exclusion).symm⟩
    exact ⟨_, violations_comesTo_of_block_eq each keys same, keys.flatMap_right _⟩
  · intro other operationsSame fragmentsSame
    exact violations_eq_of_moved operationsSame fragmentsSame limit exclusion
  · intro other filed
    have same : SameInForce document other := by
      constructor <;> intros <;> rw [Document.inForce?, Document.inForce?, filed]
    exact ⟨same.keys_perm,
      violations_comesTo_of_block_eq each same.keys_perm (same.block_eq limit exclusion)⟩

/-- Two operations and a fragment of which earlier ones are shadowed, and a type. -/
def shadowing : Document where
  definitions := [
    ⟨.operation .query (some "Q"), some [⟨.fragmentSpread "F", none, none⟩], none⟩,
    ⟨.fragmentDefinition "F" "T", some [], none⟩,
    ⟨.operation .query none, some [⟨.field none "b", some [⟨.field none "c", none, none⟩], none⟩],
      none⟩,
    ⟨.scalarType "S", none, none⟩,
    ⟨.fragmentDefinition "F" "T", some [
      ⟨.field none "a", some [⟨.field none "b", none, none⟩], none⟩], none⟩,
    ⟨.operation .query (some "Q"), some [
      ⟨.fragmentSpread "F", none, none⟩, ⟨.fragmentSpread "F", none, none⟩], none⟩]

/-- The same without the type and the first operation. -/
def trimmed : Document where
  definitions := [
    ⟨.fragmentDefinition "F" "T", some [], none⟩,
    ⟨.operation .query none, some [⟨.field none "b", some [⟨.field none "c", none, none⟩], none⟩],
      none⟩,
    ⟨.fragmentDefinition "F" "T", some [
      ⟨.field none "a", some [⟨.field none "b", none, none⟩], none⟩], none⟩,
    ⟨.operation .query (some "Q"), some [
      ⟨.fragmentSpread "F", none, none⟩, ⟨.fragmentSpread "F", none, none⟩], none⟩]

theorem shadowing_leavesOut_trimmed :
    LeavesOut shadowing shadowing.definitions trimmed.definitions :=
  -- The last definition shadows the first one.
  .dropped (.shadowed (.tail _ (.tail _ (.tail _ (.tail _ (.head _))))) rfl) <| .kept <| .kept <|
    .dropped (.unfiled rfl) <| .kept <| .kept .nil

/-- What is reported under two keys, one of them with a shadowed operation, and what is reported
without it. -/
theorem shadowing_judged_alone :
    Exclusion.GoesByName .nothing ∧
    ∃ found left, (shadowing.violations 0 .nothing).after .empty = (.ok found, left) ∧
    ∃ reported : String → List Violation,
      ((alone shadowing "Q").violations 0 .nothing).ComesTo (.ok (reported "Q")) ∧
      ((alone shadowing "").violations 0 .nothing).ComesTo (.ok (reported "")) ∧
      found = reported "Q" ++ reported "" ∧
      ∃ rest, (trimmed.violations 0 .nothing).ComesTo (.ok rest) ∧ rest.Perm found := by
  have decides := Exclusion.decides_nothing
  have byName := decides.goesByName
  have complete : shadowing.Complete := by decide
  have keys : shadowing.operationKeys = ["Q", ""] := by decide
  have comes := Document.violations_comesTo complete decides 0 .empty
  obtain ⟨reported, each, same, leaves, _⟩ :=
    operations_judged_alone byName (Prod.ext comes rfl)
  rw [keys] at each same
  exact ⟨byName, _, _, Prod.ext comes rfl, reported, each _ (by decide), each _ (by decide),
    by simpa using same, leaves trimmed (.inl shadowing_leavesOut_trimmed)⟩

end QueryDepth.OperationBlocks
