import QueryDepth.Proofs.CycleCut
import QueryDepth.Proofs.SpreadInlining
import QueryDepth.Proofs.WalkTermination

/-! What the frames mean that wait on the list of a walk. A frame stands at the end of a way down
from the operation. Its depth is the number of counted fields on that way, and the fragments that it
has entered are those that the way has spread since the last of them, each of them once. So a circle
is cut only at a spread to which the definition of its own fragment leads without a field in
between. -/
namespace QueryDepth.WorklistFrames

open CycleCut SpreadInlining WalkTermination

variable {descent : Descent} {scope : Scope} {exclusion : Exclusion} {excluded : String → Bool}
  {operation node origin target : Node} {frame child : Frame} {above : List Node}
  {fragment : String} {progress : Progress} {trace left : Trace}

/-! ## Ways with what is entered on them -/

/-- The fragments that a way has entered since its last counted field, the latest one first. From a
spread a way leads to the definition alone, so every spread above its end has entered a fragment. -/
def enteredOn (descent : Descent) (above : List Node) : List String :=
  (above.reverse.takeWhile fun node => !descent.counts node).filterMap spread?

@[simp] theorem enteredOn_nil (descent : Descent) : enteredOn descent [] = [] := rfl

theorem enteredOn_concat (descent : Descent) (above : List Node) (node : Node) :
    enteredOn descent (above ++ [node]) =
      if descent.counts node then [] else (spread? node).toList ++ enteredOn descent above := by
  unfold enteredOn
  rw [List.reverse_concat]
  by_cases counts : descent.counts node = true
  · simp [counts]
  · cases spreads : spread? node <;> simp [counts, spreads]

/-- What a way has entered was spread on it, and no field was counted since. -/
theorem exists_spread_of_mem_enteredOn (entered : fragment ∈ enteredOn descent above) :
    ∃ outer spread between, above = outer ++ spread :: between ∧
      spread.kind = .fragmentSpread fragment ∧ ∀ node ∈ between, descent.counts node = false := by
  induction above using List.reverseRecOn with
  | nil => cases entered
  | append_singleton above last ih =>
    rw [enteredOn_concat] at entered
    split at entered
    · cases entered
    · rename_i neutral
      rcases List.mem_append.mp entered with spreads | earlier
      · have kind := spread?_eq_some.mp (Option.mem_toList.mp spreads)
        exact ⟨above, last, [], rfl, kind, nofun⟩
      · obtain ⟨outer, spread, between, rfl, kind, since⟩ := ih earlier
        refine ⟨outer, spread, between ++ [last], by simp, kind, ?_⟩
        intro node member
        rcases List.mem_append.mp member with before | same
        · exact since node before
        · rw [List.mem_singleton.mp same]
          simpa using neutral

/-- A frame stands at the end of a way down from the operation. Only below a counted field may it
lie beyond the limit. -/
structure StandsAt (scope : Scope) (excluded : String → Bool) (operation : Node)
    (above : List Node) (frame : Frame) : Prop where
  path : (scope.descent excluded).Path operation above frame.node
  counted : frame.depth = above.countP (scope.descent excluded).counts
  bounded : frame.depth ≤ scope.limit + 1
  entered : frame.entered = enteredOn (scope.descent excluded) above
  once : frame.entered.Nodup
  last : frame.depth = scope.limit + 1 → frame.entered = [] ∧
    ∃ field selections, above.getLast? = some field ∧
      (scope.descent excluded).counts field = true ∧ field.selections = some selections ∧
      frame.node ∈ selections

theorem standsAt_operation (room : 0 ≤ scope.limit) (excluded : String → Bool) (operation : Node) :
    StandsAt scope excluded operation [] ⟨operation, 0, []⟩ where
  path := .here
  counted := rfl
  bounded := by
    simp only [Int.natCast_zero]
    omega
  entered := rfl
  once := List.nodup_nil
  last := by
    intro beyond
    simp only [Int.natCast_zero] at beyond
    omega

theorem step_entered (leads : (scope.descent excluded).Leads frame.node node) :
    (frame.step node).entered =
      if (scope.descent excluded).counts frame.node then []
      else (spread? frame.node).toList ++ frame.entered := by
  cases counts : (scope.descent excluded).counts frame.node with
  | true => rw [Frame.step_counted node counts, if_pos rfl]
  | false =>
    obtain ⟨⟨kind, selections, location⟩, depth, entered⟩ := frame
    cases kind with
    | field responseName name =>
      have neutral := Frame.step_neutral leads counts
      simp [Frame.step] at neutral
    | _ => rfl

theorem StandsAt.down (stands : StandsAt scope excluded operation above frame)
    (within : frame.exceeds scope = false) (led : child ∈ frame.children scope excluded) :
    StandsAt scope excluded operation (above ++ [frame.node]) child := by
  obtain ⟨fresh, node, leads, rfl⟩ := (Frame.mem_children within).mp led
  have room : (frame.depth : Int) ≤ scope.limit := by simpa [Frame.exceeds] using within
  have deeper := Frame.step_depth leads
  have entered := step_entered leads
  constructor
  · rw [Frame.step_node]
    exact stands.path.append (.down leads .here)
  · rw [deeper, stands.counted, List.countP_append, List.countP_singleton, Descent.weight]
  · have weight : (scope.descent excluded).weight frame.node ≤ 1 := by
      unfold Descent.weight
      split <;> simp
    omega
  · rw [entered, enteredOn_concat, stands.entered]
  · rw [entered]
    by_cases counts : (scope.descent excluded).counts frame.node = true
    · simp [counts]
    · rw [if_neg counts]
      cases spreads : spread? frame.node with
      | none => exact stands.once
      | some fragment =>
        have kind := spread?_eq_some.mp spreads
        have unentered : fragment ∉ frame.entered := fun again => fresh ⟨fragment, kind, again⟩
        exact List.nodup_cons.mpr ⟨unentered, stands.once⟩
  · intro beyond
    cases counts : (scope.descent excluded).counts frame.node with
    | false =>
      rw [Descent.weight_neutral counts] at deeper
      omega
    | true =>
      rw [entered, if_pos counts, Frame.step_node]
      cases leads with
      | selects opens opened selected =>
        exact ⟨rfl, _, _, List.getLast?_concat, counts, opened, selected⟩
      | spreads kind known => simp [Descent.counts, kind] at counts

/-! ## All states of a walk -/

/-- A walk of an operation comes to a state after some turns. -/
def ComesBy (scope : Scope) (exclusion : Exclusion) (operation : Node) (progress : Progress)
    (left : Trace) : Prop :=
  ∃ turns trace, (advance scope exclusion)^[turns] (start operation trace) =
    .underWay progress left

/-- All frames on the list stand at the ends of ways. -/
def Ordered (scope : Scope) (excluded : String → Bool) (operation : Node) : Stage → Prop
  | .underWay progress _ =>
    ∀ frame ∈ progress.frames, ∃ above, StandsAt scope excluded operation above frame
  | .over _ => True

theorem goes_of_goesOn {goes : Bool} (decides : exclusion.Decides excluded)
    (visited : (frame.goesOn scope exclusion).after trace = (.ok goes, left)) :
    frame.goes scope excluded = goes := by
  by_cases unopenable : frame.node.Unopenable
  · rw [Frame.goesOn_of_unopenable scope exclusion unopenable] at visited
    cases visited
  · have comes : (frame.goesOn scope exclusion).ComesTo (.ok (frame.goes scope excluded)) :=
      Frame.goesOn_comesTo decides unopenable
    have same := comes trace
    rw [visited] at same
    exact (Except.ok.inj same).symm

/-- One turn leaves the frames on the list at the ends of ways. -/
theorem Ordered.advance {stage : Stage} (decides : exclusion.Decides excluded)
    (ordered : Ordered scope excluded operation stage) :
    Ordered scope excluded operation (advance scope exclusion stage) := by
  rcases stage with ⟨⟨_ | ⟨frame, rest⟩, found⟩, trace⟩ | outcome
  · trivial
  · have waiting : ∀ other ∈ rest, ∃ above, StandsAt scope excluded operation above other := by
      intro other member
      exact ordered other (List.mem_cons_of_mem _ member)
    rcases turned : (scope.turn exclusion frame rest found).after trace with ⟨failure | next, left⟩
    · simp only [WalkTermination.advance, turned]
      trivial
    · simp only [WalkTermination.advance, turned]
      obtain ⟨_, rfl, _⟩ | ⟨within, rfl, visited⟩ | ⟨_, rfl, _⟩ := Scope.turn_cases turned
      · exact waiting
      · intro child member
        rcases List.mem_append.mp member with led | other
        · obtain ⟨above, stands⟩ := ordered frame List.mem_cons_self
          have led : child ∈ frame.children scope excluded := by
            rwa [Frame.children, goes_of_goesOn decides visited, if_pos rfl]
          exact ⟨_, stands.down within led⟩
        · exact waiting child other
      · exact waiting
  · trivial

/-- What holds of the first state and is kept by every turn holds of all states. -/
theorem ComesBy.ordered (decides : exclusion.Decides excluded) (room : 0 ≤ scope.limit)
    (comes : ComesBy scope exclusion operation progress left) :
    Ordered scope excluded operation (.underWay progress left) := by
  obtain ⟨turns, trace, comes⟩ := comes
  rw [← comes]
  clear comes
  induction turns with
  | zero =>
    intro frame member
    rw [List.mem_singleton.mp member]
    exact ⟨[], standsAt_operation room excluded operation⟩
  | succ turns ih =>
    rw [Function.iterate_succ_apply']
    exact ih.advance decides

/-! ## Where circles are cut -/

/-- The next turn of a walk cuts a circle of a fragment, which it tells. -/
def Cuts (scope : Scope) (exclusion : Exclusion) (progress : Progress) (trace : Trace)
    (fragment : String) : Prop :=
  ∃ next left, advance scope exclusion (.underWay progress trace) = .underWay next left ∧
    left.events = .fragmentCycle fragment scope.operation :: trace.events

/-- Whatever an exclusion tells, it is not about a circle. -/
theorem excludes_tells_no_circle (exclusion : Exclusion) (name : String) (trace : Trace)
    (fragment operation : String) :
    ((exclusion.excludes name).after trace).2.events ≠
      .fragmentCycle fragment operation :: trace.events := by
  unfold Exclusion.excludes
  cases isIntrospection name with
  | true => simp
  | false =>
    cases exclusion with
    | exact wanted => simp
    | nothing => simp
    | predicate condition =>
      simp only [Bool.false_eq_true, ↓reduceIte, Run.ask_after]
      cases condition.respond trace.asked name <;> simp
    | pattern text =>
      simp only [Bool.false_eq_true, ↓reduceIte, Run.after_bind]
      rcases Pattern.prepared_or_excessive text with ⟨ready, becomes⟩ | ⟨excess, refused⟩
      · rw [Run.compiled_after becomes]
        simp only [Run.after_pure]
        unfold Run.warning?
        split <;> simp
      · rw [Run.compiled_after_of_excessive refused]
        simp

/-- A spread of a known fragment that was entered is told of, and the walk does not go on there. -/
theorem goesOn_again {definition : Node} (spreads : frame.node.kind = .fragmentSpread fragment)
    (again : fragment ∈ frame.entered) (known : scope.fragments.find? fragment = some definition)
    (exclusion : Exclusion) (trace : Trace) :
    (frame.goesOn scope exclusion).after trace = (.ok false, { trace with
      events := .fragmentCycle fragment scope.operation :: trace.events }) := by
  simp only [Frame.goesOn, spreads, known]
  simp [again, Except.map]

/-- Of a circle is told just at a spread of a known fragment that was entered. -/
theorem tells_circle_iff : ((frame.goesOn scope exclusion).after trace).2.events =
      .fragmentCycle fragment scope.operation :: trace.events ↔
    frame.node.kind = .fragmentSpread fragment ∧ fragment ∈ frame.entered ∧
      ∃ definition, scope.fragments.find? fragment = some definition := by
  constructor
  · intro told
    obtain ⟨⟨kind, selections, location⟩, depth, entered⟩ := frame
    unfold Frame.goesOn at told
    cases kind with
    | field responseName name =>
      simp only [bind_pure_comp, Run.after_map] at told
      exact absurd told (excludes_tells_no_circle exclusion name trace fragment scope.operation)
    | fragmentSpread other =>
      dsimp only at told ⊢
      cases known : scope.fragments.find? other with
      | none => simp [known] at told
      | some definition =>
        by_cases again : other ∈ entered
        · have same : other = fragment := by simpa [known, again, Run.after_bind] using told
          subst same
          exact ⟨rfl, again, definition, known⟩
        · simp [known, again] at told
    | inlineFragment | operation | fragmentDefinition =>
      cases selections <;> simp at told
    | name | scalarType | typeSystem => simp at told
  · rintro ⟨spreads, again, definition, known⟩
    rw [goesOn_again spreads again known]

/-- A circle is cut just where the next frame on the list spreads a fragment that it has entered. -/
theorem cuts_iff : Cuts scope exclusion progress trace fragment ↔
    ∃ frame ∈ progress.frames.head?, frame.exceeds scope = false ∧
      frame.node.kind = .fragmentSpread fragment ∧ fragment ∈ frame.entered ∧
        ∃ definition, scope.fragments.find? fragment = some definition := by
  obtain ⟨_ | ⟨frame, rest⟩, found⟩ := progress
  · constructor
    · rintro ⟨next, left, advanced, -⟩
      cases advanced
    · rintro ⟨frame, first, -⟩
      cases first
  · constructor
    · rintro ⟨next, left, advanced, told⟩
      refine ⟨frame, rfl, ?_⟩
      rcases turned : (scope.turn exclusion frame rest found).after trace with
        ⟨failure | after, since⟩
      · simp only [advance, turned] at advanced
        cases advanced
      · simp only [advance, turned] at advanced
        cases advanced
        obtain ⟨_, _, rfl⟩ | ⟨within, _, visited⟩ | ⟨within, _, visited⟩ :=
          Scope.turn_cases turned
        · simp at told
        all_goals
          have tells : ((frame.goesOn scope exclusion).after trace).2.events =
              .fragmentCycle fragment scope.operation :: trace.events := by rw [visited, told]
          exact ⟨within, tells_circle_iff.mp tells⟩
    · rintro ⟨_, first, within, spreads, again, definition, known⟩
      cases first
      obtain ⟨left, told, visited⟩ : ∃ left : Trace,
          left.events = .fragmentCycle fragment scope.operation :: trace.events ∧
          (frame.goesOn scope exclusion).after trace = (.ok false, left) :=
        ⟨_, rfl, goesOn_again spreads again known exclusion trace⟩
      have turned : (scope.turn exclusion frame rest found).after trace =
          (.ok ⟨rest, found⟩, left) := by
        simp only [Scope.turn, within, Run.after_bind, visited, Bool.false_eq_true, ↓reduceIte,
          Run.after_pure]
      exact ⟨⟨rest, found⟩, left, by simp only [advance, turned], told⟩

/-- A node that adds no depth to what lies below it. -/
def neutral (node : Node) : Bool :=
  match node.kind with
  | .inlineFragment _ | .fragmentSpread _ | .fragmentDefinition .. | .operation .. => true
  | .field .. | .name _ | .scalarType _ | .typeSystem => false

theorem neutral_of_passed (path : descent.Path origin above target) (passed : node ∈ above)
    (uncounted : descent.counts node = false) : neutral node = true := by
  obtain ⟨before, after, rfl⟩ := List.append_of_mem passed
  cases path.split_at.2 with
  | down leads _ =>
    rcases Descent.leads_iff.mp leads with ⟨opens, selections, opened, _⟩ | ⟨fragment, kind, _⟩
    · unfold Descent.opens at opens
      unfold Descent.counts at uncounted
      unfold neutral
      cases kind : node.kind <;> simp_all
    · simp [neutral, kind]

/-- The definition of a fragment leads to a spread of the fragment itself by way of neutral nodes
alone. -/
structure LeadsBack (descent : Descent) (fragment : String) (definition : Node)
    (between : List Node) (spread : Node) : Prop where
  known : descent.fragments.find? fragment = some definition
  path : descent.Path definition between spread
  spreads : spread.kind = .fragmentSpread fragment
  neutral : ∀ node ∈ between, neutral node = true

/-- At the end of a way, a spread of a fragment that was entered is one to which the definition of
the fragment leads back. -/
theorem StandsAt.leadsBack (stands : StandsAt scope excluded operation above frame)
    (spreads : frame.node.kind = .fragmentSpread fragment) (again : fragment ∈ frame.entered) :
    ∃ outer spread definition between, above = outer ++ spread :: between ∧
      spread.kind = .fragmentSpread fragment ∧
      LeadsBack (scope.descent excluded) fragment definition between frame.node := by
  rw [stands.entered] at again
  obtain ⟨outer, spread, between, rfl, kind, since⟩ := exists_spread_of_mem_enteredOn again
  cases stands.path.split_at.2 with
  | @down _ definition _ _ leads path =>
    refine ⟨outer, spread, definition, between, rfl, kind, leads.known kind, path, spreads, ?_⟩
    intro node passed
    exact neutral_of_passed path passed (since node passed)

/-- Where a walk cuts a circle, the frame stands at the end of a way that spread the fragment
before, and from its definition the way goes on by neutral nodes. -/
theorem ComesBy.leadsBack (decides : exclusion.Decides excluded) (room : 0 ≤ scope.limit)
    (comes : ComesBy scope exclusion operation progress left)
    (cuts : Cuts scope exclusion progress left fragment) :
    ∃ frame ∈ progress.frames.head?, ∃ outer spread definition between,
      StandsAt scope excluded operation (outer ++ spread :: between) frame ∧
      spread.kind = .fragmentSpread fragment ∧
      LeadsBack (scope.descent excluded) fragment definition between frame.node := by
  obtain ⟨frame, first, -, spreads, again, -⟩ := cuts_iff.mp cuts
  obtain ⟨above, stands⟩ := comes.ordered decides room frame (List.mem_of_mem_head? first)
  obtain ⟨outer, spread, definition, between, rfl, kind, leads⟩ := stands.leadsBack spreads again
  exact ⟨frame, first, outer, spread, definition, between, stands, kind, leads⟩

theorem reaches_of_path (path : descent.Path origin above target)
    (spreads : target.kind = .fragmentSpread fragment) :
    Reaches descent.fragments origin fragment := by
  induction path with
  | here => exact reaches_of_spread (spread?_eq_some.mpr spreads)
  | down leads _ ih =>
    cases leads with
    | selects _ opened selected => exact (ih spreads).of_selected opened selected
    | spreads kind known => exact (ih spreads).of_definition (spread?_eq_some.mpr kind) known

theorem not_leadsBack_of_acyclic {definition spread : Node} {between : List Node}
    (acyclic : Acyclic descent.fragments) :
    ¬ LeadsBack descent fragment definition between spread := by
  intro back
  exact acyclic.not_reaches back.known (reaches_of_path back.path back.spreads)

/-- **Every frame on the list stands at the end of a way.** Let an exclusion decide by the names of
fields, and let a walk come to any of its states. Then each frame on its list is at the end of a way
down from the operation, on which nothing is passed that is left out. Its depth is the number of
counted fields on the way and at most one more than the limit. It has entered the fragments that the
way has spread since the last counted field, each of them once. It is one beyond the limit only if a
counted field selects it, and has entered nothing then. So a circle is cut only at a spread to which
the definition of its own fragment leads by way of neutral nodes, on the very way that ends there,
and never in a document without such definitions, as one in which no fragment reaches itself. -/
theorem frames_stand_at_ways (decides : exclusion.Decides excluded) (document : Document)
    (limit : Nat) :
    (∀ name operation progress left,
      ComesBy (document.scope name limit) exclusion operation progress left →
        (∀ frame ∈ progress.frames, ∃ above,
          StandsAt (document.scope name limit) excluded operation above frame) ∧
        ∀ fragment, Cuts (document.scope name limit) exclusion progress left fragment →
          ∃ frame ∈ progress.frames.head?, ∃ outer spread definition between,
            StandsAt (document.scope name limit) excluded operation (outer ++ spread :: between)
              frame ∧
            spread.kind = .fragmentSpread fragment ∧
            LeadsBack (document.descent excluded) fragment definition between frame.node) ∧
    ((∀ fragment definition between spread,
        ¬ LeadsBack (document.descent excluded) fragment definition between spread) →
      ∀ name operation progress left fragment,
        ComesBy (document.scope name limit) exclusion operation progress left →
          ¬ Cuts (document.scope name limit) exclusion progress left fragment) ∧
    (Acyclic document.index.fragments →
      ∀ name operation progress left fragment,
        ComesBy (document.scope name limit) exclusion operation progress left →
          ¬ Cuts (document.scope name limit) exclusion progress left fragment) := by
  refine ⟨?_, ?_, ?_⟩
  · intro name operation progress left comes
    have room := Int.natCast_nonneg limit
    exact ⟨comes.ordered decides room, fun fragment => comes.leadsBack decides room⟩
  · intro straight name operation progress left fragment comes cuts
    obtain ⟨_, _, _, _, _, _, _, _, leads⟩ :=
      comes.leadsBack decides (Int.natCast_nonneg limit) cuts
    exact straight _ _ _ _ leads
  · intro acyclic name operation progress left fragment comes cuts
    obtain ⟨_, _, _, _, _, _, _, _, leads⟩ :=
      comes.leadsBack decides (Int.natCast_nonneg limit) cuts
    exact not_leadsBack_of_acyclic acyclic leads

def overlappingQuery : Node :=
  ⟨.operation .query (some "Q"), some [⟨.fragmentSpread "F", none, none⟩], none⟩

/-- What waits on the list of the walk of that query before a circle is cut: the other spread of the
fragment that is being spread, then the rest of both definitions. -/
def beforeCut : Progress where
  frames := [
    ⟨⟨.fragmentSpread "F", none, none⟩, 0, ["G", "F"]⟩,
    ⟨⟨.field none "b", some [⟨.fragmentSpread "G", none, none⟩], none⟩, 0, ["G", "F"]⟩,
    ⟨⟨.field none "x", some [⟨.fragmentSpread "F", none, none⟩], none⟩, 0, ["G", "F"]⟩,
    ⟨⟨.field none "a", some [⟨.fragmentSpread "F", none, none⟩], none⟩, 0, ["F"]⟩]
  found := []

/-- A fragment leads back to itself where its circle is cut, and none is cut in a document without
circles. -/
theorem overlapping_leadsBack :
    Exclusion.Decides (.exact "x") (fun name => isIntrospection name || name == "x") ∧
    ComesBy (overlapping.scope "Q" (3 : Nat)) (.exact "x") overlappingQuery beforeCut .empty ∧
    Cuts (overlapping.scope "Q" (3 : Nat)) (.exact "x") beforeCut .empty "F" ∧
    (∀ frame ∈ beforeCut.frames, ∃ above, StandsAt (overlapping.scope "Q" (3 : Nat))
      (fun name => isIntrospection name || name == "x") overlappingQuery above frame) ∧
    (∃ frame ∈ beforeCut.frames.head?, ∃ definition between,
      LeadsBack (overlapping.descent fun name => isIntrospection name || name == "x") "F"
        definition between frame.node) ∧
    Acyclic sharing.index.fragments ∧
    ∀ name operation progress left fragment,
      ComesBy (sharing.scope name (3 : Nat)) (.exact "x") operation progress left →
        ¬ Cuts (sharing.scope name (3 : Nat)) (.exact "x") progress left fragment := by
  have decides := Exclusion.decides_exact "x"
  have comes : ComesBy (overlapping.scope "Q" (3 : Nat)) (.exact "x") overlappingQuery beforeCut
      .empty := ⟨5, .empty, rfl⟩
  have cuts : Cuts (overlapping.scope "Q" (3 : Nat)) (.exact "x") beforeCut .empty "F" :=
    ⟨_, _, rfl, rfl⟩
  have acyclic : Acyclic sharing.index.fragments :=
    acyclic_of_rank (fun fragment => if fragment = "F" then 1 else 0) (by decide)
  obtain ⟨stand, -, -⟩ := frames_stand_at_ways decides overlapping 3
  obtain ⟨-, -, straight⟩ := frames_stand_at_ways decides sharing 3
  obtain ⟨stands, back⟩ := stand _ _ _ _ comes
  obtain ⟨frame, first, _, _, definition, between, _, _, leads⟩ := back "F" cuts
  exact ⟨decides, comes, cuts, stands, ⟨frame, first, definition, between, leads⟩, acyclic,
    straight acyclic⟩

end QueryDepth.WorklistFrames
