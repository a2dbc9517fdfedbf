import Mathlib.Logic.Function.Iterate
import QueryDepth.Depth.Walk

/-! A walk ends, whatever the fragments of a document spread and whatever an exclusion answers. The
loop is taken apart into single turns here, which need not end by themselves, and the number of
turns is bounded by what the stack would cost if nothing were left out. -/
namespace QueryDepth.WalkTermination

/-- A walk between two turns. It is under way with a stack, or it is over with an outcome. -/
inductive Stage where
  | underWay (progress : Progress) (trace : Trace)
  | over (outcome : Except Failure (List Node) × Trace)

/-- The loop of a walk, gone through once. A walk that is over remains so. -/
def advance (scope : Scope) (exclusion : Exclusion) : Stage → Stage
  | .over outcome => .over outcome
  | .underWay ⟨[], found⟩ trace => .over (.ok found.reverse, trace)
  | .underWay ⟨frame :: rest, found⟩ trace =>
    match (scope.turn exclusion frame rest found).after trace with
    | (.error failure, left) => .over (.error failure, left)
    | (.ok next, left) => .underWay next left

def start (operation : Node) (trace : Trace) : Stage := .underWay ⟨[⟨operation, 0, []⟩], []⟩ trace

/-- The violations of operations, if the loop is left after at most so many turns for each of
them. -/
def violationsWithin (turns : Nat) (fragments : NameTable) (limit : Int) (exclusion : Exclusion) :
    List (String × Node) → Trace → Option (Except Failure (List Violation) × Trace)
  | [], trace => some (.ok [], trace)
  | (name, operation) :: rest, trace =>
    match (advance ⟨name, fragments, limit⟩ exclusion)^[turns] (start operation trace) with
    | .underWay _ _ => none
    | .over (.error failure, left) => some (.error failure, left)
    | .over (.ok nodes, left) =>
      match violationsWithin turns fragments limit exclusion rest left with
      | none => none
      | some (.error failure, left) => some (.error failure, left)
      | some (.ok others, left) =>
        some (.ok (nodes.map (fun node => ⟨name, limit, node⟩) ++ others), left)

theorem over_iterate (scope : Scope) (exclusion : Exclusion)
    (outcome : Except Failure (List Node) × Trace) (turns : Nat) :
    (advance scope exclusion)^[turns] (.over outcome) = .over outcome :=
  Function.iterate_fixed rfl turns

/-- A turn that does not end the walk lowers the cost of the stack. -/
theorem totalCost_advance_lt {scope : Scope} {exclusion : Exclusion} {progress next : Progress}
    {trace left : Trace}
    (advanced : advance scope exclusion (.underWay progress trace) = .underWay next left) :
    Frame.totalCost scope next.frames < Frame.totalCost scope progress.frames := by
  obtain ⟨frames, found⟩ := progress
  cases frames with
  | nil => cases advanced
  | cons frame rest =>
    simp only [advance] at advanced
    split at advanced
    · cases advanced
    · rename_i turned
      cases advanced
      exact Scope.totalCost_turn_lt turned

/-- Once there are as many turns as the stack costs, and one more to find it empty, the walk is over
with the outcome that it is said to have. -/
theorem over_of_totalCost_lt (scope : Scope) (exclusion : Exclusion) (progress : Progress)
    (trace : Trace) {turns : Nat} (enough : Frame.totalCost scope progress.frames < turns) :
    (advance scope exclusion)^[turns] (.underWay progress trace) =
      .over (scope.walk exclusion progress trace) := by
  obtain ⟨before, rfl⟩ : ∃ before, turns = before + 1 := ⟨turns - 1, by omega⟩
  rw [Function.iterate_succ_apply]
  induction progress, trace using Scope.walk.induct scope exclusion generalizing before with
  | case1 trace found =>
    rw [Scope.walk_nil, advance, over_iterate]
  | case2 trace frame rest found failure left turned =>
    rw [Scope.walk_cons, advance, turned, over_iterate]
  | case3 trace frame rest found next left turned ih =>
    have cheaper := Scope.totalCost_turn_lt turned
    simp only at enough
    obtain ⟨earlier, rfl⟩ : ∃ earlier, before = earlier + 1 := ⟨before - 1, by omega⟩
    rw [Scope.walk_cons, advance, turned, Function.iterate_succ_apply]
    exact ih earlier (by omega)

def operationsCost (fragments : NameTable) (limit : Int) : List (String × Node) → Nat
  | [] => 0
  | (name, operation) :: rest =>
    Frame.cost ⟨name, fragments, limit⟩ ⟨operation, 0, []⟩ + operationsCost fragments limit rest

theorem walked_of_cost_lt {name : String} {fragments : NameTable} {limit : Int} {operation : Node}
    {turns : Nat} (exclusion : Exclusion) (trace : Trace)
    (enough : Frame.cost ⟨name, fragments, limit⟩ ⟨operation, 0, []⟩ < turns) :
    (advance ⟨name, fragments, limit⟩ exclusion)^[turns] (start operation trace) =
      .over (Scope.walk ⟨name, fragments, limit⟩ exclusion ⟨[⟨operation, 0, []⟩], []⟩ trace) :=
  over_of_totalCost_lt _ _ _ _ (by simpa using enough)

/-- With enough turns for each of them, operations are all done. -/
theorem violationsWithin_of_cost_lt {turns : Nat} {fragments : NameTable} {limit : Int}
    (exclusion : Exclusion) {operations : List (String × Node)} (trace : Trace)
    (enough : operationsCost fragments limit operations < turns) :
    violationsWithin turns fragments limit exclusion operations trace =
      some ((do
        let found ← operations.mapM fun (name, operation) =>
          Scope.violations ⟨name, fragments, limit⟩ exclusion operation
        return found.flatten : Run (List Violation)).after trace) := by
  induction operations generalizing trace with
  | nil => rfl
  | cons entry rest ih =>
    obtain ⟨name, operation⟩ := entry
    rw [operationsCost] at enough
    rw [violationsWithin, walked_of_cost_lt exclusion trace (by omega), Run.mapM_flatten_cons,
      Run.after_bind, Scope.violations_after]
    rcases Scope.walk ⟨name, fragments, limit⟩ exclusion ⟨[⟨operation, 0, []⟩], []⟩ trace with
      ⟨failure | nodes, left⟩
    · rfl
    · simp only [ih left (by omega), Run.after_bind, Run.after_pure]
      split <;> simp_all

theorem walk_eq_of_over {scope : Scope} {exclusion : Exclusion} {progress : Progress}
    {trace : Trace} {outcome : Except Failure (List Node) × Trace} {turns : Nat}
    (ends : (advance scope exclusion)^[turns] (.underWay progress trace) = .over outcome) :
    scope.walk exclusion progress trace = outcome := by
  let cost := Frame.totalCost scope progress.frames
  have enough : (advance scope exclusion)^[cost + 1 + turns] (.underWay progress trace) =
      .over (scope.walk exclusion progress trace) :=
    over_of_totalCost_lt scope exclusion progress trace (by omega)
  rw [Function.iterate_add_apply, ends, over_iterate] at enough
  exact (Stage.over.inj enough).symm

/-- Operations that are all done after some turns for each of them have come to their outcome. So
what a check comes to can be computed. -/
theorem violations_eq_of_within (turns : Nat) {fragments : NameTable} {limit : Int}
    {exclusion : Exclusion} {operations : List (String × Node)} {trace : Trace}
    {outcome : Except Failure (List Violation) × Trace}
    (ends : violationsWithin turns fragments limit exclusion operations trace = some outcome) :
    (do
      let found ← operations.mapM fun (name, operation) =>
        Scope.violations ⟨name, fragments, limit⟩ exclusion operation
      return found.flatten : Run (List Violation)).after trace = outcome := by
  induction operations generalizing trace outcome with
  | nil => exact Option.some.inj ends
  | cons entry rest ih =>
    obtain ⟨name, operation⟩ := entry
    rw [Run.mapM_flatten_cons, Run.after_bind, Scope.violations_after]
    rw [violationsWithin] at ends
    split at ends
    · cases ends
    · rename_i first
      rw [walk_eq_of_over first]
      exact Option.some.inj ends
    · rename_i nodes left first
      rw [walk_eq_of_over first]
      dsimp only
      rw [Run.after_bind]
      split at ends
      · cases ends
      · rename_i later
        rw [ih later]
        exact Option.some.inj ends
      · rename_i later
        rw [ih later]
        exact Option.some.inj ends

/-- **Every walk ends.** A turn lowers the cost of the stack, a natural number. So the loop is left
for every operation, with an empty stack or with a failure, after a number of turns that neither
the exclusion nor what has been left behind can raise, and a document always comes to an end. -/
theorem every_walk_ends (document : Document) (limit : Int) :
    (∀ name exclusion progress next trace left,
      advance ⟨name, document.index.fragments, limit⟩ exclusion (.underWay progress trace) =
          .underWay next left →
        Frame.totalCost ⟨name, document.index.fragments, limit⟩ next.frames <
          Frame.totalCost ⟨name, document.index.fragments, limit⟩ progress.frames) ∧
    (∀ name operation, ∃ turns, ∀ exclusion trace, ∃ outcome,
      (advance ⟨name, document.index.fragments, limit⟩ exclusion)^[turns] (start operation trace) =
        .over outcome) ∧
    ∃ turns, ∀ exclusion trace,
      violationsWithin turns document.index.fragments limit exclusion document.index.operations
          trace = some ((document.violations limit exclusion).after trace) := by
  refine ⟨?_, ?_, ?_⟩
  · intro name exclusion progress next trace left advanced
    exact totalCost_advance_lt advanced
  · intro name operation
    let cost := Frame.cost ⟨name, document.index.fragments, limit⟩ ⟨operation, 0, []⟩
    refine ⟨cost + 1, fun exclusion trace => ?_⟩
    exact ⟨_, walked_of_cost_lt exclusion trace (Nat.lt_succ_self cost)⟩
  · let cost := operationsCost document.index.fragments limit document.index.operations
    refine ⟨cost + 1, fun exclusion trace => ?_⟩
    exact violationsWithin_of_cost_lt exclusion trace (Nat.lt_succ_self cost)

def spread : Node := ⟨.fragmentSpread "F", none, none⟩

/-- A fragment that spreads itself, at once and again below a field. -/
def circle : Document where
  definitions := [
    ⟨.operation .query none, some [spread], none⟩,
    ⟨.fragmentDefinition "F" "T", some [spread, ⟨.field none "a", some [spread], none⟩], none⟩]

/-- The first turn for an operation that spreads a circle of fragments puts the spread on the
stack, and the walk ends all the same. -/
theorem every_walk_ends_circle :
    advance ⟨"", circle.index.fragments, 3⟩ .nothing
        (start ⟨.operation .query none, some [spread], none⟩ .empty) =
      .underWay ⟨[⟨spread, 0, []⟩], []⟩ .empty ∧
    Frame.totalCost ⟨"", circle.index.fragments, 3⟩ [⟨spread, 0, []⟩] <
      Frame.totalCost ⟨"", circle.index.fragments, 3⟩
        [⟨⟨.operation .query none, some [spread], none⟩, 0, []⟩] ∧
    ∃ turns, ∀ exclusion trace,
      violationsWithin turns circle.index.fragments 3 exclusion circle.index.operations trace =
        some ((circle.violations 3 exclusion).after trace) := by
  obtain ⟨lowers, _, ends⟩ := every_walk_ends circle 3
  have lower := lowers "" .nothing ⟨[⟨⟨.operation .query none, some [spread], none⟩, 0, []⟩], []⟩
    ⟨[⟨spread, 0, []⟩], []⟩ .empty .empty rfl
  exact ⟨rfl, lower, ends⟩

end QueryDepth.WalkTermination
