import Mathlib.Order.WellFounded
import QueryDepth.Proofs.DecidedWalk

/-! The frames that a walk reaches, and the ways down that lead there. A spread that would enter a
fragment again before a field is counted is cut, and no node is missed by that. A shortest way to a
node never enters a fragment twice between two counted fields, since what lies between could be left
out, so the walk follows it to its end. -/
namespace QueryDepth

namespace Descent

/-- How many counted fields a node is: one or none. -/
def weight (descent : Descent) (node : Node) : Nat := if descent.counts node then 1 else 0

/-- A way down to a target with so many counted fields above it. No node above the target has more
counted fields above it than there is room for. -/
structure Way (descent : Descent) (room : Int) (count : Nat) (start : Node) (above : List Node)
    (target : Node) : Prop where
  path : descent.Path start above target
  counted : above.countP descent.counts = count
  within : ∀ earlier node, earlier ++ [node] <+: above → (earlier.countP descent.counts : Int) ≤ room

/-- No other way to the target is shorter. -/
structure Shortest (descent : Descent) (room : Int) (count : Nat) (start : Node)
    (above : List Node) (target : Node) : Prop where
  way : descent.Way room count start above target
  least : ∀ other, descent.Way room count start other target → above.length ≤ other.length

/-- From no fragment entered so far is there a way to the target of less than the given length. -/
def NoneNearer (descent : Descent) (room : Int) (count : Nat) (entered : List String)
    (length : Nat) (target : Node) : Prop :=
  ∀ fragment ∈ entered, ∀ definition, descent.fragments.find? fragment = some definition →
    ∀ other, descent.Way room count definition other target → length ≤ other.length

variable {descent : Descent} {room : Int} {count : Nat} {parent child start target : Node}
  {above : List Node}

theorem weight_counted (counts : descent.counts parent = true) : descent.weight parent = 1 := by
  simp [weight, counts]

theorem weight_neutral (neutral : descent.counts parent = false) : descent.weight parent = 0 := by
  simp [weight, neutral]

theorem countP_cons_weight (descent : Descent) (node : Node) (above : List Node) :
    (node :: above).countP descent.counts = above.countP descent.counts + descent.weight node := by
  rw [List.countP_cons, weight]

namespace Way

theorem here : descent.Way room 0 target [] target :=
  ⟨.here, rfl, fun earlier node before => by simp at before⟩

/-- A step down to where there is less room by what the node counts. -/
theorem down (inside : 0 ≤ room) (leads : descent.Leads parent child)
    (way : descent.Way (room - descent.weight parent) count child above target) :
    descent.Way room (count + descent.weight parent) parent (parent :: above) target := by
  refine ⟨.down leads way.path, ?_, fun earlier node before => ?_⟩
  · rw [countP_cons_weight, way.counted]
  · cases earlier with
    | nil => simpa using inside
    | cons _ earlier =>
      obtain ⟨rfl, later⟩ := List.cons_prefix_cons.mp before
      have fits := way.within earlier node later
      rw [countP_cons_weight]
      omega

theorem cases_cons (way : descent.Way room count start (parent :: above) target) :
    start = parent ∧ 0 ≤ room ∧ ∃ child fewer, descent.Leads parent child ∧
      count = fewer + descent.weight parent ∧
      descent.Way (room - descent.weight parent) fewer child above target := by
  obtain ⟨path, counted, within⟩ := way
  cases path with
  | @down _ child _ _ leads path =>
    have inside : 0 ≤ room := by simpa using within [] parent (by simp)
    rw [countP_cons_weight] at counted
    refine ⟨rfl, inside, child, _, leads, counted.symm, path, rfl, fun earlier node before => ?_⟩
    have fits := within (parent :: earlier) node (List.cons_prefix_cons.mpr ⟨rfl, before⟩)
    rw [countP_cons_weight] at fits
    omega

theorem exists_shortest (way : descent.Way room count start above target) :
    ∃ above, descent.Shortest room count start above target := by
  obtain ⟨shortest, way, least⟩ := WellFounded.has_min (measure List.length).wf
    {other | descent.Way room count start other target} ⟨above, way⟩
  exact ⟨shortest, way, fun other way => Nat.le_of_not_lt (least other way)⟩

end Way

/-- What is left of a shortest way after one step is a shortest way. -/
theorem Shortest.cases_cons (shortest : descent.Shortest room count start (parent :: above) target) :
    start = parent ∧ 0 ≤ room ∧ ∃ child fewer, descent.Leads parent child ∧
      count = fewer + descent.weight parent ∧
      descent.Shortest (room - descent.weight parent) fewer child above target := by
  obtain ⟨rfl, inside, child, fewer, leads, rfl, way⟩ := shortest.way.cases_cons
  refine ⟨rfl, inside, child, fewer, leads, rfl, way, fun other shortcut => ?_⟩
  exact Nat.le_of_succ_le_succ (shortest.least _ (shortcut.down inside leads))

end Descent

variable {scope : Scope} {excluded : String → Bool} {frame : Frame} {target : Node} {room : Int}
  {count : Nat}

namespace Frame

theorem step_depth {child : Node} (leads : (scope.descent excluded).Leads frame.node child) :
    (frame.step child).depth = frame.depth + (scope.descent excluded).weight frame.node := by
  cases counts : (scope.descent excluded).counts frame.node with
  | true => rw [step_counted child counts, Descent.weight_counted counts]
  | false => rw [step_neutral leads counts, Descent.weight_neutral counts, Nat.add_zero]

/-- After a step only the fragment that was spread is entered in addition. -/
theorem entered_step {child : Node} {fragment : String}
    (entered : fragment ∈ (frame.step child).entered) :
    fragment ∈ frame.entered ∨ frame.node.kind = .fragmentSpread fragment := by
  unfold step at entered
  split at entered
  · contradiction
  · rename_i spread kind
    rcases List.mem_cons.mp entered with rfl | earlier
    · exact .inr kind
    · exact .inl earlier
  all_goals exact .inl entered

/-- A step of a shortest way is not cut: the definition is nearer to the target than the spread, so
it cannot have been entered before. -/
theorem not_again {child : Node} {below : List Node} {fewer : Nat}
    (nearer : (scope.descent excluded).NoneNearer room count frame.entered (below.length + 1) target)
    (leads : (scope.descent excluded).Leads frame.node child)
    (counted : count = fewer + (scope.descent excluded).weight frame.node)
    (way : (scope.descent excluded).Way (room - (scope.descent excluded).weight frame.node) fewer
      child below target) : ¬ frame.Again := by
  rintro ⟨fragment, kind, entered⟩
  have neutral : (scope.descent excluded).counts frame.node = false := by simp [Descent.counts, kind]
  rw [Descent.weight_neutral neutral] at counted way
  have direct : (scope.descent excluded).Way room count child below target := by
    simpa [counted] using way
  exact Nat.not_succ_le_self _ (nearer fragment entered child (leads.known kind) below direct)

/-- After a step of a shortest way still no entered fragment is nearer to the target. Below a
counted field none is entered at all. -/
theorem noneNearer_step {child : Node} {below : List Node} {fewer : Nat}
    (nearer : (scope.descent excluded).NoneNearer room count frame.entered (below.length + 1) target)
    (leads : (scope.descent excluded).Leads frame.node child)
    (counted : count = fewer + (scope.descent excluded).weight frame.node)
    (shortest : (scope.descent excluded).Shortest
      (room - (scope.descent excluded).weight frame.node) fewer child below target) :
    (scope.descent excluded).NoneNearer (room - (scope.descent excluded).weight frame.node) fewer
      (frame.step child).entered below.length target := by
  intro fragment entered definition known other way
  cases counts : (scope.descent excluded).counts frame.node with
  | true =>
    rw [step_counted child counts] at entered
    cases entered
  | false =>
    rcases entered_step entered with earlier | kind
    · have weightless := Descent.weight_neutral counts
      have direct : (scope.descent excluded).Way room count definition other target := by
        simpa [weightless, counted] using way
      exact Nat.le_of_succ_le (nearer fragment earlier definition known other direct)
    · obtain rfl : child = definition := Option.some.inj ((leads.known kind).symm.trans known)
      exact shortest.least other way

end Frame

namespace Scope

/-- The walk follows a shortest way to its end. -/
theorem exists_reached_of_shortest {above : List Node}
    (shortest : (scope.descent excluded).Shortest (scope.limit - frame.depth) count frame.node above
      target)
    (nearer : (scope.descent excluded).NoneNearer (scope.limit - frame.depth) count frame.entered
      above.length target) :
    ∃ reached, scope.Reaches excluded frame reached ∧ reached.node = target ∧
      reached.depth = frame.depth + count := by
  induction above generalizing frame count with
  | nil =>
    obtain ⟨path, rfl, _⟩ := shortest.way
    cases path
    exact ⟨frame, .here, rfl, rfl⟩
  | cons parent below ih =>
    obtain ⟨rfl, inside, child, fewer, leads, counted, later⟩ := shortest.cases_cons
    have within : frame.exceeds scope = false := by
      simp only [Frame.exceeds, decide_eq_false_iff_not]
      omega
    have fresh : ¬ frame.Again := Frame.not_again nearer leads counted later.way
    have led : frame.step child ∈ frame.children scope excluded :=
      (Frame.mem_children within).mpr ⟨fresh, child, leads, rfl⟩
    have deeper := Frame.step_depth leads
    have remains : scope.limit - (frame.step child).depth =
        scope.limit - frame.depth - (scope.descent excluded).weight frame.node := by
      rw [deeper]
      omega
    have nearerBelow := Frame.noneNearer_step nearer leads counted later
    obtain ⟨reached, reaches, here, depth⟩ := @ih (frame.step child) fewer
      (by rw [remains, Frame.step_node]; exact later) (by rw [remains]; exact nearerBelow)
    exact ⟨reached, .down within led reaches, here, by omega⟩

/-- From an operation on, the walk reaches the end of every way. -/
theorem exists_reached_of_way {operation : Node} {above : List Node}
    (way : (scope.descent excluded).Way scope.limit count operation above target) :
    ∃ reached, scope.Reaches excluded ⟨operation, 0, []⟩ reached ∧ reached.node = target ∧
      reached.depth = count := by
  let root : Frame := ⟨operation, 0, []⟩
  have whole : scope.limit - root.depth = scope.limit := Int.sub_zero _
  obtain ⟨above, shortest⟩ := way.exists_shortest
  rw [← whole] at shortest
  obtain ⟨reached, reaches, here, depth⟩ := exists_reached_of_shortest shortest
    fun fragment entered => by cases entered
  exact ⟨reached, reaches, here, depth.trans (Nat.zero_add _)⟩

/-- Whatever frame the walk reaches is at the end of a way. -/
theorem Reaches.exists_way {reached : Frame} (reaches : scope.Reaches excluded frame reached) :
    ∃ above count, (scope.descent excluded).Way (scope.limit - frame.depth) count frame.node above
      reached.node ∧ reached.depth = frame.depth + count := by
  induction reaches with
  | here => exact ⟨[], 0, .here, rfl⟩
  | @down frame child target within led _ ih =>
    obtain ⟨_, node, leads, rfl⟩ := (Frame.mem_children within).mp led
    obtain ⟨above, count, way, depth⟩ := ih
    have deeper := Frame.step_depth leads
    have remains : scope.limit - (frame.step node).depth =
        scope.limit - frame.depth - (scope.descent excluded).weight frame.node := by
      rw [deeper]
      omega
    have inside : 0 ≤ scope.limit - frame.depth := by
      simp only [Frame.exceeds, decide_eq_false_iff_not] at within
      omega
    rw [Frame.step_node, remains] at way
    exact ⟨_, _, way.down inside leads, by omega⟩

end Scope

end QueryDepth
