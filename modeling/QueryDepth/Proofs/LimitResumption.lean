import QueryDepth.Proofs.CycleCut

/-! What a limit reports, from what a lower limit reports. A walk gets beyond its limit only by a
step from a counted field, and below such a field no fragment is entered. So nothing of what came
before is lost, and a higher limit resumes with a fresh walk at every node that was reported. -/
namespace QueryDepth.LimitResumption

open Document (mem_nodes_of_reported)

variable {document : Document} {name : String} {fragments : NameTable} {excluded : String → Bool}
  {exclusion : Exclusion} {frame child : Frame} {limit lower higher : Int} {fields gap : Nat}

/-- A frame that a walk can come to within a limit: it lies at most one field beyond the limit, and
if it lies beyond, then no fragment is entered. -/
structure Reachable (limit : Int) (frame : Frame) : Prop where
  near : frame.depth ≤ limit + 1
  fresh : limit < frame.depth → frame.entered = []

theorem reachable_operation (bound : -1 ≤ limit) (operation : Node) :
    Reachable limit ⟨operation, 0, []⟩ where
  near := by
    change ((0 : Nat) : Int) ≤ limit + 1
    omega
  fresh _ := rfl

/-- What a frame within the limit leads to can be come to. -/
theorem reachable_of_mem_children (within : frame.exceeds ⟨name, fragments, limit⟩ = false)
    (member : child ∈ frame.children ⟨name, fragments, limit⟩ excluded) :
    Reachable limit child := by
  have room : (frame.depth : Int) ≤ limit := by simpa [Frame.exceeds] using within
  obtain ⟨_, node, _, rfl⟩ := (Frame.mem_children within).mp member
  rcases Frame.step_cases frame node with level | ⟨deeper, fresh⟩
  · constructor
    · rw [level]
      omega
    · intro beyond
      rw [level] at beyond
      omega
  · refine ⟨?_, fun _ => fresh⟩
    rw [deeper]
    omega

/-! ## Walks further down -/

/-- A frame as it is found further down, below so many more counted fields. -/
def deepen (fields : Nat) (frame : Frame) : Frame := { frame with depth := frame.depth + fields }

theorem exceeds_deepen (fields : Nat) (frame : Frame) :
    (deepen fields frame).exceeds ⟨name, fragments, limit + fields⟩ =
      frame.exceeds ⟨name, fragments, limit⟩ := by
  simp [Frame.exceeds, deepen]

theorem step_deepen (node : Node) :
    (deepen fields frame).step node = deepen fields (frame.step node) := by
  unfold Frame.step deepen
  split <;> simp_all [Nat.add_right_comm]

theorem children_deepen (within : frame.exceeds ⟨name, fragments, limit⟩ = false) :
    (deepen fields frame).children ⟨name, fragments, limit + fields⟩ excluded =
      (frame.children ⟨name, fragments, limit⟩ excluded).map (deepen fields) := by
  have deeper := within
  rw [← exceeds_deepen fields] at deeper
  by_cases again : frame.Again
  · have deepAgain : (deepen fields frame).Again := again
    rw [Frame.children_of_again again, Frame.children_of_again deepAgain, List.map_nil]
  · have deepFresh : ¬ (deepen fields frame).Again := again
    rw [Frame.children_eq_map within again, Frame.children_eq_map deeper deepFresh, List.map_map]
    exact List.map_congr_left fun node _ => step_deepen node

/-- What is found does not depend on how deep a walk starts, if the limit is as much deeper. -/
theorem found_deepen (frame : Frame) :
    Scope.found ⟨name, fragments, limit + fields⟩ excluded (deepen fields frame) =
      Scope.found ⟨name, fragments, limit⟩ excluded frame := by
  induction frame using Scope.found.induct ⟨name, fragments, limit⟩ excluded with
  | case1 frame beyond =>
    have deeper := beyond
    rw [← exceeds_deepen fields] at deeper
    rw [Scope.found_beyond beyond, Scope.found_beyond deeper]
    rfl
  | case2 frame within ih =>
    have within : frame.exceeds ⟨name, fragments, limit⟩ = false := by simpa using within
    have deeper := within
    rw [← exceeds_deepen fields] at deeper
    rw [Scope.found_within within, Scope.found_within deeper, children_deepen within,
      List.flatMap_map]
    exact List.flatMap_congr fun child member => ih ⟨child, member⟩

/-! ## Going on -/

/-- Within two limits a frame leads to the same frames. -/
theorem children_raise (within : frame.exceeds ⟨name, fragments, limit⟩ = false)
    (above : frame.exceeds ⟨name, fragments, limit + gap⟩ = false) :
    frame.children ⟨name, fragments, limit + gap⟩ excluded =
      frame.children ⟨name, fragments, limit⟩ excluded := by
  by_cases again : frame.Again
  · rw [Frame.children_of_again again, Frame.children_of_again again]
  · rw [Frame.children_eq_map within again, Frame.children_eq_map above again]
    rfl

/-- A higher limit finds what fresh walks find from the nodes that a lower limit finds. -/
theorem found_raise (gap : Nat) (frame : Frame) (reachable : Reachable limit frame) :
    Scope.found ⟨name, fragments, limit + gap⟩ excluded frame =
      (Scope.found ⟨name, fragments, limit⟩ excluded frame).flatMap fun node =>
        Scope.found ⟨name, fragments, gap - 1⟩ excluded ⟨node, 0, []⟩ := by
  induction frame using Scope.found.induct ⟨name, fragments, limit⟩ excluded with
  | case1 frame beyond =>
    rw [Scope.found_beyond beyond, List.flatMap_singleton]
    obtain ⟨node, depth, entered⟩ := frame
    have past : limit < depth := by simpa [Frame.exceeds] using beyond
    have near : (depth : Int) ≤ limit + 1 := reachable.near
    obtain rfl : entered = [] := reachable.fresh past
    have same : (⟨node, depth, []⟩ : Frame) = deepen depth ⟨node, 0, []⟩ := by simp [deepen]
    have level : limit + gap = (gap - 1 : Int) + depth := by omega
    rw [level, same]
    exact found_deepen _
  | case2 frame within ih =>
    have within : frame.exceeds ⟨name, fragments, limit⟩ = false := by simpa using within
    have above : frame.exceeds ⟨name, fragments, limit + gap⟩ = false := by
      simp only [Frame.exceeds, decide_eq_false_iff_not, Int.not_lt] at within ⊢
      omega
    rw [Scope.found_within within, Scope.found_within above, children_raise within above,
      List.flatMap_assoc]
    exact List.flatMap_congr fun child member =>
      ih ⟨child, member⟩ (reachable_of_mem_children within member)

theorem found_of_neg (negative : limit < 0) (operation : Node) :
    Scope.found ⟨name, fragments, limit⟩ excluded ⟨operation, 0, []⟩ = [operation] :=
  Scope.found_beyond (by simpa [Frame.exceeds] using negative)

/-- Below zero it makes no difference what the limit is. -/
theorem found_clamp (operation : Node) :
    Scope.found ⟨name, fragments, max limit (-1)⟩ excluded ⟨operation, 0, []⟩ =
      Scope.found ⟨name, fragments, limit⟩ excluded ⟨operation, 0, []⟩ := by
  by_cases negative : limit < 0
  · have clamped : max limit (-1) < 0 := by omega
    rw [found_of_neg negative, found_of_neg clamped]
  · have same : max limit (-1) = limit := by omega
    rw [same]

/-- Whatever a fresh walk finds is at the end of a way below one field more than its limit. -/
theorem exists_firstBelow_of_fresh {start node : Node}
    (member : node ∈ Scope.found ⟨name, fragments, gap - 1⟩ excluded ⟨start, 0, []⟩) :
    ∃ above, Descent.FirstBelow ⟨fragments, excluded⟩ gap start above node := by
  cases gap with
  | zero =>
    have negative : ((0 : Nat) : Int) - 1 < 0 := by decide
    rw [found_of_neg negative, List.mem_singleton] at member
    subst member
    exact ⟨[], .here⟩
  | succ gap =>
    have bound : ((gap + 1 : Nat) : Int) - 1 = gap := by omega
    have room : (⟨start, 0, []⟩ : Frame).depth + (gap + 1) = gap + 1 := Nat.zero_add _
    exact CycleCut.exists_firstBelow_of_mem_found bound room member

/-- From an operation on, what a higher limit finds lies below what a lower limit finds. -/
theorem exists_shallow {operation node : Node} (le : lower ≤ higher)
    (member : node ∈ Scope.found ⟨name, fragments, higher⟩ excluded ⟨operation, 0, []⟩) :
    ∃ middle ∈ Scope.found ⟨name, fragments, lower⟩ excluded ⟨operation, 0, []⟩,
      ∃ above, Descent.FirstBelow ⟨fragments, excluded⟩
        ((higher + 1).toNat - (lower + 1).toNat) middle above node := by
  have level : max higher (-1) =
      max lower (-1) + ((higher + 1).toNat - (lower + 1).toNat : Nat) := by omega
  have reachable := reachable_operation (le_max_right lower (-1)) operation
  rw [← found_clamp, level, found_raise _ _ reachable, found_clamp] at member
  obtain ⟨middle, shallow, deeper⟩ := List.mem_flatMap.mp member
  exact ⟨middle, shallow, exists_firstBelow_of_fresh deeper⟩

/-! ## Documents -/

/-- A fresh walk from the node of a violation, within limit zero. What it finds is reported for the
same operation, with another limit. -/
def resume (document : Document) (exclusion : Exclusion) (limit : Int) (violation : Violation) :
    Run (List Violation) := do
  let found ← (document.scope violation.operation 0).violations exclusion violation.node
  return found.map fun deeper => { deeper with limit := limit }

/-- A violation lies below another one of the same operation: a way leads down to it, on which it is
the first node with as many more counted fields above it as its limit is higher. -/
def LiesBelow (document : Document) (excluded : String → Bool) (deep shallow : Violation) : Prop :=
  deep.operation = shallow.operation ∧ ∃ above, (document.descent excluded).FirstBelow
    ((deep.limit + 1).toNat - (shallow.limit + 1).toNat) shallow.node above deep.node

/-- What a fresh walk is reported to find. -/
def resumed (document : Document) (excluded : String → Bool) (limit : Int) (violation : Violation) :
    List Violation :=
  ((document.scope violation.operation 0).found excluded ⟨violation.node, 0, []⟩).map fun node =>
    ⟨violation.operation, limit, node⟩

/-- A fresh walk from a node of a complete document comes to what is found. -/
theorem resume_comesTo (complete : document.Complete) (decides : exclusion.Decides excluded)
    (limit : Int) {violation : Violation} (inside : violation.node ∈ document.nodes) :
    (resume document exclusion limit violation).ComesTo
      (.ok (resumed document excluded limit violation)) := by
  simp only [resume, resumed, Scope.violations, RecursiveVisit.walk_eq_visit, bind_assoc, pure_bind,
    List.map_map]
  have visited :
      (RecursiveVisit.visit (document.scope violation.operation 0) exclusion violation.node 0
        []).ComesTo
          (.ok ((document.scope violation.operation 0).found excluded ⟨violation.node, 0, []⟩)) :=
    RecursiveVisit.visit_comesTo complete decides ⟨violation.node, 0, []⟩ inside
  exact visited.bind (Run.comesTo_pure _)

/-- With a limit that is one higher, each violation is replaced by what a fresh walk from its node
is reported to find. -/
theorem found_succ (bound : -1 ≤ limit) :
    document.found (limit + 1) excluded =
      (document.found limit excluded).flatMap (resumed document excluded (limit + 1)) := by
  simp only [Document.found, List.flatMap_assoc]
  refine List.flatMap_congr fun entry _ => ?_
  obtain ⟨name, operation⟩ := entry
  have raised : (document.scope name (limit + 1)).found excluded ⟨operation, 0, []⟩ =
      ((document.scope name limit).found excluded ⟨operation, 0, []⟩).flatMap fun node =>
        (document.scope name 0).found excluded ⟨node, 0, []⟩ :=
    found_raise 1 _ (reachable_operation bound operation)
  rw [raised, List.map_flatMap, List.flatMap_map]
  rfl

/-- Within limit minus one the indexed operations are reported, and nothing else. -/
theorem found_neg_one : document.found (-1) excluded =
    document.index.operations.map fun entry => ⟨entry.1, -1, entry.2⟩ := by
  have alone : ∀ entry : String × Node,
      (document.scope entry.1 (-1)).found excluded ⟨entry.2, 0, []⟩ = [entry.2] :=
    fun entry => found_of_neg (by decide) entry.2
  simp only [Document.found, alone, List.map_singleton]
  exact List.map_eq_flatMap.symm

/-- Every violation lies below a violation that a lower limit reports. -/
theorem exists_shallow_violation (le : lower ≤ higher) {deep : Violation}
    (reported : deep ∈ document.found higher excluded) :
    ∃ shallow ∈ document.found lower excluded, LiesBelow document excluded deep shallow := by
  obtain ⟨⟨name, operation⟩, indexed, member⟩ := List.mem_flatMap.mp reported
  obtain ⟨node, found, rfl⟩ := List.mem_map.mp member
  obtain ⟨middle, shallow, falls⟩ := exists_shallow le found
  have reported : ⟨name, lower, middle⟩ ∈ document.found lower excluded :=
    List.mem_flatMap.mpr ⟨(name, operation), indexed, List.mem_map.mpr ⟨middle, shallow, rfl⟩⟩
  exact ⟨⟨name, lower, middle⟩, reported, rfl, falls⟩

/-- What stays within a limit stays within every higher one. -/
theorem found_eq_nil_of_le (le : lower ≤ higher) (accepted : document.found lower excluded = []) :
    document.found higher excluded = [] := by
  refine List.eq_nil_iff_forall_not_mem.mpr fun deep reported => ?_
  obtain ⟨shallow, reported, _⟩ := exists_shallow_violation le reported
  rw [accepted] at reported
  cases reported

/-- **A limit that is one higher resumes where the lower one stopped.** In place and in order, each
violation is replaced by what a fresh walk finds from its node. So within limit minus one exactly
the operations are reported, what a higher limit reports lies below what a lower one reports, and a
document that stays within a limit stays within every higher one. -/
theorem higher_limit_resumes (complete : document.Complete) (decides : exclusion.Decides excluded) :
    ∃ found : Int → List Violation,
      (∀ limit, (document.violations limit exclusion).ComesTo (.ok (found limit))) ∧
      (∀ limit, -1 ≤ limit → ∃ deeper : Violation → List Violation,
        (∀ violation ∈ found limit, (resume document exclusion (limit + 1) violation).ComesTo
          (.ok (deeper violation))) ∧
        found (limit + 1) = (found limit).flatMap deeper) ∧
      found (-1) = document.index.operations.map (fun entry => ⟨entry.1, -1, entry.2⟩) ∧
      (∀ lower higher, lower ≤ higher → ∀ deep ∈ found higher, ∃ shallow ∈ found lower,
        LiesBelow document excluded deep shallow) ∧
      ∀ lower higher, lower ≤ higher → found lower = [] → found higher = [] := by
  refine ⟨fun limit => document.found limit excluded, Document.violations_comesTo complete decides,
    ?_, found_neg_one, fun lower higher le deep => exists_shallow_violation le,
    fun lower higher => found_eq_nil_of_le⟩
  intro limit bound
  refine ⟨resumed document excluded (limit + 1), fun violation reported => ?_, found_succ bound⟩
  exact resume_comesTo complete decides (limit + 1) (mem_nodes_of_reported reported)

/-- What is reported for a query into overlapping circles resumes limit by limit. -/
theorem overlapping_higher_limit_resumes :
    CycleCut.overlapping.Complete ∧
    Exclusion.Decides (.exact "x") (fun name => isIntrospection name || name == "x") ∧
    ∃ found : Int → List Violation,
      (∀ limit, (CycleCut.overlapping.violations limit (.exact "x")).ComesTo (.ok (found limit))) ∧
      ∃ deeper : Violation → List Violation,
        (∀ violation ∈ found 2, (resume CycleCut.overlapping (.exact "x") 3 violation).ComesTo
          (.ok (deeper violation))) ∧
        found 3 = (found 2).flatMap deeper := by
  have complete : CycleCut.overlapping.Complete := by decide
  have decides := Exclusion.decides_exact "x"
  obtain ⟨found, comes, resumes, _⟩ := higher_limit_resumes complete decides
  exact ⟨complete, decides, found, comes, resumes 2 (by decide)⟩

end QueryDepth.LimitResumption
