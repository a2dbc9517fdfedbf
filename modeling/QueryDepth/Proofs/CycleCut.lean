import QueryDepth.Proofs.ReachedFrames

/-! A spread that would enter a fragment again before a field is counted is cut, and nothing is lost
by that: what the walk finds for an operation is what lies at the end of a way on which no circle is
cut. -/
namespace QueryDepth.CycleCut

variable {descent : Descent} {scope : Scope} {excluded : String → Bool} {frame : Frame}
  {count limit : Nat} {start target : Node} {above : List Node}

theorem way_of_firstBelow (falls : descent.FirstBelow count start above target) :
    descent.Way (count - 1) count start above target := by
  refine ⟨falls.path, falls.counted, fun earlier node before => ?_⟩
  have fewer := falls.first earlier node before
  omega

/-- A way that ends below more fields than there is room for ends at the first such node. -/
theorem firstBelow_of_way {room : Int} {reached : Nat}
    (way : descent.Way room reached start above target) (full : (count : Int) = room + 1)
    (enough : count ≤ reached) : descent.FirstBelow count start above target := by
  have fewer : ∀ earlier node, earlier ++ [node] <+: above →
      earlier.countP descent.counts < count := by
    intro earlier node before
    have fits := way.within earlier node before
    omega
  refine ⟨way.path, ?_, fewer⟩
  have counted := way.counted
  rcases List.eq_nil_or_concat' above with rfl | ⟨earlier, last, rfl⟩
  · simp only [List.countP_nil] at counted ⊢
    omega
  · have before := fewer earlier last (List.prefix_refl _)
    have one : [last].countP descent.counts ≤ 1 := List.countP_le_length
    rw [List.countP_append] at counted ⊢
    omega

/-- Whatever the walk finds is at the end of a way. -/
theorem exists_firstBelow_of_mem_found (bound : scope.limit = limit)
    (room : frame.depth + count = limit + 1) (member : target ∈ scope.found excluded frame) :
    ∃ above, (scope.descent excluded).FirstBelow count frame.node above target := by
  obtain ⟨reached, reaches, beyond, rfl⟩ := Scope.mem_found_iff.mp member
  obtain ⟨above, deep, way, depth⟩ := reaches.exists_way
  have deeper : scope.limit < reached.depth := by simpa [Frame.exceeds] using beyond
  exact ⟨above, firstBelow_of_way way (by omega) (by omega)⟩

/-- From an operation on, the walk finds what lies at the end of a way. -/
theorem mem_found_iff {document : Document} {name : String} {operation : Node} :
    target ∈ (document.scope name limit).found excluded ⟨operation, 0, []⟩ ↔
      ∃ above, (document.descent excluded).FirstBelow (limit + 1) operation above target := by
  constructor
  · exact exists_firstBelow_of_mem_found rfl (Nat.zero_add _)
  · rintro ⟨above, falls⟩
    have way : (document.descent excluded).Way limit (limit + 1) operation above target := by
      simpa using way_of_firstBelow falls
    obtain ⟨reached, reaches, here, depth⟩ :
        ∃ reached, (document.scope name limit).Reaches excluded ⟨operation, 0, []⟩ reached ∧
          reached.node = target ∧ reached.depth = limit + 1 := Scope.exists_reached_of_way way
    have deeper : (limit : Int) < reached.depth := by omega
    exact Scope.mem_found_iff.mpr ⟨reached, reaches, decide_eq_true deeper, here⟩

/-- **Cutting circles neither hides nor invents a violation.** The nodes reported for an operation
of a complete document are those to which a way leads, with no circle cut, on which they are the
first with more counted fields above them than the limit allows. -/
theorem reported_eq_ends_of_ways {document : Document} (complete : document.Complete)
    {exclusion : Exclusion} {excluded : String → Bool} (decides : exclusion.Decides excluded)
    (limit : Nat) {name : String} {operation : Node}
    (indexed : (name, operation) ∈ document.index.operations) :
    ∃ found, (document.violations limit exclusion).ComesTo (.ok found) ∧
      {node | ∃ violation ∈ found, violation.operation = name ∧ violation.node = node} =
        {node | ∃ above,
          (document.descent excluded).FirstBelow (limit + 1) operation above node} := by
  refine ⟨_, Document.violations_comesTo complete decides limit, ?_⟩
  ext node
  exact (Document.reported_iff indexed).trans mem_found_iff

/-- Two fragments that spread each other at once, each also below a field, so that circles with and
without fields overlap. -/
def overlapping : Document where
  definitions := [
    ⟨.operation .query (some "Q"), some [⟨.fragmentSpread "F", none, none⟩], none⟩,
    ⟨.fragmentDefinition "F" "T", some [
      ⟨.fragmentSpread "G", none, none⟩,
      ⟨.field none "a", some [⟨.fragmentSpread "F", none, none⟩], none⟩], none⟩,
    ⟨.fragmentDefinition "G" "T", some [
      ⟨.fragmentSpread "F", none, none⟩,
      ⟨.field none "b", some [⟨.fragmentSpread "G", none, none⟩], none⟩,
      ⟨.field none "x", some [⟨.fragmentSpread "F", none, none⟩], none⟩], none⟩]

/-- What is reported for a query into overlapping circles, with a field left out. -/
theorem overlapping_reported_eq_ends_of_ways :
    overlapping.Complete ∧
    Exclusion.Decides (.exact "x") (fun name => isIntrospection name || name == "x") ∧
    ∃ operation, ("Q", operation) ∈ overlapping.index.operations ∧
      ∃ found, (overlapping.violations (3 : Nat) (.exact "x")).ComesTo (.ok found) ∧
        {node | ∃ violation ∈ found, violation.operation = "Q" ∧ violation.node = node} =
          {node | ∃ above, (overlapping.descent fun name =>
            isIntrospection name || name == "x").FirstBelow 4 operation above node} := by
  have complete : overlapping.Complete := by decide
  have decides := Exclusion.decides_exact "x"
  exact ⟨complete, decides, _, List.mem_singleton.mpr rfl,
    reported_eq_ends_of_ways complete decides 3 (List.mem_singleton.mpr rfl)⟩

end QueryDepth.CycleCut
