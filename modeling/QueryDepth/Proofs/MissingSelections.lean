import QueryDepth.Proofs.ParsedDocuments
import QueryDepth.Proofs.ReachedFrames
import QueryDepth.Proofs.WalkTermination

/-! When a check breaks on a document that was built by hand. An operation, an inline fragment or a
fragment definition without a selection set cannot be opened, and a check breaks if the walk comes
to such a node within the limit. Whether it does can be said without the walk, by the ways down. A
selection set that is missing anywhere else does no harm. -/
namespace QueryDepth.MissingSelections

variable {document : Document} {scope : Scope} {exclusion : Exclusion} {excluded : String → Bool}
  {limit : Int}

/-- A way down to a node that cannot be opened, on which no node, the last one included, has more
counted fields above it than the limit allows. -/
structure LeadsAstray (descent : Descent) (limit : Int) (start : Node) (above : List Node)
    (target : Node) : Prop where
  path : descent.Path start above target
  unopenable : target.Unopenable
  within : ∀ earlier, earlier <+: above → (earlier.countP descent.counts : Int) ≤ limit

/-- From some operation such a way leads down. -/
def Astray (document : Document) (limit : Int) (excluded : String → Bool) : Prop :=
  ∃ entry ∈ document.index.operations, ∃ above target,
    LeadsAstray (document.descent excluded) limit entry.2 above target

/-- From an operation on, the walk breaks if a way leads to a node that cannot be opened. -/
theorem breaks_iff_leadsAstray {operation : Node} :
    scope.Breaks excluded ⟨operation, 0, []⟩ ↔
      ∃ above target, LeadsAstray (scope.descent excluded) scope.limit operation above target := by
  constructor
  · rintro ⟨reached, reaches, inside, unopenable⟩
    obtain ⟨above, count, way, depth⟩ := reaches.exists_way
    have level : (reached.depth : Int) ≤ scope.limit := by simpa [Frame.exceeds] using inside
    have counted := way.counted
    simp only at depth
    refine ⟨above, reached.node, way.path, unopenable, fun earlier before => ?_⟩
    have fewer := before.sublist.countP_le (p := (scope.descent excluded).counts)
    omega
  · rintro ⟨above, target, path, unopenable, within⟩
    have way : (scope.descent excluded).Way scope.limit
        (above.countP (scope.descent excluded).counts) operation above target :=
      ⟨path, rfl, fun earlier node before =>
        within earlier ((List.prefix_append _ _).trans before)⟩
    obtain ⟨reached, reaches, rfl, depth⟩ := Scope.exists_reached_of_way way
    have level := within above List.prefix_rfl
    refine ⟨reached, reaches, ?_, unopenable⟩
    simpa [Frame.exceeds, depth] using level

/-- **A check breaks if it can get to a node that it cannot open.** Let an exclusion decide by the
names of fields. Then the search for violations breaks if and only if, without any circle cut, a way
leads from an operation to an operation, an inline fragment or a fragment definition without a
selection set, and the limit is exceeded nowhere on it. Otherwise it comes to the violations that
are found. A selection set does no harm if it is missing where no way leads, or only beyond the
limit. No document breaks a check that is complete, as all those are that have been read from a
text. -/
theorem breaks_iff_astray (decides : exclusion.Decides excluded) (document : Document)
    (limit : Int) :
    ((document.violations limit exclusion).ComesTo (.error .missingSelections) ↔
      Astray document limit excluded) ∧
    (¬ Astray document limit excluded →
      (document.violations limit exclusion).ComesTo (.ok (document.found limit excluded))) ∧
    ((∀ entry ∈ document.index.operations, ∀ above target,
        (document.descent excluded).Path entry.2 above target → target.Unopenable →
        limit < above.countP (document.descent excluded).counts) →
      ∃ found, (document.violations limit exclusion).ComesTo (.ok found)) ∧
    (document.Complete → ∃ found, (document.violations limit exclusion).ComesTo (.ok found)) ∧
    (∀ text, Document.parse text = .ok document →
      ∃ found, (document.violations limit exclusion).ComesTo (.ok found)) := by
  have searched := Document.violations_failsOr decides document limit
  have astray : (∃ entry ∈ document.index.operations,
      (document.scope entry.1 limit).Breaks excluded ⟨entry.2, 0, []⟩) ↔
        Astray document limit excluded := by
    constructor
    · rintro ⟨entry, filed, breaks⟩
      exact ⟨entry, filed, breaks_iff_leadsAstray.mp breaks⟩
    · rintro ⟨entry, filed, leads⟩
      exact ⟨entry, filed, breaks_iff_leadsAstray.mpr leads⟩
  rw [astray] at searched
  refine ⟨⟨fun breaks => ?_, searched.1⟩, searched.2, fun harmless => ?_, fun complete => ?_,
    fun text parses => ?_⟩
  · by_contra straight
    cases (breaks .empty).symm.trans (searched.2 straight .empty)
  · refine ⟨_, searched.2 ?_⟩
    rintro ⟨entry, filed, above, target, path, unopenable, within⟩
    have beyond := harmless entry filed above target path unopenable
    have level := within above List.prefix_rfl
    omega
  · exact ⟨_, Document.violations_comesTo complete decides limit⟩
  · exact ⟨_, Document.violations_comesTo (Document.complete_of_parse parses) decides limit⟩

/-- An inline fragment without a selection set. -/
def gap : Node := ⟨.inlineFragment none, none, none⟩

def gappyQuery : Node :=
  ⟨.operation .query (some "Q"), some [
    ⟨.fragmentSpread "F", none, none⟩, ⟨.field none "a", some [gap], none⟩], none⟩

/-- The fragment goes round in itself and has a gap below a field that is left out. Another
definition of it, which has no selection set, is not in force. -/
def gappy : Document where
  definitions := [
    ⟨.fragmentDefinition "F" "T", none, none⟩,
    gappyQuery,
    ⟨.fragmentDefinition "F" "T", some [
      ⟨.fragmentSpread "F", none, none⟩, ⟨.field none "x", some [gap], none⟩], none⟩]

/-- If the limit allows one counted field, the gap below it breaks the check. If it allows none, the
gap is reported, and the other ones do no harm. -/
theorem gappy_breaks_iff_astray :
    Exclusion.Decides (.exact "x") (fun name => isIntrospection name || name == "x") ∧
    Astray gappy 1 (fun name => isIntrospection name || name == "x") ∧
    (gappy.violations 1 (.exact "x")).ComesTo (.error .missingSelections) ∧
    ¬ Astray gappy 0 (fun name => isIntrospection name || name == "x") ∧
    (gappy.violations 0 (.exact "x")).ComesTo (.ok [⟨"Q", 0, gap⟩]) := by
  have decides := Exclusion.decides_exact "x"
  obtain ⟨breaks, _⟩ := breaks_iff_astray decides gappy 1
  obtain ⟨straight, finds, _⟩ := breaks_iff_astray decides gappy 0
  have path : (gappy.descent fun name => isIntrospection name || name == "x").Path gappyQuery
      [gappyQuery, ⟨.field none "a", some [gap], none⟩] gap :=
    .down (.selects rfl rfl (.tail _ (.head _))) (.down (.selects rfl rfl (.head _)) .here)
  have astray : Astray gappy 1 (fun name => isIntrospection name || name == "x") := by
    refine ⟨("Q", gappyQuery), List.mem_singleton.mpr rfl, _, gap, path, ⟨rfl, rfl⟩, ?_⟩
    intro earlier before
    exact Int.ofNat_le.mpr (before.sublist.countP_le.trans (by decide))
  have searched : (gappy.violations 0 (.exact "x")).after .empty =
      (.ok [⟨"Q", 0, gap⟩], { Trace.empty with events := [.fragmentCycle "F" "Q"] }) :=
    WalkTermination.violations_eq_of_within 8 rfl
  have unastray : ¬ Astray gappy 0 (fun name => isIntrospection name || name == "x") := by
    intro astray
    have broken := straight.mpr astray .empty
    rw [searched] at broken
    cases broken
  have found := finds unastray
  have same := found .empty
  rw [searched] at same
  rw [← same] at found
  exact ⟨decides, astray, breaks.mpr astray, unastray, found⟩

end QueryDepth.MissingSelections
