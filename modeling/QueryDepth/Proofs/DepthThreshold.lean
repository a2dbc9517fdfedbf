import Mathlib.Data.List.Sublists
import Mathlib.Data.Nat.Find
import QueryDepth.Proofs.CycleCut

/-! Which limits a document stays within. A way that comes back to a fragment below a counted field
can be gone round again and again, so it exceeds every limit. Without such a way no field is counted
twice on any way, so the fields of the document bound the depth, and a least limit is met. -/
namespace QueryDepth.DepthThreshold

/-- A way from a node enters a fragment by a spread twice, with a counted field in between. The
fragment is entered at every spread that the way passes, since it does not end there. -/
def Recurs (descent : Descent) (start : Node) : Prop :=
  ∃ fragment before first between second after target,
    descent.Path start (before ++ first :: (between ++ second :: after)) target ∧
    first.kind = .fragmentSpread fragment ∧ second.kind = .fragmentSpread fragment ∧
    ∃ field ∈ between, descent.counts field = true

/-- A document is recursive if a way from one of its operations enters a fragment twice like
this. -/
def Recursive (document : Document) (excluded : String → Bool) : Prop :=
  ∃ entry ∈ document.index.operations, Recurs (document.descent excluded) entry.2

/-- Some way from an operation gets below so many counted fields. -/
def Falls (document : Document) (excluded : String → Bool) (count : Nat) : Prop :=
  ∃ entry ∈ document.index.operations, ∃ above target,
    (document.descent excluded).FirstBelow count entry.2 above target

variable {descent : Descent} {document : Document} {excluded : String → Bool} {limit : Int}
  {start middle target : Node} {above : List Node} {count : Nat}

/-! ## Going round -/

/-- A way back to where it started that passes a counted field can be gone as often as needed. -/
theorem exists_laps (lap : descent.Path middle above middle)
    (counted : 0 < above.countP descent.counts) (count : Nat) :
    ∃ laps, descent.Path middle laps middle ∧ count ≤ laps.countP descent.counts := by
  induction count with
  | zero => exact ⟨[], .here, Nat.zero_le _⟩
  | succ count ih =>
    obtain ⟨laps, path, enough⟩ := ih
    refine ⟨above ++ laps, lap.append path, ?_⟩
    rw [List.countP_append]
    omega

/-- From where a way recurs, a way gets below any number of counted fields. -/
theorem Recurs.exists_firstBelow (recurs : Recurs descent start) (count : Nat) :
    ∃ above target, descent.FirstBelow count start above target := by
  obtain ⟨fragment, before, first, between, second, after, target, path, first_kind, second_kind,
    field, member, counts⟩ := recurs
  obtain ⟨_, upper, rest⟩ := path.split
  cases rest with
  | down entered rest =>
    obtain ⟨_, inner, rest⟩ := rest.split
    cases rest with
    | down again _ =>
      have same := Option.some.inj ((again.known second_kind).symm.trans (entered.known first_kind))
      subst same
      have counted : 0 < (second :: between).countP descent.counts :=
        List.countP_pos_iff.mpr ⟨field, List.mem_cons_of_mem _ member, counts⟩
      obtain ⟨laps, round, enough⟩ := exists_laps (.down again inner) counted count
      have way := (upper.append (.down entered inner)).append round
      refine way.exists_firstBelow ?_
      simp only [List.countP_append]
      omega

/-! ## Bounded depth -/

/-- A way that passes no spread leads to a smaller node with every step. -/
theorem sizeOf_le_of_path (path : descent.Path start above target)
    (straight : ∀ node ∈ above, ∀ fragment, node.kind ≠ .fragmentSpread fragment) :
    sizeOf target + above.length ≤ sizeOf start := by
  induction path with
  | here => simp
  | @down parent child target above leads path ih =>
    have smaller : sizeOf child < sizeOf parent := by
      cases leads with
      | selects _ opened selected => exact Node.sizeOf_lt_of_selected opened selected
      | spreads kind _ => exact absurd kind (straight parent List.mem_cons_self _)
    have rest := ih fun node member => straight node (List.mem_cons_of_mem _ member)
    rw [List.length_cons]
    omega

/-- A way back to where it started passes a spread. -/
theorem exists_spread_of_lap (lap : descent.Path middle (middle :: above) middle) :
    ∃ spread ∈ middle :: above, ∃ fragment, spread.kind = .fragmentSpread fragment := by
  by_contra straight
  push Not at straight
  have smaller := sizeOf_le_of_path lap straight
  rw [List.length_cons] at smaller
  omega

/-- A way that passes a counted field twice recurs: in between it passes a spread, which it passes
twice if it goes round once more. -/
theorem recurs_of_repeated {field : Node} {before between after : List Node}
    (path : descent.Path start (before ++ field :: (between ++ field :: after)) target)
    (counts : descent.counts field = true) : Recurs descent start := by
  obtain ⟨upper, rest⟩ := path.split_at
  rw [← List.cons_append] at rest
  have lap := rest.split_at.1
  obtain ⟨spread, passed, fragment, kind⟩ := exists_spread_of_lap lap
  rcases List.mem_cons.mp passed with rfl | passed
  · simp [Descent.counts, kind] at counts
  obtain ⟨first, second, rfl⟩ := List.append_of_mem passed
  rw [← List.cons_append] at lap
  obtain ⟨down, back⟩ := lap.split_at
  have twice := ((upper.append down).append back).append (down.append back)
  exact ⟨fragment, before ++ field :: first, spread, second ++ field :: first, spread, second,
    field, by simpa using twice, kind, kind, field, by simp, counts⟩

/-- Where no way recurs, a way has no more counted fields than the document has nodes. -/
theorem countP_le_of_not_recurs (inside : start ∈ document.nodes)
    (straight : ¬ Recurs (document.descent excluded) start)
    (path : (document.descent excluded).Path start above target) :
    above.countP (document.descent excluded).counts ≤ document.nodes.length := by
  rw [List.countP_eq_length_filter]
  have distinct : (above.filter (document.descent excluded).counts).Nodup := by
    rw [List.nodup_iff_sublist]
    intro field twice
    have counts := (List.mem_filter.mp (twice.subset List.mem_cons_self)).2
    obtain ⟨first, second, rfl, firstMember, rest⟩ :=
      List.cons_sublist_iff.mp (twice.trans List.filter_sublist)
    obtain ⟨before, between, rfl⟩ := List.append_of_mem firstMember
    obtain ⟨among, after, rfl⟩ := List.append_of_mem (rest.subset List.mem_cons_self)
    have twicePassed : (document.descent excluded).Path start
        (before ++ field :: ((between ++ among) ++ field :: after)) target := by simpa using path
    exact straight (recurs_of_repeated twicePassed counts)
  refine distinct.length_le_of_subset fun node member => ?_
  exact Document.mem_nodes_of_path inside path node (List.mem_filter.mp member).1

/-! ## Limits -/

theorem Falls.of_le {fewer : Nat} (le : fewer ≤ count) (falls : Falls document excluded count) :
    Falls document excluded fewer := by
  obtain ⟨entry, indexed, above, target, falls⟩ := falls
  exact ⟨entry, indexed, falls.path.exists_firstBelow (falls.counted ▸ le)⟩

theorem not_falls_of_not_recursive (straight : ¬ Recursive document excluded) :
    ¬ Falls document excluded (document.nodes.length + 1) := by
  rintro ⟨entry, indexed, above, target, falls⟩
  have inside := Document.mem_nodes_of_operation indexed
  have bounded := countP_le_of_not_recurs inside (fun recurs => straight ⟨entry, indexed, recurs⟩)
    falls.path
  rw [falls.counted] at bounded
  omega

/-- Nothing is reported if no way gets deeper than the limit. -/
theorem found_eq_nil_iff (limit : Nat) :
    document.found limit excluded = [] ↔ ¬ Falls document excluded (limit + 1) := by
  constructor
  · rintro empty ⟨⟨name, operation⟩, indexed, above, target, falls⟩
    obtain ⟨violation, member, _⟩ :=
      (Document.reported_iff indexed).mpr (CycleCut.mem_found_iff.mpr ⟨above, falls⟩)
    rw [empty] at member
    cases member
  · intro shallow
    refine List.eq_nil_iff_forall_not_mem.mpr fun violation member => ?_
    obtain ⟨⟨name, operation⟩, indexed, member⟩ := List.mem_flatMap.mp member
    obtain ⟨node, found, rfl⟩ := List.mem_map.mp member
    obtain ⟨above, falls⟩ := CycleCut.mem_found_iff.mp found
    exact shallow ⟨(name, operation), indexed, above, node, falls⟩

theorem found_ne_nil_of_neg (operated : document.index.operations ≠ []) (negative : limit < 0) :
    document.found limit excluded ≠ [] := by
  obtain ⟨⟨name, operation⟩, indexed⟩ := List.exists_mem_of_ne_nil _ operated
  have beyond : Frame.exceeds ⟨operation, 0, []⟩ (document.scope name limit) = true := by
    simp [Frame.exceeds, Document.scope, negative]
  obtain ⟨violation, member, _⟩ := (Document.reported_iff indexed).mpr
    (Scope.found_beyond beyond ▸ List.mem_singleton_self operation)
  exact List.ne_nil_of_mem member

/-- The least limit that is met, where some limit is. -/
theorem exists_threshold (straight : ¬ Recursive document excluded) :
    ∃ least : Nat, ∀ limit : Nat, document.found limit excluded = [] ↔ least ≤ limit := by
  classical
  have met : ∃ limit, ¬ Falls document excluded (limit + 1) :=
    ⟨_, not_falls_of_not_recursive straight⟩
  refine ⟨Nat.find met, fun limit => ?_⟩
  rw [found_eq_nil_iff]
  constructor
  · exact Nat.find_min' met
  · intro above falls
    exact Nat.find_spec met (falls.of_le (Nat.succ_le_succ above))

/-- **Recursive documents exceed every limit, and all others have a threshold.** -/
theorem recursive_or_threshold (complete : document.Complete) {exclusion : Exclusion}
    (decides : exclusion.Decides excluded) :
    (Recursive document excluded → ∀ limit : Int, ∃ found,
      (document.violations limit exclusion).ComesTo (.ok found) ∧ found ≠ []) ∧
    (¬ Recursive document excluded → ∃ least : Nat, ∀ limit : Int, 0 ≤ limit → ∃ found,
      (document.violations limit exclusion).ComesTo (.ok found) ∧
        (found = [] ↔ least ≤ limit)) := by
  have comes := Document.violations_comesTo complete decides
  constructor
  · rintro ⟨entry, indexed, recurs⟩ limit
    refine ⟨_, comes limit, ?_⟩
    cases limit with
    | ofNat limit =>
      intro empty
      exact (found_eq_nil_iff limit).mp empty ⟨entry, indexed, recurs.exists_firstBelow _⟩
    | negSucc limit =>
      exact found_ne_nil_of_neg (List.ne_nil_of_mem indexed) (Int.negSucc_lt_zero limit)
  · intro straight
    obtain ⟨least, threshold⟩ := exists_threshold straight
    refine ⟨least, fun limit nonneg => ⟨_, comes limit, ?_⟩⟩
    obtain ⟨limit, rfl⟩ := Int.eq_ofNat_of_zero_le nonneg
    exact (threshold limit).trans Int.ofNat_le.symm

def nested : Document where
  definitions := [
    ⟨.operation .query none, some [
      ⟨.field none "a", some [⟨.field none "b", none, none⟩], none⟩], none⟩]

/-- Going round by a field exceeds every limit, and without fragments there is a least one that is
met. -/
theorem overlapping_recursive_nested_threshold :
    (Recursive CycleCut.overlapping isIntrospection ∧ ∀ limit : Int, ∃ found,
      (CycleCut.overlapping.violations limit .nothing).ComesTo (.ok found) ∧ found ≠ []) ∧
    ¬ Recursive nested isIntrospection ∧ ∃ least : Nat, ∀ limit : Int, 0 ≤ limit → ∃ found,
      (nested.violations limit .nothing).ComesTo (.ok found) ∧ (found = [] ↔ least ≤ limit) := by
  have decides := Exclusion.decides_nothing
  have recursive : Recursive CycleCut.overlapping isIntrospection := by
    -- From the query into `F`, below its field `a`, and into `F` again.
    exact ⟨_, List.mem_singleton.mpr rfl, "F", [_], _, [_, _], _, [], _,
      .down (.selects rfl rfl (.head _)) <| .down (.spreads rfl rfl) <|
        .down (.selects rfl rfl (.tail _ (.head _))) <| .down (.selects rfl rfl (.head _)) <|
        .down (.spreads rfl rfl) .here, rfl, rfl, _, .tail _ (.head _), rfl⟩
  have straight : ¬ Recursive nested isIntrospection := by
    rintro ⟨entry, indexed, fragment, before, first, between, second, after, target, path, kind, _⟩
    have inside := Document.mem_nodes_of_operation indexed
    have passed := Document.mem_nodes_of_path inside path first (by simp)
    have noSpread : ∀ node ∈ nested.nodes, node.kind ≠ .fragmentSpread fragment := by
      simp [Document.nodes, nested, Node.tree, treeAll]
    exact noSpread first passed kind
  exact ⟨⟨recursive, (recursive_or_threshold (by decide) decides).1 recursive⟩, straight,
    (recursive_or_threshold (by decide) decides).2 straight⟩

end QueryDepth.DepthThreshold
