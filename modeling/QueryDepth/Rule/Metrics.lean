/-! Counters over all checks: how many passed, how many were rejected, and how many violations each
operation had. -/
namespace QueryDepth

/-- The counters. Operations are counted under their labels, in the order in which these came up. -/
structure Metrics where
  passed : Nat := 0
  rejected : Nat := 0
  violations : List (String × Nat) := []
  deriving DecidableEq, Repr

namespace Metrics

/-- The label under which an operation is counted. Operations without a name share one. -/
def label (operation : String) : String := if operation = "" then "anonymous" else operation

/-- Counts one more under a label. -/
def increment (counts : List (String × Nat)) (label : String) : List (String × Nat) :=
  match counts with
  | [] => [(label, 1)]
  | entry :: rest =>
    if entry.1 = label then (label, entry.2 + 1) :: rest else entry :: increment rest label

theorem lookup_cons (entry : String × Nat) (rest : List (String × Nat)) (label : String) :
    (entry :: rest).lookup label = if label = entry.1 then some entry.2 else rest.lookup label := by
  rw [List.lookup_cons]
  by_cases here : label = entry.1
  · rw [if_pos here, beq_iff_eq.mpr here]
  · rw [if_neg here, beq_false_of_ne here]

/-- Counting under a label changes nothing under others. -/
theorem lookup_increment (counts : List (String × Nat)) (label other : String) :
    (increment counts label).lookup other =
      if other = label then some ((counts.lookup label).getD 0 + 1) else counts.lookup other := by
  induction counts with
  | nil => exact lookup_cons ..
  | cons entry rest ih =>
    rw [increment]
    by_cases found : entry.1 = label
    · by_cases same : other = label <;> simp [lookup_cons, found, same]
    · rw [if_neg found, lookup_cons, lookup_cons, lookup_cons, ih, if_neg (Ne.symm found)]
      by_cases here : other = entry.1
      · rw [if_pos here, if_pos here, if_neg (here ▸ found)]
      · rw [if_neg here, if_neg here]

/-- A label keeps its place, and a new one comes last. -/
theorem labels_increment (counts : List (String × Nat)) (label : String) :
    (increment counts label).map Prod.fst =
      if label ∈ counts.map Prod.fst then counts.map Prod.fst
      else counts.map Prod.fst ++ [label] := by
  induction counts with
  | nil => rfl
  | cons entry rest ih =>
    rw [increment]
    by_cases found : entry.1 = label
    · simp [found]
    · by_cases later : label ∈ rest.map Prod.fst <;> simp_all [Ne.symm found]

/-- A label that is counted several times has been counted that often more. -/
theorem lookup_foldl_increment (labels : List String) (counts : List (String × Nat))
    (other : String) :
    (labels.foldl increment counts).lookup other =
      if other ∈ labels then some ((counts.lookup other).getD 0 + labels.count other)
      else counts.lookup other := by
  induction labels generalizing counts with
  | nil => rfl
  | cons label rest ih =>
    rw [List.foldl_cons, ih, lookup_increment, List.count_cons]
    by_cases same : other = label
    · subst same
      by_cases later : other ∈ rest
      · simp [later]
        omega
      · simp [later, List.count_eq_zero_of_not_mem later]
    · simp [same, Ne.symm same]

theorem nodup_labels_foldl_increment (labels : List String) {counts : List (String × Nat)}
    (distinct : (counts.map Prod.fst).Nodup) :
    ((labels.foldl increment counts).map Prod.fst).Nodup := by
  induction labels generalizing counts with
  | nil => exact distinct
  | cons label rest ih =>
    refine ih ?_
    rw [labels_increment]
    split
    · exact distinct
    · rename_i fresh
      refine List.nodup_append.mpr ⟨distinct, by simp, fun other member last added => ?_⟩
      rintro rfl
      exact fresh (List.mem_singleton.mp added ▸ member)

/-- Where labels are apart, an entry is found under its label. -/
theorem mem_iff_lookup_eq_some {counts : List (String × Nat)}
    (distinct : (counts.map Prod.fst).Nodup) {label : String} {count : Nat} :
    (label, count) ∈ counts ↔ counts.lookup label = some count := by
  induction counts with
  | nil => simp
  | cons entry rest ih =>
    obtain ⟨fresh, distinct⟩ := List.nodup_cons.mp distinct
    rw [List.mem_cons, lookup_cons]
    by_cases here : label = entry.1
    · subst here
      have absent : (entry.1, count) ∉ rest := fun later =>
        fresh (List.mem_map.mpr ⟨_, later, rfl⟩)
      simp [absent, Prod.ext_iff, eq_comm]
    · simp [here, ih distinct, Prod.ext_iff]

/-- Counting from nothing, each label that occurs has the number of its occurrences. -/
theorem mem_foldl_increment {labels : List String} {label : String} {count : Nat} :
    (label, count) ∈ labels.foldl increment [] ↔ count = labels.count label ∧ 0 < count := by
  have distinct : ((labels.foldl increment []).map Prod.fst).Nodup :=
    nodup_labels_foldl_increment labels .nil
  rw [mem_iff_lookup_eq_some distinct, lookup_foldl_increment]
  by_cases occurs : label ∈ labels
  · have positive := List.count_pos_iff.mpr occurs
    simp [occurs]
    omega
  · simp [occurs, List.count_eq_zero_of_not_mem occurs]

/-- Counts a check, given the operation of each violation that it found. -/
def record (metrics : Metrics) (operations : List String) : Metrics where
  passed := if operations.isEmpty then metrics.passed + 1 else metrics.passed
  rejected := if operations.isEmpty then metrics.rejected else metrics.rejected + 1
  violations := (operations.map label).foldl increment metrics.violations

def count (metrics : Metrics) (label : String) : Nat := (metrics.violations.lookup label).getD 0

/-- The labels that have been counted, with their violations, in the order of their code points. -/
def listing (metrics : Metrics) : List (String × Nat) :=
  metrics.violations.mergeSort fun first second => first.1 ≤ second.1

@[simp] theorem mem_listing {metrics : Metrics} {entry : String × Nat} :
    entry ∈ metrics.listing ↔ entry ∈ metrics.violations := List.mem_mergeSort

theorem nodup_labels_listing {metrics : Metrics}
    (distinct : (metrics.violations.map Prod.fst).Nodup) :
    (metrics.listing.map Prod.fst).Nodup := by
  have labels := (metrics.violations.mergeSort_perm
    (fun first second => first.1 ≤ second.1)).map Prod.fst
  exact labels.nodup_iff.mpr distinct

end Metrics

end QueryDepth
