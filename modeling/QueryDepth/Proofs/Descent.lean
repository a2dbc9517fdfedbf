import Mathlib.Data.List.Infix
import QueryDepth.Proofs.DocumentNodes

/-! Ways down a document, with every known fragment followed wherever it is spread. No way is ever
cut, so in a circle of fragments there are ways of every length. -/
namespace QueryDepth

/-- What decides which ways lead down: the fragments of a document and the fields left out. -/
structure Descent where
  fragments : NameTable
  excluded : String → Bool

def Document.descent (document : Document) (excluded : String → Bool) : Descent :=
  ⟨document.index.fragments, excluded⟩

namespace Descent

/-- Whether there is a way from a node to what it selects. -/
def opens (descent : Descent) (node : Node) : Bool :=
  match node.kind with
  | .field _ name => !descent.excluded name
  | .inlineFragment _ | .operation .. | .fragmentDefinition .. => true
  | .fragmentSpread _ | .name _ | .scalarType _ | .typeSystem => false

/-- Whether a node is a counted field: one that is not left out and has a selection set. -/
def counts (descent : Descent) (node : Node) : Bool :=
  match node.kind with
  | .field _ name => !descent.excluded name && node.selections.isSome
  | .inlineFragment _ | .operation .. | .fragmentDefinition .. | .fragmentSpread _ | .name _
  | .scalarType _ | .typeSystem => false

/-- One step down: from a node to one that it selects, or from a spread to its fragment. -/
inductive Leads (descent : Descent) : Node → Node → Prop where
  | selects {parent child : Node} {selections : List Node} (opens : descent.opens parent = true)
      (opened : parent.selections = some selections) (selected : child ∈ selections) :
      Leads descent parent child
  | spreads {spread definition : Node} {fragment : String}
      (spread_kind : spread.kind = .fragmentSpread fragment)
      (known : descent.fragments.find? fragment = some definition) :
      Leads descent spread definition

/-- A way down from a node to a target. The list holds the nodes strictly above the target, from
the first one on. -/
inductive Path (descent : Descent) : Node → List Node → Node → Prop where
  | here {node : Node} : Path descent node [] node
  | down {parent child target : Node} {above : List Node} (leads : descent.Leads parent child)
      (path : Path descent child above target) : Path descent parent (parent :: above) target

/-- A way down to the first node on it that has a given number of counted fields above it. -/
structure FirstBelow (descent : Descent) (count : Nat) (start : Node) (above : List Node)
    (target : Node) : Prop where
  path : descent.Path start above target
  counted : above.countP descent.counts = count
  first : ∀ earlier node, earlier ++ [node] <+: above → earlier.countP descent.counts < count

variable {descent : Descent} {start middle target : Node} {above below : List Node} {count : Nat}

theorem leads_iff {parent child : Node} : descent.Leads parent child ↔
    (descent.opens parent = true ∧ ∃ selections, parent.selections = some selections ∧
      child ∈ selections) ∨
    ∃ fragment, parent.kind = .fragmentSpread fragment ∧
      descent.fragments.find? fragment = some child := by
  constructor
  · rintro (⟨opens, opened, selected⟩ | ⟨kind, known⟩)
    · exact .inl ⟨opens, _, opened, selected⟩
    · exact .inr ⟨_, kind, known⟩
  · rintro (⟨opens, _, opened, selected⟩ | ⟨_, kind, known⟩)
    · exact .selects opens opened selected
    · exact .spreads kind known

/-- From a spread there is a way to the definition of its fragment alone. -/
theorem Leads.known {spread child : Node} {fragment : String} (leads : descent.Leads spread child)
    (kind : spread.kind = .fragmentSpread fragment) :
    descent.fragments.find? fragment = some child := by
  cases leads with
  | selects opens => simp [Descent.opens, kind] at opens
  | spreads spread_kind known =>
    obtain rfl := NodeKind.fragmentSpread.inj (kind.symm.trans spread_kind)
    exact known

namespace Path

theorem append (upper : descent.Path start above middle)
    (lower : descent.Path middle below target) :
    descent.Path start (above ++ below) target := by
  induction upper with
  | here => exact lower
  | down leads _ ih => exact .down leads (ih lower)

/-- A way can be taken apart anywhere. -/
theorem split (path : descent.Path start (above ++ below) target) :
    ∃ middle, descent.Path start above middle ∧ descent.Path middle below target := by
  induction above generalizing start with
  | nil => exact ⟨start, .here, path⟩
  | cons parent above ih =>
    cases path with
    | down leads path =>
      obtain ⟨middle, upper, lower⟩ := ih path
      exact ⟨middle, .down leads upper, lower⟩

theorem start_eq {parent : Node} (path : descent.Path start (parent :: above) target) :
    start = parent := by
  cases path
  rfl

/-- A way can be taken apart at any node that it passes. -/
theorem split_at {node : Node} (path : descent.Path start (above ++ node :: below) target) :
    descent.Path start above node ∧ descent.Path node (node :: below) target := by
  obtain ⟨_, upper, lower⟩ := path.split
  obtain rfl := lower.start_eq
  exact ⟨upper, lower⟩

end Path

namespace FirstBelow

theorem here : descent.FirstBelow 0 target [] target :=
  ⟨.here, rfl, fun earlier node before => by simp at before⟩

theorem down_counted {parent child : Node} (leads : descent.Leads parent child)
    (counts : descent.counts parent = true) (falls : descent.FirstBelow count child above target) :
    descent.FirstBelow (count + 1) parent (parent :: above) target := by
  refine ⟨.down leads falls.path, by simp [counts, falls.counted], fun earlier node before => ?_⟩
  cases earlier with
  | nil => simp
  | cons _ earlier =>
    obtain ⟨rfl, later⟩ := List.cons_prefix_cons.mp before
    simpa [counts] using falls.first earlier node later

theorem down_neutral {parent child : Node} (leads : descent.Leads parent child)
    (neutral : descent.counts parent = false)
    (falls : descent.FirstBelow (count + 1) child above target) :
    descent.FirstBelow (count + 1) parent (parent :: above) target := by
  refine ⟨.down leads falls.path, by simp [neutral, falls.counted], fun earlier node before => ?_⟩
  cases earlier with
  | nil => simp
  | cons _ earlier =>
    obtain ⟨rfl, later⟩ := List.cons_prefix_cons.mp before
    simpa [neutral] using falls.first earlier node later

end FirstBelow

/-- Every way that passes enough counted fields passes a first node below so many of them. -/
theorem Path.exists_firstBelow (path : descent.Path start above target)
    (enough : count ≤ above.countP descent.counts) :
    ∃ above target, descent.FirstBelow count start above target := by
  induction path generalizing count with
  | here =>
    obtain rfl : count = 0 := by simpa using enough
    exact ⟨_, _, .here⟩
  | @down parent child target above leads path ih =>
    cases count with
    | zero => exact ⟨_, _, .here⟩
    | succ count =>
      cases counts : descent.counts parent with
      | true =>
        obtain ⟨above, target, falls⟩ := @ih count (by simpa [counts] using enough)
        exact ⟨_, _, falls.down_counted leads counts⟩
      | false =>
        obtain ⟨above, target, falls⟩ := @ih (count + 1) (by simpa [counts] using enough)
        exact ⟨_, _, falls.down_neutral leads counts⟩

end Descent

/-- Every way down from a node of a document stays in the document. -/
theorem Document.mem_nodes_of_leads {document : Document} {excluded : String → Bool}
    {parent child : Node} (inside : parent ∈ document.nodes)
    (leads : (document.descent excluded).Leads parent child) : child ∈ document.nodes := by
  cases leads with
  | selects _ opened selected => exact mem_nodes_of_selected inside opened selected
  | spreads _ known => exact mem_nodes_of_fragment known

theorem Document.mem_nodes_of_path {document : Document} {excluded : String → Bool}
    {start target : Node} {above : List Node} (inside : start ∈ document.nodes)
    (path : (document.descent excluded).Path start above target) :
    ∀ node ∈ above, node ∈ document.nodes := by
  induction path with
  | here => simp
  | down leads _ ih =>
    intro node member
    rcases List.mem_cons.mp member with rfl | later
    · exact inside
    · exact ih (mem_nodes_of_leads inside leads) node later

end QueryDepth
