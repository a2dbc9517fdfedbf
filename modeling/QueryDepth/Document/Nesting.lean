import QueryDepth.Document.Index

/-! How deep selection sets are nested once fragments are followed, whatever the fields are called.
Documents in which this exceeds a bound are reported apart from the depth of their operations. -/
namespace QueryDepth

/-- The selection sets of a definition: the level of the deepest one, and the deepest level at which
each fragment is spread. -/
structure Reach where
  deepest : Nat
  spreads : List (String × Nat)

namespace Reach

def spread (reach : Reach) (name : String) (level : Nat) : Reach :=
  if reach.spreads.any fun entry => entry.1 == name then
    ⟨reach.deepest, reach.spreads.map fun entry =>
      if entry.1 = name then (name, max entry.2 level) else entry⟩
  else ⟨reach.deepest, reach.spreads ++ [(name, level)]⟩

def opened (reach : Reach) (level : Nat) : Reach := ⟨max reach.deepest level, reach.spreads⟩

end Reach

mutual

/-- Adds what lies at and below a node that stands `level` selection sets deep. -/
def Node.reach (level : Nat) (known : Reach) : Node → Reach
  | ⟨.fragmentSpread name, _, _⟩ => known.spread name level
  | ⟨_, none, _⟩ => known
  | ⟨_, some selections, _⟩ => reachAll (level + 1) (known.opened (level + 1)) selections

/-- Adds what lies at and below nodes that stand `level` selection sets deep. -/
def reachAll (level : Nat) (known : Reach) : List Node → Reach
  | [] => known
  | node :: rest => reachAll level (node.reach level known) rest

end

namespace Nesting

/-- How deep each fragment reaches, as far as it has been computed. -/
abbrev Totals := List (String × Nat)

/-- The depth of a definition with the fragments it spreads followed. Unknown fragments and spreads
that lead back into a fragment being followed add nothing. `fuel` bounds the chain of fragments. -/
def total (fragments : NameTable) (fuel : Nat) (following : List String) (totals : Totals)
    (reach : Reach) : Nat × Totals :=
  match fuel with
  | 0 => (reach.deepest, totals)
  | fuel + 1 =>
    reach.spreads.foldl (fun (deepest, totals) (name, level) =>
      match fragments.find? name with
      | none => (max deepest level, totals)
      | some definition =>
        if following.contains name then (max deepest level, totals)
        else match totals.lookup name with
          | some depth => (max deepest (level + depth), totals)
          | none =>
            let (depth, totals) := total fragments fuel (name :: following) totals
              (definition.reach 0 ⟨0, []⟩)
            (max deepest (level + depth), (name, depth) :: totals))
      (reach.deepest, totals)

/-- The most selection sets that may lie inside one another when fragments are followed. -/
def maximal : Nat := 200

end Nesting

/-- Whether an operation or fragment of a document is nested beyond the bound. -/
def Document.nestedBeyondBound (document : Document) : Bool :=
  let fragments := document.index.fragments
  let step := fun (exceeded, totals) (definition : Node) =>
    let following := match definition.kind with
      | .fragmentDefinition name _ => [name]
      | _ => []
    let (depth, totals) := Nesting.total fragments (fragments.length + 1) following totals
      (definition.reach 0 ⟨0, []⟩)
    (exceeded || decide (Nesting.maximal < depth), totals)
  let nested := document.definitions.filter fun definition =>
    match definition.kind with
    | .fragmentDefinition .. | .operation .. => true
    | _ => false
  !fragments.isEmpty && (nested.foldl step (false, ([] : Nesting.Totals))).1

end QueryDepth
