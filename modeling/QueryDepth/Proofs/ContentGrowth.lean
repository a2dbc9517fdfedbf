import Mathlib.Data.List.Forall2
import Mathlib.Data.List.NodupEquivFin
import QueryDepth.Proofs.DecidedWalk
import QueryDepth.Proofs.Filing

/-! Documents into which something was inserted: selections anywhere, and definitions under names
that were not taken. New circles of fragments may arise, and spreads of fragments that were not
known may become known. But the old part of every branch spreads the same fragments as before, so
it is cut where it was cut before, and no violation is lost. -/
namespace QueryDepth.ContentGrowth

/-- A node grows if selections are inserted anywhere inside of it. If nothing was selected at all, a
selection set may be given. -/
inductive Grows : Node → Node → Prop where
  | given {kind : NodeKind} {location : Option Location} (selections : Option (List Node)) :
      Grows ⟨kind, none, location⟩ ⟨kind, selections, location⟩
  | inserted {kind : NodeKind} {location : Option Location} {before after : List Node}
      (inside : List.SublistForall₂ Grows before after) :
      Grows ⟨kind, some before, location⟩ ⟨kind, some after, location⟩

/-- A definition is new to a document if nothing is filed there under its name. -/
def New (document : Document) (definition : Node) : Prop :=
  ∀ old ∈ document.definitions, old.slot? = definition.slot? → definition.slot? = none

instance (document : Document) (definition : Node) : Decidable (New document definition) :=
  inferInstanceAs (Decidable (∀ old ∈ document.definitions, _))

/-- Definitions grow if each of them grows and new ones are inserted anywhere between them. -/
inductive DefinitionsGrow (document : Document) : List Node → List Node → Prop where
  | nil : DefinitionsGrow document [] []
  | kept {old grown : Node} {before after : List Node} (grows : Grows old grown)
      (rest : DefinitionsGrow document before after) :
      DefinitionsGrow document (old :: before) (grown :: after)
  | inserted {definition : Node} {before after : List Node} (new : New document definition)
      (rest : DefinitionsGrow document before after) :
      DefinitionsGrow document before (definition :: after)

def DocumentGrows (document grown : Document) : Prop :=
  DefinitionsGrow document document.definitions grown.definitions

/-- A violation is kept as another one if that one is reported for the same operation with the same
limit, at what the node has grown to. -/
structure KeptAs (old grown : Violation) : Prop where
  operation : grown.operation = old.operation
  limit : grown.limit = old.limit
  node : Grows old.node grown.node

/-! ## Embedded lists -/

section Lists

variable {α β γ δ : Type} {R : α → β → Prop} {S : γ → δ → Prop}

theorem embeds_append {first second : List α} {third fourth : List β}
    (front : List.SublistForall₂ R first third) (back : List.SublistForall₂ R second fourth) :
    List.SublistForall₂ R (first ++ second) (third ++ fourth) := by
  obtain ⟨frontPart, frontAlike, frontSub⟩ := List.sublistForall₂_iff.mp front
  obtain ⟨backPart, backAlike, backSub⟩ := List.sublistForall₂_iff.mp back
  exact List.sublistForall₂_iff.mpr
    ⟨frontPart ++ backPart, List.rel_append frontAlike backAlike, frontSub.append backSub⟩

theorem embeds_flatMap {few : List α} {more : List β} {f : α → List γ} {g : β → List δ}
    (embeds : List.SublistForall₂ R few more)
    (each : ∀ a ∈ few, ∀ b, R a b → List.SublistForall₂ S (f a) (g b)) :
    List.SublistForall₂ S (few.flatMap f) (more.flatMap g) := by
  induction embeds with
  | nil => exact .nil
  | cons alike _ ih =>
    refine embeds_append (each _ List.mem_cons_self _ alike) (ih fun a member => ?_)
    exact each a (List.mem_cons_of_mem _ member)
  | cons_right _ ih => exact embeds_append .nil (ih each)

theorem embeds_map {few : List α} {more : List β} {f : α → γ} {g : β → δ}
    (embeds : List.SublistForall₂ R few more) (each : ∀ a b, R a b → S (f a) (g b)) :
    List.SublistForall₂ S (few.map f) (more.map g) := by
  rw [List.map_eq_flatMap, List.map_eq_flatMap]
  exact embeds_flatMap embeds fun a _ b alike => .cons (each a b alike) .nil

theorem embeds_filterMap {few more : List α} {f : α → Option γ} {g : α → Option δ}
    (sub : few.Sublist more) (each : ∀ a ∈ few, ∀ c, f a = some c → ∃ d, g a = some d ∧ S c d) :
    List.SublistForall₂ S (few.filterMap f) (more.filterMap g) := by
  induction sub with
  | slnil => exact .nil
  | @cons few more a _ ih =>
    cases out : g a with
    | none => simpa [out] using ih each
    | some d => simpa [out] using List.SublistForall₂.cons_right (ih each)
  | @cons_cons few more a _ ih =>
    have rest := ih fun b member => each b (List.mem_cons_of_mem _ member)
    cases out : f a with
    | none =>
      cases other : g a with
      | none => simpa [out, other] using rest
      | some d => simpa [out, other] using List.SublistForall₂.cons_right rest
    | some c =>
      obtain ⟨d, other, alike⟩ := each a List.mem_cons_self c out
      simpa [out, other] using List.SublistForall₂.cons alike rest

theorem ne_nil_of_embeds {few : List α} {more : List β} (embeds : List.SublistForall₂ R few more)
    (some : few ≠ []) : more ≠ [] := by
  cases embeds with
  | nil => exact absurd rfl some
  | cons | cons_right => exact List.cons_ne_nil _ _

/-- An embedded list has an order-preserving place for each of its members. -/
theorem exists_places {few : List α} {more : List β} (embeds : List.SublistForall₂ R few more) :
    ∃ place : Fin few.length ↪o Fin more.length, ∀ i, R (few.get i) (more.get (place i)) := by
  obtain ⟨part, alike, sub⟩ := List.sublistForall₂_iff.mp embeds
  obtain ⟨place, same⟩ := List.sublist_iff_exists_fin_orderEmbedding_get_eq.mp sub
  obtain ⟨length, each⟩ := List.forall₂_iff_get.mp alike
  refine ⟨(Fin.castOrderIso length).toOrderEmbedding.trans place, fun i => ?_⟩
  have there := each i i.isLt (length ▸ i.isLt)
  rw [same] at there
  exact there

end Lists

/-! ## Nodes -/

variable {document grown : Document} {excluded : String → Bool} {old new : Node}

theorem Grows.kind_eq (grows : Grows old new) : new.kind = old.kind := by
  cases grows <;> rfl

theorem Grows.slot?_eq (grows : Grows old new) : new.slot? = old.slot? := by
  cases grows <;> rfl

theorem Grows.selections (grows : Grows old new) :
    List.SublistForall₂ Grows (old.selections.getD []) (new.selections.getD []) := by
  cases grows with
  | given selections => exact .nil
  | inserted inside => exact inside

/-! ## Definitions -/

/-- Under a name that the document uses, nothing new is filed. -/
theorem New.slot?_ne {definition : Node} (new : New document definition) {slot : Slot}
    (used : ∃ old ∈ document.definitions, old.slot? = some slot) :
    definition.slot? ≠ some slot := by
  intro filed
  obtain ⟨old, defined, taken⟩ := used
  have unfiled := new old defined (taken.trans filed.symm)
  rw [filed] at unfiled
  cases unfiled

/-- So the definitions under such a name are the ones that were there, as far as they have grown. -/
theorem filter_grows {slot : Slot} (used : ∃ old ∈ document.definitions, old.slot? = some slot)
    {before after : List Node} (grows : DefinitionsGrow document before after) :
    List.Forall₂ Grows (before.filter fun definition => definition.slot? = some slot)
      (after.filter fun definition => definition.slot? = some slot) := by
  induction grows with
  | nil => exact .nil
  | @kept old grown _ _ grows _ ih =>
    have same := grows.slot?_eq
    by_cases filed : old.slot? = some slot
    · simpa [filed, same] using ⟨grows, ih⟩
    · simpa [filed, same] using ih
  | @inserted definition _ _ new _ ih =>
    simpa [new.slot?_ne used] using ih

theorem getLast?_of_forall₂ {α β : Type} {R : α → β → Prop} {few : List α} {more : List β} {a : α}
    (alike : List.Forall₂ R few more) (last : few.getLast? = some a) :
    ∃ b, more.getLast? = some b ∧ R a b := by
  have reversed := List.forall₂_reverse_iff.mpr alike
  rw [List.getLast?_eq_head?_reverse] at last ⊢
  generalize few.reverse = few, more.reverse = more at reversed last ⊢
  cases reversed with
  | nil => cases last
  | cons first _ =>
    cases last
    exact ⟨_, rfl, first⟩

theorem inForce?_grows (grows : DocumentGrows document grown) {slot : Slot}
    (force : document.inForce? slot = some old) :
    ∃ new, grown.inForce? slot = some new ∧ Grows old new := by
  have used := Document.inForce?_isSome.mp (Option.isSome_of_eq_some force)
  exact getLast?_of_forall₂ (filter_grows used grows) force

theorem filter_keys_grows {before after : List Node}
    (within : ∀ old ∈ before, old ∈ document.definitions)
    (grows : DefinitionsGrow document before after) :
    (after.filterMap Node.operationKey?).filter (· ∈ document.operationKeys) =
      before.filterMap Node.operationKey? := by
  induction grows with
  | nil => rfl
  | @kept old grown _ _ grows _ ih =>
    have rest := ih fun other member => within other (List.mem_cons_of_mem _ member)
    have same : grown.operationKey? = old.operationKey? := by
      simp only [Node.operationKey?, grows.slot?_eq]
    cases keyed : old.operationKey? with
    | none => simp [same, keyed, rest]
    | some key =>
      have occurs : key ∈ document.operationKeys :=
        Document.mem_operationKeys.mpr (Document.inForce?_isSome.mpr
          ⟨old, within old List.mem_cons_self, Node.operationKey?_eq_some.mp keyed⟩)
      simp [same, keyed, rest, occurs]
  | @inserted definition _ _ new _ ih =>
    cases keyed : definition.operationKey? with
    | none => simp [keyed, ih within]
    | some key =>
      have fresh : key ∉ document.operationKeys := by
        intro occurs
        have used := Document.inForce?_isSome.mp (Document.mem_operationKeys.mp occurs)
        exact new.slot?_ne used (Node.operationKey?_eq_some.mp keyed)
      simp [keyed, ih within, fresh]

/-- The operations of a document keep their order, with new ones between them. -/
theorem operationKeys_grows (grows : DocumentGrows document grown) :
    document.operationKeys.Sublist grown.operationKeys := by
  have kept := filter_keys_grows (fun old defined => defined) grows
  have same : document.operationKeys =
      grown.operationKeys.filter (· ∈ document.operationKeys) := by
    conv_lhs => rw [Document.operationKeys, ← kept, eraseDups_filter]
    rfl
  rw [same]
  exact List.filter_sublist

/-- Whatever is filed in the index has grown to what is filed there under the same name. -/
theorem operations_grow (grows : DocumentGrows document grown) :
    List.SublistForall₂ (fun old new => old.1 = new.1 ∧ Grows old.2 new.2)
      document.index.operations grown.index.operations := by
  rw [NameTable.eq_filterMap_find? document.index_files.distinct,
    NameTable.eq_filterMap_find? grown.index_files.distinct]
  simp only [Document.names_operations, Document.find?_operations]
  refine embeds_filterMap (operationKeys_grows grows) fun key _ entry filed => ?_
  obtain ⟨old, force, rfl⟩ := Option.map_eq_some_iff.mp filed
  obtain ⟨new, forced, below⟩ := inForce?_grows grows force
  exact ⟨(key, new), by rw [forced, Option.map_some], rfl, below⟩

/-! ## Walks -/

/-- Whatever a name finds has grown to what it finds elsewhere. -/
def TableGrows (before after : NameTable) : Prop :=
  ∀ name old, before.find? name = some old → ∃ new, after.find? name = some new ∧ Grows old new

theorem fragments_grow (grows : DocumentGrows document grown) :
    TableGrows document.index.fragments grown.index.fragments := by
  intro name old
  simp only [Document.find?_fragments]
  exact inForce?_grows grows

theorem targets_grow (excluded : String → Bool) {before after : NameTable}
    (known : TableGrows before after) (grows : Grows old new) :
    List.SublistForall₂ Grows (Descent.targets ⟨before, excluded⟩ old)
      (Descent.targets ⟨after, excluded⟩ new) := by
  unfold Descent.targets
  rw [grows.kind_eq]
  split
  · split
    · exact .nil
    · exact grows.selections
  · rename_i fragment _
    cases found : before.find? fragment with
    | none => simpa [found] using .nil
    | some definition =>
      obtain ⟨later, found', grows⟩ := known fragment definition found
      simp only [found', Option.toList_some]
      exact .cons grows .nil
  · exact grows.selections
  · exact grows.selections
  · exact grows.selections
  all_goals exact .nil

/-- Frames that stand at a node and at what it has grown to, and are alike otherwise. -/
structure FrameGrows (before after : Frame) : Prop where
  node : Grows before.node after.node
  depth : after.depth = before.depth
  entered : after.entered = before.entered

theorem FrameGrows.step {before after : Frame} (grows : FrameGrows before after)
    (below : Grows old new) : FrameGrows (before.step old) (after.step new) := by
  have kind := grows.node.kind_eq
  unfold Frame.step
  rw [kind]
  split
  · exact ⟨below, by simp [grows.depth], rfl⟩
  · exact ⟨below, grows.depth, by simp [grows.entered]⟩
  all_goals exact ⟨below, grows.depth, grows.entered⟩

theorem FrameGrows.again_iff {before after : Frame} (grows : FrameGrows before after) :
    after.Again ↔ before.Again := by
  simp only [Frame.Again, grows.node.kind_eq, grows.entered]

/-- What is found from a frame on is still found where the frame has grown. -/
theorem found_grows (name : String) (limit : Int) (excluded : String → Bool)
    {before after : NameTable} (known : TableGrows before after) {small large : Frame}
    (grows : FrameGrows small large) :
    List.SublistForall₂ Grows (Scope.found ⟨name, before, limit⟩ excluded small)
      (Scope.found ⟨name, after, limit⟩ excluded large) := by
  induction small using Scope.found.induct ⟨name, before, limit⟩ excluded generalizing large with
  | case1 small beyond =>
    have beyond' : large.exceeds ⟨name, after, limit⟩ = true := by
      simpa [Frame.exceeds, grows.depth] using beyond
    rw [Scope.found_beyond beyond, Scope.found_beyond beyond']
    exact .cons grows.node .nil
  | case2 small within ih =>
    have within : small.exceeds ⟨name, before, limit⟩ = false := by simpa using within
    have within' : large.exceeds ⟨name, after, limit⟩ = false := by
      simpa [Frame.exceeds, grows.depth] using within
    rw [Scope.found_within within, Scope.found_within within']
    by_cases again : small.Again
    · rw [Frame.children_of_again again]
      exact .nil
    · have again' : ¬ large.Again := grows.again_iff.not.mpr again
      have down := embeds_map (targets_grow excluded known grows.node)
        fun old new below => grows.step below
      refine embeds_flatMap (R := FrameGrows) ?_ fun child member bigger grows => ?_
      · rw [Frame.children_eq_map within again, Frame.children_eq_map within' again']
        exact down
      · exact ih ⟨child, member⟩ grows

/-! ## Documents -/

/-- All that is reported for a document is reported for what it has grown to, in the same order. -/
theorem violations_grow (excluded : String → Bool) (grows : DocumentGrows document grown)
    (limit : Int) :
    List.SublistForall₂ KeptAs (document.found limit excluded) (grown.found limit excluded) := by
  refine embeds_flatMap (operations_grow grows) fun old _ new ⟨same, below⟩ => ?_
  have frames : FrameGrows ⟨old.2, 0, []⟩ ⟨new.2, 0, []⟩ := ⟨below, rfl, rfl⟩
  have nodes := found_grows old.1 limit excluded (fragments_grow grows) frames
  rw [← same]
  exact embeds_map nodes fun _ _ below => ⟨rfl, rfl, below⟩

variable {exclusion : Exclusion}

/-- **Insertions hide no violation.** Each violation of a document has a place of its own among the
violations of what the document has grown to, in the same order, where the same is reported at what
the node has grown to. So what was refused is still refused. -/
theorem growth_keeps_violations (complete : document.Complete) (completeGrown : grown.Complete)
    (grows : DocumentGrows document grown) (decides : exclusion.Decides excluded) (limit : Int) :
    ∃ before after : List Violation,
      (document.violations limit exclusion).ComesTo (.ok before) ∧
      (grown.violations limit exclusion).ComesTo (.ok after) ∧
      (∃ place : Fin before.length ↪o Fin after.length,
        ∀ i, KeptAs (before.get i) (after.get (place i))) ∧
      (before ≠ [] → after ≠ []) := by
  have embeds := violations_grow excluded grows limit
  exact ⟨_, _, Document.violations_comesTo complete decides limit,
    Document.violations_comesTo completeGrown decides limit, exists_places embeds,
    ne_nil_of_embeds embeds⟩

/-- A query that spreads a fragment which is not defined. -/
def sparse : Document where
  definitions := [
    ⟨.operation .query (some "Q"), some [
      ⟨.field none "a", some [⟨.field none "b", none, none⟩, ⟨.fragmentSpread "F", none, none⟩],
        none⟩], none⟩]

/-- The same query with the fragment, which goes round in itself, with selections at all places and
with one more query before it. -/
def crowded : Document where
  definitions := [
    ⟨.operation .query (some "P"), some [⟨.fragmentSpread "F", none, none⟩], none⟩,
    ⟨.operation .query (some "Q"), some [
      ⟨.fragmentSpread "F", none, none⟩,
      ⟨.field none "a", some [
        ⟨.field none "b", some [⟨.fragmentSpread "F", none, none⟩], none⟩,
        ⟨.inlineFragment none, some [], none⟩,
        ⟨.fragmentSpread "F", none, none⟩], none⟩], none⟩,
    ⟨.fragmentDefinition "F" "T", some [
      ⟨.fragmentSpread "F", none, none⟩,
      ⟨.field none "a", some [⟨.fragmentSpread "F", none, none⟩], none⟩], none⟩]

theorem sparse_grows_crowded : DocumentGrows sparse crowded := by
  -- The query before, then `Q` with a spread before `a` and with `b` and `a` grown, then `F`.
  refine .inserted (by decide) (.kept (.inserted (.cons_right (.cons ?_ .nil)))
    (.inserted (by decide) .nil))
  exact .inserted (.cons (.given _) (.cons_right (.cons (.given none) .nil)))

/-- No violation of the query is hidden by what was inserted. -/
theorem crowded_keeps_violations :
    sparse.Complete ∧ crowded.Complete ∧ DocumentGrows sparse crowded ∧
    Exclusion.Decides .nothing isIntrospection ∧
    ∃ before after : List Violation,
      (sparse.violations 0 .nothing).ComesTo (.ok before) ∧
      (crowded.violations 0 .nothing).ComesTo (.ok after) ∧
      (∃ place : Fin before.length ↪o Fin after.length,
        ∀ i, KeptAs (before.get i) (after.get (place i))) ∧
      (before ≠ [] → after ≠ []) := by
  have complete : sparse.Complete := by decide
  have completeGrown : crowded.Complete := by decide
  have decides := Exclusion.decides_nothing
  exact ⟨complete, completeGrown, sparse_grows_crowded, decides,
    growth_keeps_violations complete completeGrown sparse_grows_crowded decides 0⟩

end QueryDepth.ContentGrowth
