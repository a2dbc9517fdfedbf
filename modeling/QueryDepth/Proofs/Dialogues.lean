import QueryDepth.Proofs.DecidedWalk

/-! The search for violations as a dialogue with an exclusion. Question after question it asks
whether a name is left out, and it sees nothing of the exclusion but the answers. So there is one
dialogue for all exclusions: whatever is asked next, and whatever is told in between, goes by the
answers that came before. -/
namespace QueryDepth

/-- A computation that puts questions about names to an exclusion, one after the other. -/
inductive Dialogue (α : Type) where
  /-- It comes to an outcome. -/
  | ends (outcome : Except Failure α)
  /-- It tells an event. -/
  | tells (event : Event) (rest : Dialogue α)
  /-- It asks whether a name is left out, and goes on with the answer. -/
  | asks (name : String) (next : Bool → Dialogue α)

namespace Dialogue

variable {α β : Type}

/-- The computation, with the answers that an exclusion gives. -/
def play (exclusion : Exclusion) : Dialogue α → Run α
  | ends (.ok value) => pure value
  | ends (.error failure) => throw failure
  | tells event rest => do
    Run.tell event
    rest.play exclusion
  | asks name next => do
    let excluded ← exclusion.excludes name
    (next excluded).play exclusion

/-- What becomes of a dialogue if another one follows its value. -/
def bind : Dialogue α → (α → Dialogue β) → Dialogue β
  | ends (.ok value), next => next value
  | ends (.error failure), _ => ends (.error failure)
  | tells event rest, next => tells event (rest.bind next)
  | asks name later, next => asks name fun excluded => (later excluded).bind next

/-- A dialogue is calm if of the events it tells only those that matter least, and if it breaks off
only where a selection set is missing. -/
def Calm : Dialogue α → Prop
  | ends (.ok _) => True
  | ends (.error failure) => failure = .missingSelections
  | tells event rest => event.level = .debug ∧ rest.Calm
  | asks _ next => ∀ excluded, (next excluded).Calm

theorem play_bind (exclusion : Exclusion) (dialogue : Dialogue α) (next : α → Dialogue β) :
    (dialogue.bind next).play exclusion =
      dialogue.play exclusion >>= fun value => (next value).play exclusion := by
  induction dialogue with
  | ends outcome =>
    cases outcome with
    | ok value => simp only [bind, play, pure_bind]
    | error failure => rfl
  | tells event rest ih => simp only [bind, play, ih, bind_assoc]
  | asks name later ih => simp only [bind, play, ih, bind_assoc]

theorem Calm.bind {dialogue : Dialogue α} {next : α → Dialogue β} (calm : dialogue.Calm)
    (later : ∀ value, (next value).Calm) : (dialogue.bind next).Calm := by
  induction dialogue with
  | ends outcome =>
    cases outcome with
    | ok value => exact later value
    | error failure => exact calm
  | tells event rest ih => exact ⟨calm.1, ih calm.2⟩
  | asks name others ih => exact fun excluded => ih excluded (calm excluded)

end Dialogue

namespace Run

variable {α β : Type}

/-- A computation that depends on an exclusion is spoken if it is one calm dialogue with all of
them. -/
def Spoken (action : Exclusion → Run α) : Prop :=
  ∃ dialogue : Dialogue α, dialogue.Calm ∧ ∀ exclusion, action exclusion = dialogue.play exclusion

theorem spoken_pure (value : α) : Spoken fun _ => pure value :=
  ⟨.ends (.ok value), trivial, fun _ => rfl⟩

theorem spoken_missing : Spoken fun _ => (throw .missingSelections : Run α) :=
  ⟨.ends (.error .missingSelections), rfl, fun _ => rfl⟩

theorem spoken_tell {event : Event} (calm : event.level = .debug) : Spoken fun _ => tell event :=
  ⟨.tells event (.ends (.ok ())), ⟨calm, trivial⟩, fun _ => (bind_pure (tell event)).symm⟩

theorem spoken_excludes (name : String) : Spoken fun exclusion => exclusion.excludes name := by
  refine ⟨.asks name fun excluded => .ends (.ok excluded), fun _ => trivial, fun exclusion => ?_⟩
  exact (bind_pure (exclusion.excludes name)).symm

theorem Spoken.bind {action : Exclusion → Run α} {next : Exclusion → α → Run β}
    (first : Spoken action) (second : ∀ value, Spoken fun exclusion => next exclusion value) :
    Spoken fun exclusion => action exclusion >>= next exclusion := by
  obtain ⟨dialogue, calm, plays⟩ := first
  choose later quiet follows using second
  refine ⟨dialogue.bind later, calm.bind quiet, fun exclusion => ?_⟩
  simp only [plays exclusion, Dialogue.play_bind]
  exact bind_congr fun value => follows value exclusion

theorem spoken_mapM {items : List α} {action : Exclusion → α → Run β}
    (each : ∀ item ∈ items, Spoken fun exclusion => action exclusion item) :
    Spoken fun exclusion => items.mapM (action exclusion) := by
  induction items with
  | nil => exact spoken_pure []
  | cons item rest ih =>
    have later := ih fun other member => each other (List.mem_cons_of_mem _ member)
    simp only [List.mapM_cons]
    exact (each item List.mem_cons_self).bind fun _ => later.bind fun _ => spoken_pure _

theorem spoken_flatten {items : List α} {action : Exclusion → α → Run (List β)}
    (each : ∀ item ∈ items, Spoken fun exclusion => action exclusion item) :
    Spoken fun exclusion => (do return (← items.mapM (action exclusion)).flatten) :=
  (spoken_mapM each).bind fun _ => spoken_pure _

end Run

namespace RecursiveVisit

theorem goesOn_spoken (scope : Scope) (frame : Frame) :
    Run.Spoken fun exclusion => frame.goesOn scope exclusion := by
  obtain ⟨⟨kind, selections, location⟩, depth, entered⟩ := frame
  unfold Frame.goesOn
  cases kind with
  | field responseName name =>
    exact (Run.spoken_excludes name).bind fun excluded => Run.spoken_pure _
  | fragmentSpread fragment =>
    dsimp only
    split
    · exact (Run.spoken_tell rfl).bind fun _ => Run.spoken_pure false
    · split
      · exact (Run.spoken_tell rfl).bind fun _ => Run.spoken_pure false
      · exact Run.spoken_pure true
  | inlineFragment | operation | fragmentDefinition =>
    cases selections with
    | none => exact Run.spoken_missing
    | some selections => exact Run.spoken_pure true
  | name | scalarType | typeSystem => exact Run.spoken_pure false

/-- A visit is one dialogue with all exclusions. -/
theorem visit_spoken (scope : Scope) (frame : Frame) : Run.Spoken fun exclusion =>
    visit scope exclusion frame.node frame.depth frame.entered := by
  cases beyond : frame.exceeds scope with
  | true =>
    simp only [visit_beyond _ beyond]
    exact Run.spoken_pure _
  | false =>
    simp only [visit_within _ beyond]
    refine (goesOn_spoken scope frame).bind fun opens => ?_
    split
    · simp only [visitFrames_eq_flatten]
      exact Run.spoken_flatten fun child member => visit_spoken scope child
    · exact Run.spoken_pure _
termination_by frame.rank scope
decreasing_by exact Frame.rank_lt_of_mem_next member

end RecursiveVisit

theorem Document.violations_spoken (document : Document) (limit : Int) :
    Run.Spoken fun exclusion => document.violations limit exclusion := by
  simp only [violations_eq_flatten, RecursiveVisit.violations_eq_visit]
  refine Run.spoken_flatten fun ⟨name, operation⟩ _ => ?_
  exact (RecursiveVisit.visit_spoken _ ⟨operation, 0, []⟩).bind fun _ => Run.spoken_pure _

end QueryDepth
