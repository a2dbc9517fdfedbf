import Mathlib.Tactic.Choose
import QueryDepth.Exclusion

/-! Exclusions that decide by the name of a field alone. What has been left behind before makes no
difference to them: neither which patterns are kept nor what a predicate was asked. Others may give
another answer each time, as long as they answer. -/
namespace QueryDepth

namespace Run

variable {α β : Type}

/-- A computation comes to an outcome, whatever has been left behind before. -/
def ComesTo (action : Run α) (outcome : Except Failure α) : Prop :=
  ∀ trace, (action.after trace).1 = outcome

theorem comesTo_pure (value : α) : ComesTo (pure value) (.ok value) := fun _ => rfl

theorem comesTo_tell (event : Event) : ComesTo (tell event) (.ok ()) := fun _ => rfl

theorem ComesTo.bind {action : Run α} {next : α → Run β} {value : α} {outcome : Except Failure β}
    (first : action.ComesTo (.ok value)) (second : (next value).ComesTo outcome) :
    (action >>= next).ComesTo outcome := by
  intro trace
  have came := first trace
  rw [after_bind]
  rcases visited : action.after trace with ⟨result, left⟩
  rw [visited] at came
  subst came
  exact second left

theorem ComesTo.bind_error {action : Run α} {failure : Failure}
    (fails : action.ComesTo (.error failure)) (next : α → Run β) :
    (action >>= next).ComesTo (.error failure) := by
  intro trace
  have came := fails trace
  rw [after_bind]
  rcases visited : action.after trace with ⟨result, left⟩
  rw [visited] at came
  subst came
  rfl

/-- Where a computation comes to a result, so do its parts. -/
theorem ok_of_bind {action : Run α} {next : α → Run β} {trace left : Trace} {result : β}
    (returned : (action >>= next).after trace = (.ok result, left)) :
    ∃ value middle, action.after trace = (.ok value, middle) ∧
      (next value).after middle = (.ok result, left) := by
  rw [after_bind] at returned
  rcases visited : action.after trace with ⟨_ | value, middle⟩ <;> simp only [visited] at returned
  · cases returned
  · exact ⟨value, middle, rfl, returned⟩

/-- A computation is steady if it comes to the same outcome, be it a failure, whatever has been left
behind before. -/
def Steady (action : Run α) : Prop := ∃ outcome, action.ComesTo outcome

theorem steady_pure (value : α) : Steady (pure value) := ⟨_, comesTo_pure value⟩

theorem steady_throw (failure : Failure) : Steady (throw failure : Run α) :=
  ⟨.error failure, fun _ => rfl⟩

theorem steady_tell (event : Event) : Steady (tell event) := ⟨_, comesTo_tell event⟩

theorem Steady.bind {action : Run α} {next : α → Run β} (first : action.Steady)
    (second : ∀ value, (next value).Steady) : (action >>= next).Steady := by
  obtain ⟨failure | value, comes⟩ := first
  · exact ⟨.error failure, comes.bind_error next⟩
  · obtain ⟨outcome, later⟩ := second value
    exact ⟨outcome, comes.bind later⟩

/-- A computation returns if it comes to a result, whatever has been left behind before. -/
def Returns (action : Run α) : Prop :=
  ∀ trace, ∃ value left, action.after trace = (.ok value, left)

theorem ComesTo.returns {action : Run α} {value : α} (comes : action.ComesTo (.ok value)) :
    action.Returns :=
  fun trace => ⟨value, (action.after trace).2, Prod.ext (comes trace) rfl⟩

theorem Returns.bind {action : Run α} {next : α → Run β} (first : action.Returns)
    (second : ∀ value, (next value).Returns) : (action >>= next).Returns := by
  intro trace
  obtain ⟨value, middle, returned⟩ := first trace
  obtain ⟨result, left, finished⟩ := second value middle
  refine ⟨result, left, ?_⟩
  rw [after_bind, returned]
  exact finished

/-- A property of computations composes if it holds of what is put together from computations of
which it holds. -/
structure Composes (holds : (α : Type) → Run α → Prop) : Prop where
  pure : ∀ {α : Type} (value : α), holds α (Pure.pure value)
  tell : ∀ event, holds Unit (Run.tell event)
  bind : ∀ {α β : Type} {action : Run α} {next : α → Run β}, holds α action →
    (∀ value, holds β (next value)) → holds β (action >>= next)

theorem steady_composes : Composes fun _ action => action.Steady :=
  ⟨steady_pure, steady_tell, Steady.bind⟩

theorem returns_composes : Composes fun _ action => action.Returns :=
  ⟨fun value => (comesTo_pure value).returns, fun event => (comesTo_tell event).returns,
    Returns.bind⟩

/-- A relation between computations carries over if what is put together from related computations
is related. Of the events only those are told on both sides that matter least. -/
structure Carries (related : (α : Type) → Run α → Run α → Prop) : Prop where
  pure : ∀ {α : Type} (value : α), related α (Pure.pure value) (Pure.pure value)
  tell : ∀ event, event.level = .debug → related Unit (Run.tell event) (Run.tell event)
  bind : ∀ {α β : Type} {first second : Run α} {next later : α → Run β}, related α first second →
    (∀ value, related β (next value) (later value)) → related β (first >>= next) (second >>= later)

/-- Items that are computed one after the other are related if each of them is. -/
theorem Carries.mapM {related : (α : Type) → Run α → Run α → Prop} (carries : Carries related)
    {items : List α} {first second : α → Run β}
    (each : ∀ item ∈ items, related _ (first item) (second item)) :
    related _ (items.mapM first) (items.mapM second) := by
  induction items with
  | nil => exact carries.pure _
  | cons item rest ih =>
    rw [List.mapM_cons, List.mapM_cons]
    have later := ih fun other member => each other (List.mem_cons_of_mem _ member)
    exact carries.bind (each item List.mem_cons_self) fun _ =>
      carries.bind later fun _ => carries.pure _

theorem Carries.flatten {related : (α : Type) → Run α → Run α → Prop} (carries : Carries related)
    {items : List α} {first second : α → Run (List β)}
    (each : ∀ item ∈ items, related _ (first item) (second item)) :
    related _ (do return (← items.mapM first).flatten) (do return (← items.mapM second).flatten) :=
  carries.bind (carries.mapM each) fun _ => carries.pure _

/-- A decision is related to itself if the use of a pattern and the question to a predicate are. -/
theorem Carries.excludes {related : (α : Type) → Run α → Run α → Prop} (carries : Carries related)
    (exclusion : Exclusion) (name : String)
    (uses : ∀ text, exclusion = .pattern text → related _ (compiled text) (compiled text))
    (asks : ∀ condition, exclusion = .predicate condition →
      related _ (ask condition name) (ask condition name)) :
    related _ (exclusion.excludes name) (exclusion.excludes name) := by
  unfold Exclusion.excludes
  split
  · exact carries.pure true
  · cases exclusion with
    | exact wanted => exact carries.pure _
    | nothing => exact carries.pure false
    | predicate condition => exact asks condition rfl
    | pattern text => exact carries.bind (uses text rfl) fun _ => carries.pure _

/-- That two computations always come to the same outcome carries over. -/
theorem comesTo_carries : Carries fun _ first second =>
    ∃ outcome, first.ComesTo outcome ∧ second.ComesTo outcome where
  pure := fun value => ⟨_, comesTo_pure value, comesTo_pure value⟩
  tell := fun event _ => ⟨_, comesTo_tell event, comesTo_tell event⟩
  bind := by
    rintro α β first second next later ⟨failure | value, comes, alike⟩ each
    · exact ⟨_, comes.bind_error next, alike.bind_error later⟩
    · obtain ⟨outcome, goes, follows⟩ := each value
      exact ⟨outcome, comes.bind goes, alike.bind follows⟩

/-- A property that composes is a relation that carries over, between a computation and itself. -/
theorem Composes.carries {holds : (α : Type) → Run α → Prop} (composes : Composes holds) :
    Carries fun α first second => first = second ∧ holds α first where
  pure := fun value => ⟨rfl, composes.pure value⟩
  tell := fun event _ => ⟨rfl, composes.tell event⟩
  bind := by
    intro α β first second next later ⟨same, holds⟩ each
    obtain rfl : next = later := funext fun value => (each value).1
    exact ⟨by rw [same], composes.bind holds fun value => (each value).2⟩

theorem comesTo_mapM {items : List α} {action : α → Run β} {outcome : α → β}
    (each : ∀ item ∈ items, (action item).ComesTo (.ok (outcome item))) :
    (items.mapM action).ComesTo (.ok (items.map outcome)) := by
  induction items with
  | nil => exact comesTo_pure _
  | cons item rest ih =>
    rw [List.mapM_cons]
    have others := ih fun item member => each item (List.mem_cons_of_mem _ member)
    exact (each item List.mem_cons_self).bind (others.bind (comesTo_pure _))

theorem comesTo_flatten {actions : List α} {action : α → Run (List β)} {outcome : α → List β}
    (each : ∀ item ∈ actions, (action item).ComesTo (.ok (outcome item))) :
    ComesTo (do return (← actions.mapM action).flatten) (.ok (actions.flatMap outcome)) :=
  (comesTo_mapM each).bind (comesTo_pure _)

/-- A computation fails in one way under a condition, and comes to a value otherwise, whatever has
been left behind before. -/
def FailsOr (failure : Failure) (fails : Prop) (value : α) (action : Run α) : Prop :=
  (fails → action.ComesTo (.error failure)) ∧ (¬ fails → action.ComesTo (.ok value))

variable {failure : Failure} {fails : Prop}

theorem failsOr_pure (value : α) (never : ¬ fails) : FailsOr failure fails value (pure value) :=
  ⟨fun holds => absurd holds never, fun _ => comesTo_pure value⟩

theorem ComesTo.failsOr_bind {action : Run α} {next : α → Run β} {value : α} {result : β}
    (first : action.ComesTo (.ok value)) (second : FailsOr failure fails result (next value)) :
    FailsOr failure fails result (action >>= next) :=
  ⟨fun holds => first.bind (second.1 holds), fun unlike => first.bind (second.2 unlike)⟩

theorem FailsOr.bind_pure {action : Run α} {value : α}
    (first : FailsOr failure fails value action) (convert : α → β) :
    FailsOr failure fails (convert value) (action >>= fun found => pure (convert found)) :=
  ⟨fun holds => (first.1 holds).bind_error _,
    fun unlike => (first.2 unlike).bind (comesTo_pure _)⟩

/-- Lists that are computed one after the other fail if one of them does. -/
theorem failsOr_flatten {items : List α} {action : α → Run (List β)} {bad : α → Prop}
    {outcome : α → List β}
    (each : ∀ item ∈ items, FailsOr failure (bad item) (outcome item) (action item)) :
    FailsOr failure (∃ item ∈ items, bad item) (items.flatMap outcome)
      (do return (← items.mapM action).flatten) := by
  induction items with
  | nil => exact failsOr_pure [] (by simp)
  | cons first rest ih =>
    have begins := each first List.mem_cons_self
    have later := ih fun item member => each item (List.mem_cons_of_mem _ member)
    rw [mapM_flatten_cons]
    by_cases breaks : bad first
    · have some : ∃ item ∈ first :: rest, bad item := ⟨first, List.mem_cons_self, breaks⟩
      exact ⟨fun _ => (begins.1 breaks).bind_error _, fun none => absurd some none⟩
    · have split : (∃ item ∈ first :: rest, bad item) ↔ ∃ item ∈ rest, bad item := by
        simp [breaks]
      rw [split]
      exact (begins.2 breaks).failsOr_bind (later.bind_pure (outcome first ++ ·))

/-- Where steady lists are computed one after the other and come to a result, each of them does. -/
theorem flatten_of_steady {action : α → Run (List β)} (steady : ∀ item, (action item).Steady) :
    ∃ block : α → List β, ∀ {actions : List α} {trace left : Trace} {result : List β},
      (do return (← actions.mapM action).flatten : Run (List β)).after trace = (.ok result, left) →
        (∀ item ∈ actions, (action item).ComesTo (.ok (block item))) ∧
          result = actions.flatMap block := by
  choose outcome comes using steady
  let block := fun item => match outcome item with
    | .ok value => value
    | .error _ => []
  refine ⟨block, fun {actions} => ?_⟩
  induction actions with
  | nil =>
    intro trace left result returned
    cases returned
    exact ⟨by simp, rfl⟩
  | cons item rest ih =>
    intro trace left result returned
    rw [mapM_flatten_cons] at returned
    obtain ⟨value, middle, first, returned⟩ := ok_of_bind returned
    obtain ⟨others, _, second, returned⟩ := ok_of_bind returned
    cases returned
    obtain ⟨each, rfl⟩ := ih second
    have came : outcome item = .ok value := by rw [← comes item trace, first]
    have same : block item = value := by simp only [block, came]
    refine ⟨fun other member => ?_, by rw [List.flatMap_cons, same]⟩
    rcases List.mem_cons.mp member with rfl | later
    · rw [same, ← came]
      exact comes other
    · exact each other later

/-- A computation finds only items of which something holds, if it comes to a list at all. -/
def FindsOnly (action : Run (List β)) (holds : β → Prop) : Prop :=
  ∀ trace found left, action.after trace = (.ok found, left) → ∀ item ∈ found, holds item

/-- Computations that are put together find only what each of them finds. -/
theorem FindsOnly.flatten {holds : β → Prop} {actions : List α} {action : α → Run (List β)}
    (each : ∀ item ∈ actions, (action item).FindsOnly holds) :
    FindsOnly (do return (← actions.mapM action).flatten) holds := by
  induction actions with
  | nil =>
    intro trace found left returned
    cases returned
    simp
  | cons first rest ih =>
    intro trace found left returned
    rw [mapM_flatten_cons] at returned
    obtain ⟨front, middle, began, returned⟩ := ok_of_bind returned
    obtain ⟨back, _, ended, returned⟩ := ok_of_bind returned
    cases returned
    have later := ih fun other member => each other (List.mem_cons_of_mem _ member)
    intro item member
    rcases List.mem_append.mp member with early | late
    · exact each first List.mem_cons_self _ _ _ began item early
    · exact later _ _ _ ended item late

/-- Lists that are computed one after the other from other items come out with every member
converted, if each of them does. -/
theorem mapM_flatten_flatMap {γ δ : Type} {actions : List α} {action : α → Run (List β)}
    {image : α → γ} {other : γ → Run (List δ)} {convert : β → List δ}
    (each : ∀ item ∈ actions, other (image item) = List.flatMap convert <$> action item) :
    (do return (← (actions.map image).mapM other).flatten : Run (List δ)) =
      List.flatMap convert <$> (do return (← actions.mapM action).flatten : Run (List β)) := by
  induction actions with
  | nil => rfl
  | cons item rest ih =>
    have later := ih fun other member => each other (List.mem_cons_of_mem _ member)
    rw [List.map_cons, mapM_flatten_cons, mapM_flatten_cons, each item List.mem_cons_self, later]
    generalize (do return (← rest.mapM action).flatten : Run (List β)) = others
    simp only [map_bind, bind_map_left, map_pure, List.flatMap_append]

theorem mapM_flatten_map {γ δ : Type} {actions : List α} {action : α → Run (List β)}
    {image : α → γ} {other : γ → Run (List δ)} {convert : β → δ}
    (each : ∀ item ∈ actions, other (image item) = List.map convert <$> action item) :
    (do return (← (actions.map image).mapM other).flatten : Run (List δ)) =
      List.map convert <$> (do return (← actions.mapM action).flatten : Run (List β)) := by
  have alike : List.map convert = List.flatMap fun item => [convert item] :=
    funext fun _ => List.map_eq_flatMap
  rw [alike] at each ⊢
  exact mapM_flatten_flatMap each

end Run

namespace Exclusion

/-- An exclusion goes by the name alone if for each name it always answers the same, or always fails
in the same way. -/
def GoesByName (exclusion : Exclusion) : Prop := ∀ name, (exclusion.excludes name).Steady

/-- An exclusion decides by the name: it always comes to an answer, and always to the same one. -/
def Decides (exclusion : Exclusion) (excluded : String → Bool) : Prop :=
  ∀ name, (exclusion.excludes name).ComesTo (.ok (excluded name))

theorem Decides.goesByName {exclusion : Exclusion} {excluded : String → Bool}
    (decides : exclusion.Decides excluded) : exclusion.GoesByName :=
  fun name => ⟨_, decides name⟩

/-- An exclusion answers if it always comes to an answer, which may be another one each time: its
pattern stays within the bounds, and its predicate never puts an end to everything. -/
def Answers : Exclusion → Prop
  | exact _ | nothing => True
  | pattern text => (Pattern.prepared? text).isSome = true
  | predicate condition =>
    ∀ asked name interruption, condition.respond asked name ≠ .interrupts interruption

theorem decides_nothing : Decides .nothing isIntrospection := by
  intro name trace
  cases introspective : isIntrospection name <;> simp [excludes, introspective]

theorem decides_exact (wanted : String) :
    Decides (.exact wanted) fun name => isIntrospection name || name == wanted := by
  intro name trace
  cases introspective : isIntrospection name <;> simp [excludes, introspective]

/-- A pattern within the bounds becomes the same whether it is kept or not. -/
theorem comesTo_compiled {text : String} {ready : Option Pattern.Compiled}
    (becomes : Pattern.prepared? text = some ready) :
    (Run.compiled text).ComesTo (.ok ready) := by
  intro trace
  rw [Run.compiled_after becomes]

/-- A pattern within the bounds decides by a search, even while others push it out of the cache. -/
theorem decides_pattern {text : String} {ready : Option Pattern.Compiled}
    (becomes : Pattern.prepared? text = some ready) :
    Decides (.pattern text) fun name => isIntrospection name || ready.any (·.search name) := by
  intro name
  cases introspective : isIntrospection name with
  | true => simpa [excludes, introspective] using Run.comesTo_pure true
  | false =>
    simp only [excludes, introspective, Bool.false_eq_true, ↓reduceIte, Bool.false_or]
    exact (comesTo_compiled becomes).bind (Run.comesTo_pure _)

/-- A predicate that puts no end to anything has an answer, or it fails and the answer is no. -/
theorem returns_ask {condition : Predicate}
    (lets : ∀ asked name interruption, condition.respond asked name ≠ .interrupts interruption)
    (name : String) : (Run.ask condition name).Returns := by
  intro trace
  rw [Run.ask_after]
  cases said : condition.respond trace.asked name with
  | answers excluded => exact ⟨_, _, rfl⟩
  | fails reason => exact ⟨_, _, rfl⟩
  | interrupts interruption => exact absurd said (lets _ _ _)

theorem Answers.returns {exclusion : Exclusion} (answers : exclusion.Answers) (name : String) :
    (exclusion.excludes name).Returns := by
  cases exclusion with
  | exact wanted => exact (decides_exact wanted name).returns
  | nothing => exact (decides_nothing name).returns
  | pattern text =>
    obtain ⟨ready, becomes⟩ := Option.isSome_iff_exists.mp answers
    exact (decides_pattern becomes name).returns
  | predicate condition =>
    cases introspective : isIntrospection name with
    | true => simpa [excludes, introspective] using (Run.comesTo_pure true).returns
    | false => simpa [excludes, introspective] using returns_ask answers name

/-- What a predicate answers if it has an answer, and no if it fails. -/
theorem comesTo_ask {condition : Predicate} {name : String} {holds : Bool}
    (constant : ∀ asked, condition.respond asked name = .answers holds ∨
      holds = false ∧ ∃ reason, condition.respond asked name = .fails reason) :
    (Run.ask condition name).ComesTo (.ok holds) := by
  intro trace
  rw [Run.ask_after]
  obtain answers | ⟨rfl, reason, fails⟩ := constant trace.asked
  · rw [answers]
  · rw [fails]

/-- A predicate decides if its answers do not depend on what it was asked before. Where it fails,
it says no. -/
theorem decides_predicate {condition : Predicate} {holds : String → Bool}
    (constant : ∀ asked name, condition.respond asked name = .answers (holds name) ∨
      holds name = false ∧ ∃ reason, condition.respond asked name = .fails reason) :
    Decides (.predicate condition) fun name => isIntrospection name || holds name := by
  intro name
  cases introspective : isIntrospection name with
  | true => simpa [excludes, introspective] using Run.comesTo_pure true
  | false =>
    simpa [excludes, introspective] using comesTo_ask fun asked => constant asked name

end Exclusion

end QueryDepth
