import QueryDepth.Proofs.DecidedWalk
import QueryDepth.Session

/-! What a step of a session can do, said once for all that is proved about sessions: it is refused,
it counts a check, it makes one, or it does no more than ask which fields are left out. -/
namespace QueryDepth

/-- A computation that does no more than ask an exclusion about names, tell what is found on the way
and perhaps miss a selection set. Whatever carries over from the questions holds of it. -/
def Run.AsksOnly (exclusion : Exclusion) {α : Type} (action : Run α) : Prop :=
  ∀ related : (β : Type) → Run β → Run β → Prop, Run.Carries related →
    (∀ name, related Bool (exclusion.excludes name) (exclusion.excludes name)) →
    related Bool (throw .missingSelections) (throw .missingSelections) → related α action action

theorem Run.AsksOnly.map {exclusion : Exclusion} {α β : Type} {action : Run α}
    (asks : action.AsksOnly exclusion) (convert : α → β) :
    (convert <$> action).AsksOnly exclusion := by
  intro related carries questions missing
  rw [map_eq_pure_bind]
  exact carries.bind (asks related carries questions missing) fun _ => carries.pure _

theorem Document.violations_asksOnly (document : Document) (limit : Int) (exclusion : Exclusion) :
    (document.violations limit exclusion).AsksOnly exclusion :=
  fun _ carries questions missing =>
    RecursiveVisit.violations_related carries questions (fun _ _ _ => .inr missing) limit

namespace Session.Step

/-- Whether a step is a check, made by it or elsewhere. -/
def isCheck : Step → Bool
  | .rule .. | .limiter _ (some _) | .record _ => true
  | .ignore .. | .index _ | .validate .. | .limiter _ none => false

/-- The check that a step makes, if all that it needs is ready: a rule and a document. -/
def wanted? : Step → Option (DepthRule × Document)
  | .rule limit exclusion source => do
    let made ← (DepthRule.make limit exclusion).toOption
    let document ← source.document.toOption
    return (made, document)
  | .limiter origin (some source) => do
    let limiter ← origin.ready.toOption
    let document ← source.document.toOption
    return (limiter.rule, document)
  | .ignore .. | .index _ | .validate .. | .limiter _ none | .record _ => none

/-- All that a step can do. -/
theorem ready_cases (step : Step) :
    (∃ operations, step = .record operations) ∨
    (step.wanted? = none ∧ ∃ refusal, step.ready = .error refusal) ∨
    (step.isCheck = true ∧ ∃ rule document convert, step.wanted? = some (rule, document) ∧
      step.ready = .ok (convert <$> rule.check document)) ∨
    (step.isCheck = false ∧ step.wanted? = none ∧
      ∃ exclusion action, step.ready = .ok action ∧ action.AsksOnly exclusion) := by
  cases step with
  | record operations => exact .inl ⟨operations, rfl⟩
  | ignore names exclusion =>
    have asks : (names.mapM exclusion.excludes).AsksOnly exclusion :=
      fun _ carries questions _ => carries.mapM fun name _ => questions name
    exact .inr (.inr (.inr ⟨rfl, rfl, exclusion, _, rfl, asks.map _⟩))
  | index source =>
    simp only [ready, Source.ready]
    cases source.document with
    | error problem => exact .inr (.inl ⟨rfl, _, rfl⟩)
    | ok document =>
      exact .inr (.inr (.inr ⟨rfl, rfl, .nothing, _, rfl, fun _ carries _ _ => carries.pure _⟩))
  | validate source limit exclusion =>
    simp only [ready, Source.ready]
    cases source.document with
    | error problem => exact .inr (.inl ⟨rfl, _, rfl⟩)
    | ok document =>
      have asks := document.violations_asksOnly limit exclusion
      exact .inr (.inr (.inr ⟨rfl, rfl, exclusion, _, rfl, asks.map _⟩))
  | rule limit exclusion source =>
    simp only [ready, wanted?, Source.ready]
    cases DepthRule.make limit exclusion with
    | error refused => exact .inr (.inl ⟨rfl, _, rfl⟩)
    | ok made =>
      cases source.document with
      | error problem => exact .inr (.inl ⟨rfl, _, rfl⟩)
      | ok document => exact .inr (.inr (.inl ⟨rfl, made, document, _, rfl, rfl⟩))
  | limiter origin source =>
    cases source with
    | none =>
      simp only [ready]
      cases origin.ready with
      | error refusal => exact .inr (.inl ⟨rfl, _, rfl⟩)
      | ok limiter =>
        exact .inr (.inr (.inr ⟨rfl, rfl, .nothing, _, rfl, fun _ carries _ _ => carries.pure _⟩))
    | some source =>
      simp only [ready, wanted?, Source.ready]
      cases origin.ready with
      | error refusal => exact .inr (.inl ⟨rfl, _, rfl⟩)
      | ok limiter =>
        cases source.document with
        | error problem => exact .inr (.inl ⟨rfl, _, rfl⟩)
        | ok document => exact .inr (.inr (.inl ⟨rfl, limiter.rule, document, _, rfl, rfl⟩))

end Session.Step

end QueryDepth
