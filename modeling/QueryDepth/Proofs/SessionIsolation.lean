import QueryDepth.Proofs.SessionSteps

/-! What a step of a session sees of the steps before it: nothing. A step that comes late is run
next to the same step alone. Both put the same questions and come to the same, while the counters of
the late one are ahead by what they were at first, and a warning is left out where its pattern was
kept. -/
namespace QueryDepth

/-- Counters that add up to others, label by label. A label that neither has is in neither sum. -/
structure Metrics.Sum (first second total : Metrics) : Prop where
  passed : total.passed = first.passed + second.passed
  rejected : total.rejected = first.rejected + second.rejected
  violations : ∀ label, total.violations.lookup label =
    (first.violations.lookup label).merge (· + ·) (second.violations.lookup label)

theorem Metrics.sum_empty (metrics : Metrics) : Metrics.Sum metrics {} metrics :=
  ⟨rfl, rfl, fun _ => by simp⟩

/-- A check that is counted on both sides adds the same to both. -/
theorem Metrics.Sum.record {first second total : Metrics} (sum : Metrics.Sum first second total)
    (operations : List String) :
    Metrics.Sum first (second.record operations) (total.record operations) where
  passed := by
    cases operations <;> simp [Metrics.record, sum.passed, Nat.add_assoc]
  rejected := by
    cases operations <;> simp [Metrics.record, sum.rejected, Nat.add_assoc]
  violations := by
    intro label
    simp only [Metrics.record, Metrics.lookup_foldl_increment, sum.violations]
    split
    · cases first.violations.lookup label <;> cases second.violations.lookup label <;>
        simp [Nat.add_assoc]
    · rfl

/-- Whether an event is a warning about a pattern that is kept. -/
def Trace.silences (trace : Trace) : Event → Bool
  | .invalidPattern pattern _ => trace.patterns.patterns.contains pattern
  | .unknownFragment .. | .fragmentCycle .. | .predicateFailed .. | .rejected ..
  | .negativeLimit _ | .cannotRead .. | .cannotParse .. => false

namespace Run

/-- One computation follows another one along a relation of traces: it comes to the same, and leaves
a trace that is related to the other's. -/
def Follows (along : Trace → Trace → Prop) (α : Type) (first second : Run α) : Prop :=
  ∀ late alone, along late alone →
    (first.after late).1 = (second.after alone).1 ∧
      along (first.after late).2 (second.after alone).2

theorem Follows.bind {along : Trace → Trace → Prop} {α β : Type} {first second : Run α}
    {next later : α → Run β} (begins : Follows along α first second)
    (goesOn : ∀ value, Follows along β (next value) (later value)) :
    Follows along β (first >>= next) (second >>= later) := by
  intro late alone near
  have begun := begins late alone near
  rw [after_bind, after_bind]
  generalize first.after late = one at begun ⊢
  generalize second.after alone = other at begun ⊢
  obtain ⟨result, late⟩ := one
  obtain ⟨result', alone⟩ := other
  obtain ⟨rfl, left⟩ : result = result' ∧ along late alone := begun
  cases result with
  | error failure => exact ⟨rfl, left⟩
  | ok value => exact goesOn value late alone left

/-- The warning about a pattern is left out where the pattern was kept. -/
theorem warning?_eq (trace : Trace) (text : String) :
    warning? trace text =
      if trace.patterns.patterns.contains text then none
      else match Pattern.compile text with
        | .error (.mistaken mistake) => some (.invalidPattern text mistake)
        | _ => none := by
  rw [← PatternCache.find?_isSome, warning?]
  cases trace.patterns.find? text with
  | some known => rfl
  | none => cases Pattern.compile text with
    | ok ready => rfl
    | error refusal => cases refusal <;> rfl

end Run

/-- A late trace next to the trace of the same step alone, where the late one began with an earlier
trace. Of the patterns only the one matters that the step uses. -/
structure Trace.Alongside (earlier : Trace) (exclusion : Exclusion) (late alone : Trace) : Prop where
  asked : late.asked = alone.asked
  events : late.events = alone.events.filter (!earlier.silences ·)
  metrics : Metrics.Sum earlier.metrics alone.metrics late.metrics
  patterns : ∀ text, exclusion = .pattern text →
    (text ∈ late.patterns.patterns ↔
      text ∈ earlier.patterns.patterns ∨ text ∈ alone.patterns.patterns)

namespace Trace

theorem alongside_start {earlier : Trace} (kept : earlier.kept = earlier) (exclusion : Exclusion) :
    Alongside earlier exclusion earlier .empty where
  asked := by rw [← kept]; rfl
  events := by rw [← kept]; rfl
  metrics := Metrics.sum_empty earlier.metrics
  patterns := fun text _ => by simp [empty, PatternCache.empty, PatternCache.patterns]

variable {earlier : Trace} {exclusion : Exclusion}

/-- Events that are told on both sides are no warnings about patterns. -/
theorem alongside_tell {event : Event} (heard : earlier.silences event = false) :
    Run.Follows (Alongside earlier exclusion) Unit (Run.tell event) (Run.tell event) := by
  intro late alone near
  refine ⟨rfl, near.asked, ?_, near.metrics, near.patterns⟩
  simp [heard, near.events]

theorem alongside_carries (earlier : Trace) (exclusion : Exclusion) :
    Run.Carries (Run.Follows (Alongside earlier exclusion)) where
  pure := fun _ _ _ near => ⟨rfl, near⟩
  tell := fun event debug => alongside_tell (by cases event <;> first | rfl | cases debug)
  bind := Run.Follows.bind

theorem alongside_count (operations : List String) :
    Run.Follows (Alongside earlier exclusion) Unit (Run.count operations)
      (Run.count operations) := by
  intro late alone near
  exact ⟨rfl, near.asked, near.events, near.metrics.record operations, near.patterns⟩

/-- A question gets the same answer, as the same was asked before. -/
theorem alongside_ask (condition : Predicate) (name : String) :
    Run.Follows (Alongside earlier exclusion) Bool (Run.ask condition name)
      (Run.ask condition name) := by
  intro late alone near
  rw [Run.ask_after, Run.ask_after, near.asked]
  cases condition.respond alone.asked name with
  | answers excluded => exact ⟨rfl, rfl, near.events, near.metrics, near.patterns⟩
  | interrupts interruption => exact ⟨rfl, rfl, near.events, near.metrics, near.patterns⟩
  | fails reason =>
    refine ⟨rfl, rfl, ?_, near.metrics, near.patterns⟩
    simp [silences, near.events]

/-- The warning about the pattern of a step is the same, unless the pattern was kept before. -/
theorem warnings_eq {text : String} {late alone : Trace}
    (near : Alongside earlier (.pattern text) late alone) :
    (Run.warning? late text).toList =
      (Run.warning? alone text).toList.filter (!earlier.silences ·) := by
  have kept := near.patterns text rfl
  simp only [Run.warning?_eq, List.contains_iff_mem, kept]
  by_cases before : text ∈ earlier.patterns.patterns
  · by_cases already : text ∈ alone.patterns.patterns
    · simp [before, already]
    · simp only [before, already, true_or, ↓reduceIte, Option.toList_none]
      split <;> simp [silences, before]
  · by_cases already : text ∈ alone.patterns.patterns
    · simp [already]
    · simp only [before, already, or_self, ↓reduceIte]
      split <;> simp [silences, before]

/-- The pattern of the step becomes the same whether it was kept or not. -/
theorem alongside_compiled (text : String) :
    Run.Follows (Alongside earlier (.pattern text)) _ (Run.compiled text) (Run.compiled text) := by
  intro late alone near
  rcases Pattern.prepared_or_excessive text with ⟨ready, becomes⟩ | ⟨excess, refused⟩
  · rw [Run.compiled_after becomes, Run.compiled_after becomes]
    refine ⟨rfl, near.asked, ?_, near.metrics, ?_⟩
    · rw [warnings_eq near, List.filter_append, near.events]
    · rintro _ ⟨⟩
      simp [PatternCache.mem_patterns_use]
  · rw [Run.compiled_after_of_excessive refused, Run.compiled_after_of_excessive refused]
    exact ⟨rfl, near⟩

theorem alongside_excludes (name : String) :
    Run.Follows (Alongside earlier exclusion) Bool (exclusion.excludes name)
      (exclusion.excludes name) :=
  (alongside_carries earlier exclusion).excludes exclusion name
    (fun text same => same ▸ alongside_compiled text) fun condition _ => alongside_ask condition name

theorem alongside_of_asksOnly {α : Type} {action : Run α} (asks : action.AsksOnly exclusion) :
    Run.Follows (Alongside earlier exclusion) α action action :=
  asks _ (alongside_carries earlier exclusion) alongside_excludes fun _ _ near => ⟨rfl, near⟩

/-- The report of a check is the same. -/
theorem alongside_check (rule : DepthRule) (document : Document) :
    Run.Follows (Alongside earlier rule.exclusion) _ (rule.check document)
      (rule.check document) := by
  have violations := document.violations_asksOnly rule.limit rule.exclusion
  rw [rule.check_eq document]
  refine Run.Follows.bind (alongside_of_asksOnly violations) fun found => ?_
  refine Run.Follows.bind (alongside_count _) fun _ => ?_
  have carries := alongside_carries earlier rule.exclusion
  cases found.isEmpty with
  | true => exact carries.pure _
  | false => exact carries.bind (alongside_tell rfl) fun _ => carries.pure _

end Trace

namespace Session

/-- Whatever a step does once all is ready, it does the same next to itself alone. -/
theorem Step.exists_alongside {step : Step} {action : Run Answer} (ready : step.ready = .ok action)
    (earlier : Trace) :
    ∃ exclusion, Run.Follows (earlier.Alongside exclusion) _ action action := by
  obtain ⟨operations, rfl⟩ | ⟨_, refusal, refused⟩ |
    ⟨_, rule, document, convert, _, checks⟩ | ⟨_, _, exclusion, other, idle, asks⟩ :=
    step.ready_cases
  · cases ready
    have carries := Trace.alongside_carries earlier .nothing
    exact ⟨.nothing, carries.bind (Trace.alongside_count operations) fun _ => carries.pure _⟩
  · cases refused.symm.trans ready
  · cases checks.symm.trans ready
    have carries := Trace.alongside_carries earlier rule.exclusion
    rw [map_eq_pure_bind]
    exact ⟨rule.exclusion,
      carries.bind (Trace.alongside_check rule document) fun _ => carries.pure _⟩
  · cases idle.symm.trans ready
    exact ⟨exclusion, Trace.alongside_of_asksOnly asks⟩

/-- What is handed on holds no questions and no events. -/
theorem kept_handedOn (steps : List Step) (trace : Trace) (fresh : trace.kept = trace) :
    (handedOn steps trace).kept = handedOn steps trace := by
  induction steps generalizing trace with
  | nil => exact fresh
  | cons step rest ih => exact ih (step.handsOn trace) rfl

/-- **Steps share nothing that matters.** After any session a step comes to the same and puts the
same questions to its predicate as it does alone. It tells the same, in the same order, but for the
warnings about patterns that are kept. The counters before it and those of the step alone add up to
the counters after it. -/
theorem steps_share_nothing (before : List Step) (step : Step) :
    let earlier := handedOn before .empty
    let late := step.reply earlier
    let alone := step.reply .empty
    late.outcome = alone.outcome ∧
    late.questions = alone.questions ∧
    late.log = alone.log.filter (!earlier.silences ·) ∧
    Metrics.Sum earlier.metrics (step.handsOn .empty).metrics (step.handsOn earlier).metrics := by
  intro earlier late alone
  have fresh : earlier.kept = earlier := kept_handedOn before .empty rfl
  have together : ∃ exclusion, (step.perform earlier).1 = (step.perform .empty).1 ∧
      earlier.Alongside exclusion (step.perform earlier).2 (step.perform .empty).2 := by
    cases ready : step.ready with
    | error refusal =>
      simp only [Step.perform, ready]
      exact ⟨.nothing, trivial, Trace.alongside_start fresh .nothing⟩
    | ok action =>
      obtain ⟨exclusion, follows⟩ := Step.exists_alongside ready earlier
      obtain ⟨same, near⟩ := follows _ _ (Trace.alongside_start fresh exclusion)
      simp only [Step.perform, ready]
      exact ⟨exclusion, congrArg (Except.mapError Refusal.failure) same, near⟩
  obtain ⟨exclusion, same, near⟩ := together
  refine ⟨same, congrArg List.reverse near.asked, ?_, near.metrics⟩
  exact (congrArg List.reverse near.events).trans List.filter_reverse.symm

end Session

end QueryDepth
