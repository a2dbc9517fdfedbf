import QueryDepth.Proofs.SessionSteps

/-! What the counters say about a session. They count the checks that came to an end, those among
them that found violations, and the violations under the label of their operation. Nothing else
moves them: neither a step that fails, wherever it does, nor the search for violations itself. -/
namespace QueryDepth

namespace Run

/-- A computation that counts nothing. -/
def CountsNothing {α : Type} (action : Run α) : Prop :=
  ∀ trace, (action.after trace).2.metrics = trace.metrics

theorem countsNothing_composes : Composes fun _ action => action.CountsNothing where
  pure := fun _ _ => rfl
  tell := fun _ _ => rfl
  bind := by
    intro α β action next first second trace
    rw [after_bind, ← first trace]
    rcases action.after trace with ⟨_ | value, left⟩
    · rfl
    · exact second value left

theorem compiled_countsNothing (text : String) : (compiled text).CountsNothing := by
  intro trace
  rcases Pattern.prepared_or_excessive text with ⟨ready, becomes⟩ | ⟨excess, refused⟩
  · rw [compiled_after becomes]
  · rw [compiled_after_of_excessive refused]

theorem ask_countsNothing (condition : Predicate) (name : String) :
    (ask condition name).CountsNothing := by
  intro trace
  rw [ask_after]
  cases condition.respond trace.asked name <;> rfl

end Run

theorem Exclusion.excludes_countsNothing (exclusion : Exclusion) (name : String) :
    (exclusion.excludes name).CountsNothing :=
  (Run.countsNothing_composes.carries.excludes exclusion name
    (fun text _ => ⟨rfl, Run.compiled_countsNothing text⟩)
    (fun condition _ => ⟨rfl, Run.ask_countsNothing condition name⟩)).2

theorem Run.AsksOnly.countsNothing {exclusion : Exclusion} {α : Type} {action : Run α}
    (asks : action.AsksOnly exclusion) : action.CountsNothing :=
  (asks _ Run.countsNothing_composes.carries
    (fun name => ⟨rfl, exclusion.excludes_countsNothing name⟩) ⟨rfl, fun _ => rfl⟩).2

/-- Finding the violations of a document counts nothing, whether it comes to an end or not. -/
theorem Document.violations_countsNothing (document : Document) (limit : Int)
    (exclusion : Exclusion) : (document.violations limit exclusion).CountsNothing :=
  (document.violations_asksOnly limit exclusion).countsNothing

namespace Session

/-- The operations of the violations of the check that a step completes, if it completes one. -/
def Step.completed? (step : Step) (kept : Trace) : Option (List String) :=
  match step with
  | .record operations => some operations
  | step => do
    let (made, document) ← step.wanted?
    let found ← ((document.violations made.limit made.exclusion).after kept).1.toOption
    return found.map Violation.operation

theorem Step.completed?_of_not_wanted {step : Step} (own : ∀ operations, step ≠ .record operations)
    (none : step.wanted? = none) (kept : Trace) : step.completed? kept = .none := by
  cases step <;> first | exact absurd rfl (own _) | simp [completed?, none]

/-- A step that asks for a check completes it if the search for violations comes to an end. -/
theorem Step.completed?_of_wanted {step : Step} {rule : DepthRule} {document : Document}
    (wanted : step.wanted? = some (rule, document)) (kept : Trace) :
    step.completed? kept =
      ((document.violations rule.limit rule.exclusion).after kept).1.toOption.map
        (List.map Violation.operation) := by
  cases step with
  | record => cases wanted
  | _ =>
    simp only [completed?, wanted, Option.map_eq_bind]
    rfl

/-- A step counts the check that it completes. A check is completed just if the step comes to an
end. -/
theorem Step.perform_counts (step : Step) (kept : Trace) :
    (step.perform kept).2.metrics =
        ((step.completed? kept).map kept.metrics.record).getD kept.metrics ∧
      (step.completed? kept).isSome = (step.isCheck && (step.perform kept).1.isOk) := by
  obtain ⟨operations, rfl⟩ | ⟨none, refusal, refused⟩ |
    ⟨check, rule, document, convert, wanted, ready⟩ | ⟨other, none, exclusion, action, ready, asks⟩ :=
    step.ready_cases
  · exact ⟨rfl, rfl⟩
  · have own : ∀ operations, step ≠ .record operations := by
      rintro operations rfl
      cases refused
    have idle := Step.completed?_of_not_wanted own none kept
    simp [perform, refused, idle, Except.isOk, Except.toBool]
  · have completes := Step.completed?_of_wanted wanted kept
    have left := document.violations_countsNothing rule.limit rule.exclusion kept
    simp only [perform, ready, Run.after_map, DepthRule.check_after, completes, check]
    generalize (document.violations rule.limit rule.exclusion).after kept = came at left ⊢
    rcases came with ⟨failure | found, later⟩
    · exact ⟨left, rfl⟩
    · exact ⟨congrArg (Metrics.record · _) left, rfl⟩
  · have own : ∀ operations, step ≠ .record operations := by
      rintro operations rfl
      cases other
    simp [perform, ready, Step.completed?_of_not_wanted own none kept, other,
      asks.countsNothing kept]

/-- A step that is no check changes no counter, and neither does one that fails. -/
theorem Step.metrics_of_idle {step : Step} {kept : Trace}
    (idle : step.isCheck = false ∨ (step.perform kept).1.isOk = false) :
    (step.perform kept).2.metrics = kept.metrics := by
  obtain ⟨counts, completes⟩ := step.perform_counts kept
  have none : step.completed? kept = none := by
    rw [← Option.not_isSome_iff_eq_none, completes]
    rcases idle with other | fails <;> simp [*]
  rw [counts, none]
  rfl

/-- The checks that are completed in a session, each with the operations of its violations. -/
def checks : List Step → Trace → List (List String)
  | [], _ => []
  | step :: rest, kept => (step.completed? kept).toList ++ checks rest (step.handsOn kept)

/-- The counters after a session are what its checks make of the counters before. -/
theorem metrics_handedOn (steps : List Step) (kept : Trace) :
    (handedOn steps kept).metrics = (checks steps kept).foldl Metrics.record kept.metrics := by
  induction steps generalizing kept with
  | nil => rfl
  | cons step rest ih =>
    have counts : (step.handsOn kept).metrics = _ := (step.perform_counts kept).1
    rw [checks, List.foldl_append, handedOn, List.foldl_cons]
    refine (ih (step.handsOn kept)).trans ?_
    rw [counts]
    cases step.completed? kept <;> rfl

theorem foldl_record (checks : List (List String)) (metrics : Metrics) :
    checks.foldl Metrics.record metrics =
      { passed := metrics.passed + checks.countP List.isEmpty
        rejected := metrics.rejected + checks.countP (!List.isEmpty ·)
        violations := (checks.flatten.map Metrics.label).foldl Metrics.increment metrics.violations } := by
  induction checks generalizing metrics with
  | nil => simp
  | cons operations rest ih =>
    rw [List.foldl_cons, ih]
    cases operations <;> simp [Metrics.record, Nat.add_assoc, Nat.add_comm 1]

theorem metrics_of_session (steps : List Step) :
    (handedOn steps .empty).metrics =
      { passed := (checks steps .empty).countP List.isEmpty
        rejected := (checks steps .empty).countP (!List.isEmpty ·)
        violations :=
          ((checks steps .empty).flatten.map Metrics.label).foldl Metrics.increment [] } := by
  rw [metrics_handedOn, foldl_record]
  simp [Trace.empty]

/-- Whether a violation of an operation belongs under a label. Operations without a name belong
under the label of anonymous ones. -/
def belongs (label operation : String) : Bool :=
  if operation = "" then label == "anonymous" else label == operation

theorem count_labels (operations : List String) (label : String) :
    (operations.map Metrics.label).count label = operations.countP (belongs label) := by
  rw [List.count, List.countP_map]
  refine List.countP_congr fun operation _ => ?_
  unfold Metrics.label belongs
  by_cases anonymous : operation = "" <;>
    simpa [anonymous] using eq_comm

/-- A check with more violations than a report has room for counts them all. -/
theorem check_of_many {rule : DepthRule} {document : Document} {kept left : Trace}
    {found : List Violation}
    (came : (document.violations rule.limit rule.exclusion).after kept = (.ok found, left))
    (many : Report.room < found.length) :
    ((rule.check document).after kept).1 =
        .ok ((found.take Report.room).map .violation ++ [.tooMany]) ∧
      ((rule.check document).after kept).2.metrics =
        kept.metrics.record (found.map Violation.operation) := by
  have same := document.violations_countsNothing rule.limit rule.exclusion kept
  rw [came] at same
  rw [DepthRule.check_after, came]
  exact ⟨by simp only [Report.ofViolations, if_pos many], congrArg (Metrics.record · _) same⟩

/-- **The counters account for every check.** After any session, each check that was completed has
either passed or was rejected, and it was rejected if it had violations. A label is listed if
violations belong under it, once and with their number. A check is completed just if its step comes
to an end. Steps that fail and steps that are no checks change no counter, and neither does the
search for violations. Violations are counted beyond those there is room to report. -/
theorem counters_account_for_checks (steps : List Step) :
    let completed := checks steps .empty
    let metrics := (handedOn steps .empty).metrics
    metrics.passed + metrics.rejected = completed.length ∧
    metrics.rejected = completed.countP (!List.isEmpty ·) ∧
    (∀ label count, (label, count) ∈ metrics.listing ↔
      count = completed.flatten.countP (belongs label) ∧ 0 < count) ∧
    (metrics.listing.map Prod.fst).Nodup ∧
    (∀ (step : Step) (kept : Trace),
      (step.completed? kept).isSome = (step.isCheck && (step.perform kept).1.isOk)) ∧
    (∀ (step : Step) (kept : Trace), step.isCheck = false ∨ (step.perform kept).1.isOk = false →
      (step.perform kept).2.metrics = kept.metrics) ∧
    (∀ (document : Document) limit exclusion kept,
      ((document.violations limit exclusion).after kept).2.metrics = kept.metrics) ∧
    (∀ (rule : DepthRule) (document : Document) (kept left : Trace) (found : List Violation),
      (document.violations rule.limit rule.exclusion).after kept = (.ok found, left) →
      100 < found.length →
      ((rule.check document).after kept).1 =
          .ok ((found.take 100).map .violation ++ [.tooMany]) ∧
        ((rule.check document).after kept).2.metrics =
          kept.metrics.record (found.map Violation.operation)) := by
  intro completed metrics
  have counted : metrics = _ := metrics_of_session steps
  refine ⟨?_, ?_, fun label count => ?_, ?_, fun step kept => (step.perform_counts kept).2,
    fun step kept => step.metrics_of_idle, Document.violations_countsNothing, ?_⟩
  · have split := completed.length_eq_countP_add_countP List.isEmpty
    simp only [Bool.not_eq_true, Bool.decide_eq_false] at split
    rw [counted]
    exact split.symm
  · rw [counted]
  · rw [Metrics.mem_listing, counted, ← count_labels]
    exact Metrics.mem_foldl_increment
  · rw [counted]
    exact Metrics.nodup_labels_listing (Metrics.nodup_labels_foldl_increment _ .nil)
  · intro rule document kept left found came many
    exact check_of_many came many

end Session

end QueryDepth
