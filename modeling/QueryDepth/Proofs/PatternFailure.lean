import QueryDepth.Proofs.DecidedWalk
import QueryDepth.Proofs.WalkTermination

/-! What becomes of a check whose pattern cannot be used. A pattern with a mistake matches nothing,
so the check comes to what it comes to without a pattern. A pattern beyond the bounds is refused
when it is needed, and it puts an end to the check at the first name that is asked about.

The bounds are on what a pattern says and not on how deeply its groups are nested. A reader that
calls itself for each group runs out of stack after some hundreds of them, which is not modelled:
here such a pattern is read as any other. -/
namespace QueryDepth.PatternFailure

open RecursiveVisit WalkTermination

variable {text : String} {excess : Pattern.Excess}

/-- Every name but those of introspection needs the pattern. -/
theorem excludes_of_excessive (refused : Pattern.compile text = .error (.excessive excess))
    (name : String) (trace : Trace) :
    ((Exclusion.pattern text).excludes name).after trace =
      (if isIntrospection name then .ok true else .error (.patternExcess excess), trace) := by
  cases introspective : isIntrospection name with
  | true => simp [Exclusion.excludes, introspective]
  | false =>
    simp only [Exclusion.excludes, introspective, Bool.false_eq_true, ↓reduceIte, Run.after_bind,
      Run.compiled_after_of_excessive refused]

/-- The predicate that says no to every name. -/
def never : Predicate := ⟨fun _ _ => .answers false⟩

theorem decides_never : Exclusion.Decides (.predicate never) isIntrospection := by
  have constant : ∀ asked name, never.respond asked name = .answers false := fun _ _ => rfl
  simpa using Exclusion.decides_predicate fun asked name => .inl (constant asked name)

/-- The names that a check asks about, in order, where nothing is left out but introspection. -/
def namesAsked (document : Document) (limit : Int) : List String :=
  ((document.violations limit (.predicate never)).after .empty).2.questions

/-- The first computation comes to the same as the second one, unless that asks about a name. Then
it breaks off. -/
def BreaksOff (excess : Pattern.Excess) (α : Type) (first second : Run α) : Prop :=
  ∃ outcome asked, second.ComesTo outcome ∧
    (∀ trace, (second.after trace).2.asked = asked ++ trace.asked) ∧
    first.ComesTo (if asked = [] then outcome else .error (.patternExcess excess))

theorem breaksOff_carries (excess : Pattern.Excess) : Run.Carries (BreaksOff excess) where
  pure := fun value =>
    ⟨.ok value, [], Run.comesTo_pure value, fun _ => rfl, Run.comesTo_pure value⟩
  tell := fun event _ =>
    ⟨.ok (), [], Run.comesTo_tell event, fun _ => rfl, Run.comesTo_tell event⟩
  bind := by
    rintro α β first second next later ⟨outcome, asked, comes, asks, follows⟩ each
    cases outcome with
    | error failure =>
      refine ⟨.error failure, asked, comes.bind_error later, fun trace => ?_, ?_⟩
      · rw [← asks trace, Run.after_bind, ← Prod.eta (second.after trace), comes trace]
      · by_cases silent : asked = []
        · rw [if_pos silent] at follows ⊢
          exact follows.bind_error next
        · rw [if_neg silent] at follows ⊢
          exact follows.bind_error next
    | ok value =>
      obtain ⟨outcome, more, goes, asksMore, ends⟩ := each value
      refine ⟨outcome, more ++ asked, comes.bind goes, fun trace => ?_, ?_⟩
      · rw [Run.after_bind, ← Prod.eta (second.after trace), comes trace]
        simp only [asksMore, asks, List.append_assoc]
      · by_cases silent : asked = []
        · rw [if_pos silent] at follows
          simpa [silent] using follows.bind ends
        · rw [if_neg silent] at follows
          simpa [silent] using follows.bind_error next

/-- Asking about a name that is not of introspection is where a pattern beyond the bounds breaks
off. -/
theorem excludes_breaksOff (refused : Pattern.compile text = .error (.excessive excess))
    (name : String) :
    BreaksOff excess _ ((Exclusion.pattern text).excludes name)
      ((Exclusion.predicate never).excludes name) := by
  have fails := excludes_of_excessive refused name
  cases introspective : isIntrospection name with
  | true =>
    refine ⟨.ok true, [], ?_, fun trace => ?_, fun trace => ?_⟩
    · simpa [introspective] using decides_never name
    · simp [Exclusion.excludes, introspective]
    · simp [fails, introspective]
  | false =>
    refine ⟨.ok false, [name], ?_, fun trace => ?_, fun trace => ?_⟩
    · simpa [introspective] using decides_never name
    · simp [Exclusion.excludes, introspective, Run.ask_after, never]
    · simp [fails, introspective]

/-- A check with a pattern beyond the bounds is the one without a pattern if it asks about no name,
and breaks off otherwise. -/
theorem violations_of_excessive (refused : Pattern.compile text = .error (.excessive excess))
    (document : Document) (limit : Int) :
    ∃ outcome, (document.violations limit .nothing).ComesTo outcome ∧
      (document.violations limit (.pattern text)).ComesTo
        (if namesAsked document limit = [] then outcome else .error (.patternExcess excess)) := by
  obtain ⟨outcome, alike, comes⟩ :=
    exists_outcome_of_decides Exclusion.decides_nothing decides_never document limit
  have missing : BreaksOff excess Bool (throw .missingSelections) (throw .missingSelections) :=
    ⟨.error .missingSelections, [], fun _ => rfl, fun _ => rfl, fun _ => rfl⟩
  have related : BreaksOff excess _ (document.violations limit (.pattern text))
      (document.violations limit (.predicate never)) :=
    violations_related (breaksOff_carries excess) (excludes_breaksOff refused)
      (fun _ _ _ => .inr missing) limit
  obtain ⟨outcome', asked, comes', asks, breaks⟩ := related
  obtain rfl : outcome = outcome' := (comes .empty).symm.trans (comes' .empty)
  have names : namesAsked document limit = asked.reverse := by
    simp [namesAsked, Trace.questions, asks, Trace.empty]
  exact ⟨outcome, alike, by simpa [names] using breaks⟩

theorem decides_of_mistaken {mistake : Pattern.Mistake}
    (refused : Pattern.compile text = .error (.mistaken mistake)) :
    Exclusion.Decides (.pattern text) isIntrospection := by
  have becomes : Pattern.prepared? text = some none := by simp [Pattern.prepared?, refused]
  simpa using Exclusion.decides_pattern becomes

/-- Unless a pattern goes beyond the bounds, it has an answer for every name. -/
theorem exists_decides (within : ∀ excess, Pattern.compile text ≠ .error (.excessive excess)) :
    ∃ excluded, Exclusion.Decides (.pattern text) excluded := by
  rcases Pattern.prepared_or_excessive text with ⟨ready, becomes⟩ | ⟨excess, refused⟩
  · exact ⟨_, Exclusion.decides_pattern becomes⟩
  · exact absurd refused (within excess)

/-- **A pattern breaks a check if and only if it goes beyond the bounds.** Within the bounds it has
an answer for every name, whatever is kept of earlier patterns. With a mistake it leaves out no
field, and every check comes to what it comes to without a pattern, even to the same failure where a
selection set is missing. Beyond the bounds it fails for every name but those of introspection, and
it breaks every check that asks about a name. -/
theorem answers_iff_within_bounds (text : String) :
    ((∀ name, ∃ excluded, ((Exclusion.pattern text).excludes name).ComesTo (.ok excluded)) ↔
      ∀ excess, Pattern.compile text ≠ .error (.excessive excess)) ∧
    (∀ mistake, Pattern.compile text = .error (.mistaken mistake) →
      (∀ name, ((Exclusion.pattern text).excludes name).ComesTo (.ok (isIntrospection name))) ∧
      ∀ (document : Document) (limit : Int), ∃ outcome,
        (document.violations limit .nothing).ComesTo outcome ∧
        (document.violations limit (.pattern text)).ComesTo outcome) ∧
    (∀ excess, Pattern.compile text = .error (.excessive excess) →
      (∀ name trace, ((Exclusion.pattern text).excludes name).after trace =
        (if isIntrospection name then .ok true else .error (.patternExcess excess), trace)) ∧
      ∀ (document : Document) (limit : Int), ∃ outcome,
        (document.violations limit .nothing).ComesTo outcome ∧
        (document.violations limit (.pattern text)).ComesTo
          (if namesAsked document limit = [] then outcome else .error (.patternExcess excess))) := by
  refine ⟨⟨fun answers excess refused => ?_, fun within name => ?_⟩, ?_, ?_⟩
  · obtain ⟨excluded, comes⟩ := answers "a"
    have came := comes .empty
    rw [excludes_of_excessive refused, if_neg (by decide)] at came
    cases came
  · obtain ⟨excluded, decides⟩ := exists_decides within
    exact ⟨_, decides name⟩
  · intro mistake refused
    exact ⟨decides_of_mistaken refused,
      exists_outcome_of_decides Exclusion.decides_nothing (decides_of_mistaken refused)⟩
  · intro excess refused
    exact ⟨excludes_of_excessive refused, violations_of_excessive refused⟩

def single : Document where
  definitions := [⟨.operation .query none, some [⟨.field none "a", none, none⟩], none⟩]

/-- One repetition too many is enough to break the check of a document that is in order. -/
theorem excessive_repetition_breaks_check :
    ((Exclusion.pattern "a\x7b4294967295\x7d").excludes "a").after .empty =
      (.error (.patternExcess .tooManyRepetitions), .empty) ∧
    (single.violations 5 (.pattern "a\x7b4294967295\x7d")).ComesTo
      (.error (.patternExcess .tooManyRepetitions)) ∧
    (single.violations 5 .nothing).ComesTo (.ok []) := by
  have refused : Pattern.compile "a\x7b4294967295\x7d" =
      .error (.excessive .tooManyRepetitions) := by decide +kernel
  -- After two turns the field has been asked about, and the third one finds the stack empty.
  have accepted : (single.violations 5 .nothing).after .empty = (.ok [], .empty) :=
    violations_eq_of_within 3 rfl
  have searched : (single.violations 5 (.predicate never)).after .empty =
      (.ok [], { Trace.empty with asked := ["a"] }) :=
    violations_eq_of_within 3 rfl
  have asked : namesAsked single 5 = ["a"] := by
    rw [namesAsked, searched]
    rfl
  obtain ⟨outcome, comes, breaks⟩ := violations_of_excessive refused single 5
  obtain rfl : outcome = .ok [] := (comes .empty).symm.trans (congrArg Prod.fst accepted)
  exact ⟨excludes_of_excessive refused "a" .empty, by simpa [asked] using breaks, comes⟩

end QueryDepth.PatternFailure
