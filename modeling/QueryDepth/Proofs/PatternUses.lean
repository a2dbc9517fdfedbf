import QueryDepth.Proofs.Dialogues
import QueryDepth.Proofs.Filing
import QueryDepth.Proofs.SessionIsolation
import QueryDepth.Proofs.WalkTermination

/-! Which patterns are kept, and when a pattern with a mistake is reported. The cache holds the
patterns used last, each once, and a warning goes with the use of a pattern that is not among them.
So as long as there are no more patterns than can be kept, each mistake is reported once, wherever
its pattern is used. -/
namespace QueryDepth

/-! ## The patterns used last -/

namespace PatternCache

/-- What is kept of some patterns, the one used last in front, after another use. -/
def touched (patterns : List String) (text : String) : List String :=
  (text :: patterns.filter (!· == text)).take capacity

/-- The patterns that were used last, the latest one first: each of them once, and no more than are
kept. -/
def recent (uses : List String) : List String := uses.reverse.eraseDups.take capacity

theorem patterns_use (cache : PatternCache) {text : String} {ready : Option Pattern.Compiled}
    (becomes : Pattern.prepared? text = some ready) :
    (cache.use text ready becomes).patterns = touched cache.patterns text := by
  simp only [patterns, use, touched, List.map_take, List.map_cons, List.filter_map]
  rfl

/-- To drop one pattern before or after the last ones give way makes no difference to what comes
next. -/
theorem take_filter_take {patterns : List String} (distinct : patterns.Nodup) (text : String)
    (count : Nat) :
    ((patterns.take (count + 1)).filter (!· == text)).take count =
      (patterns.filter (!· == text)).take count := by
  induction patterns generalizing count with
  | nil => rfl
  | cons first rest ih =>
    obtain ⟨fresh, distinct⟩ := List.nodup_cons.mp distinct
    cases count with
    | zero => rfl
    | succ count =>
      by_cases same : first = text
      · subst same
        have absent : ∀ others ⊆ rest, others.filter (!· == first) = others := by
          intro others within
          refine List.filter_eq_self.mpr fun other member => ?_
          have apart : other ≠ first := fun same => fresh (same ▸ within member)
          simpa using apart
        rw [List.take_succ_cons, List.filter_cons_of_neg (by simp), List.filter_cons_of_neg (by simp),
          absent rest (List.Subset.refl rest), absent _ (List.take_subset (count + 1) rest),
          List.take_take, Nat.min_self]
      · have kept := ih distinct count
        simp [same, kept]

/-- One use after the other keeps the patterns that were used last. -/
theorem recent_concat (uses : List String) (text : String) :
    recent (uses ++ [text]) = touched (recent uses) text := by
  have distinct := nodup_eraseDups uses.reverse
  rw [recent, List.reverse_append, List.reverse_singleton, List.singleton_append,
    List.eraseDups_cons, eraseDups_filter, touched, recent, capacity, List.take_succ_cons,
    List.take_succ_cons, take_filter_take distinct]

/-- The cache after some uses, from nothing. -/
theorem foldl_touched (uses : List String) : uses.foldl touched [] = recent uses := by
  induction uses using List.reverseRecOn with
  | nil => rfl
  | append_singleton uses text ih => rw [List.foldl_append, ih, recent_concat]; rfl

/-- As long as there are no more patterns than can be kept, all of them are. -/
theorem mem_recent {uses : List String} (few : uses.eraseDups.length ≤ capacity) {text : String} :
    text ∈ recent uses ↔ text ∈ uses := by
  have same : uses.reverse.eraseDups.Perm uses.eraseDups :=
    (List.perm_ext_iff_of_nodup (nodup_eraseDups _) (nodup_eraseDups _)).mpr (by simp)
  rw [recent, List.take_of_length_le (same.length_eq ▸ few), List.mem_eraseDups, List.mem_reverse]

end PatternCache

/-! ## Uses and warnings -/

/-- The warning that a pattern with a mistake deserves. -/
def Pattern.warning? (text : String) : Option Event :=
  match Pattern.compile text with
  | .error (.mistaken mistake) => some (.invalidPattern text mistake)
  | _ => none

/-- Only the pattern itself deserves it. -/
theorem Pattern.warning?_eq_some {text : String} {event : Event} :
    Pattern.warning? text = some event ↔
      ∃ mistake, Pattern.compile text = .error (.mistaken mistake) ∧
        event = .invalidPattern text mistake := by
  unfold Pattern.warning?
  cases Pattern.compile text with
  | ok ready => simp
  | error refusal => cases refusal <;> simp [eq_comm]

/-- Whether an event is a warning about a pattern. -/
def Event.isPatternWarning : Event → Bool
  | invalidPattern .. => true
  | unknownFragment .. | fragmentCycle .. | predicateFailed .. | rejected .. | negativeLimit _
  | cannotRead .. | cannotParse .. => false

/-- The warnings that go with some uses, given the patterns that are kept before. -/
def reported (patterns : List String) : List String → List Event
  | [] => []
  | text :: rest =>
    (if text ∈ patterns then none else Pattern.warning? text).toList ++
      reported (PatternCache.touched patterns text) rest

theorem reported_append (patterns first rest : List String) :
    reported patterns (first ++ rest) =
      reported patterns first ++ reported (first.foldl PatternCache.touched patterns) rest := by
  induction first generalizing patterns with
  | nil => rfl
  | cons text first ih =>
    rw [List.cons_append, reported, reported, ih, List.append_assoc, List.foldl_cons]

/-- As long as there are no more patterns than can be kept, each mistake is reported when its
pattern is used for the first time. -/
theorem reported_of_few {uses : List String}
    (few : uses.eraseDups.length ≤ PatternCache.capacity) :
    reported [] uses = uses.eraseDups.filterMap Pattern.warning? := by
  induction uses using List.reverseRecOn with
  | nil => rfl
  | append_singleton uses text ih =>
    have less : uses.eraseDups.length ≤ PatternCache.capacity := by
      rw [eraseDups_concat] at few
      split at few
      · exact few
      · rw [List.length_append] at few
        omega
    rw [reported_append, PatternCache.foldl_touched, ih less, eraseDups_concat]
    by_cases before : text ∈ uses
    · simp [reported, PatternCache.mem_recent less, before]
    · cases warns : Pattern.warning? text <;>
        simp [reported, PatternCache.mem_recent less, before, warns]

/-- What some uses of patterns leave behind: the patterns that are kept, and the warnings. -/
structure Trace.Uses (uses : List String) (before after : Trace) : Prop where
  patterns : after.patterns.patterns = uses.foldl PatternCache.touched before.patterns.patterns
  warnings : after.log.filter Event.isPatternWarning =
    before.log.filter Event.isPatternWarning ++ reported before.patterns.patterns uses

namespace Trace.Uses

variable {first second : List String} {before middle after : Trace}

theorem none (trace : Trace) : Uses [] trace trace := ⟨rfl, (List.append_nil _).symm⟩

theorem append (begins : Uses first before middle) (goesOn : Uses second middle after) :
    Uses (first ++ second) before after where
  patterns := by rw [goesOn.patterns, begins.patterns, List.foldl_append]
  warnings := by
    rw [goesOn.warnings, begins.warnings, begins.patterns, reported_append, List.append_assoc]

/-- What happens besides the use of patterns. -/
theorem of_silent {trace after : Trace} (told : List Event) (same : after.patterns = trace.patterns)
    (tells : after.events = told ++ trace.events)
    (silent : ∀ event ∈ told, event.isPatternWarning = false) : Uses [] trace after where
  patterns := congrArg PatternCache.patterns same
  warnings := by
    have unheard : told.filter Event.isPatternWarning = [] :=
      List.filter_eq_nil_iff.mpr fun event member => by simp [silent event member]
    rw [log, tells, List.filter_reverse, List.filter_append, unheard, List.nil_append,
      ← List.filter_reverse, reported, List.append_nil, log]

end Trace.Uses

/-- What is used by a computation and by what follows its value is used one after the other. -/
theorem Trace.Uses.bind {α β : Type} {action : Run α} {next : α → Run β} {first second : List String}
    {trace : Trace} {value : α} (begins : Uses first trace (action.after trace).2)
    (came : (action.after trace).1 = .ok value)
    (goesOn : ∀ middle, Uses second middle ((next value).after middle).2) :
    Uses (first ++ second) trace ((action >>= next).after trace).2 := by
  rw [Run.after_bind]
  generalize action.after trace = left at begins came ⊢
  obtain ⟨_, middle⟩ := left
  obtain rfl := came
  exact begins.append (goesOn middle)

theorem Trace.uses_tell {event : Event} (least : event.level = .debug) (trace : Trace) :
    Trace.Uses [] trace ((Run.tell event).after trace).2 := by
  refine .of_silent [event] rfl rfl fun told member => ?_
  obtain rfl := List.mem_singleton.mp member
  cases told <;> first | rfl | cases least

/-- Deciding about a field with a pattern is one use of it. -/
theorem Exclusion.excludes_pattern_after {text name : String} {ready : Option Pattern.Compiled}
    (ordinary : isIntrospection name = false) (becomes : Pattern.prepared? text = some ready)
    (trace : Trace) :
    ((Exclusion.pattern text).excludes name).after trace =
      (.ok (ready.any (·.search name)), { trace with
        patterns := trace.patterns.use text ready becomes
        events :=
          (if text ∈ trace.patterns.patterns then none else Pattern.warning? text).toList ++
            trace.events }) := by
  have warns : Run.warning? trace text =
      if text ∈ trace.patterns.patterns then none else Pattern.warning? text := by
    simp only [Run.warning?_eq, List.contains_iff_mem]
    rfl
  simp only [Exclusion.excludes, ordinary, Bool.false_eq_true, if_false, Run.after_bind,
    Run.compiled_after becomes, Run.after_pure, warns]

theorem Exclusion.excludes_uses {text name : String} {ready : Option Pattern.Compiled}
    (ordinary : isIntrospection name = false) (becomes : Pattern.prepared? text = some ready)
    (trace : Trace) :
    Trace.Uses [text] trace (((Exclusion.pattern text).excludes name).after trace).2 := by
  rw [excludes_pattern_after ordinary becomes]
  refine ⟨PatternCache.patterns_use _ becomes, ?_⟩
  simp only [Trace.log, List.reverse_append, List.filter_append, reported, List.append_nil]
  congr 1
  split
  · rfl
  · cases warns : Pattern.warning? text with
    | none => rfl
    | some event =>
      obtain ⟨mistake, _, rfl⟩ := Pattern.warning?_eq_some.mp warns
      rfl

theorem Exclusion.excludes_uses_none {exclusion : Exclusion}
    (other : ∀ text, exclusion ≠ .pattern text) (name : String) (trace : Trace) :
    Trace.Uses [] trace ((exclusion.excludes name).after trace).2 := by
  cases introspective : isIntrospection name with
  | true => simpa [excludes, introspective] using Trace.Uses.none trace
  | false =>
    cases exclusion with
    | pattern text => exact absurd rfl (other text)
    | exact wanted => simpa [excludes, introspective] using Trace.Uses.none trace
    | nothing => simpa [excludes, introspective] using Trace.Uses.none trace
    | predicate condition =>
      simp only [excludes, introspective, Bool.false_eq_true, if_false, Run.ask_after]
      cases condition.respond trace.asked name with
      | answers excluded => exact .of_silent [] rfl rfl (by simp)
      | interrupts interruption => exact .of_silent [] rfl rfl (by simp)
      | fails reason =>
        refine .of_silent [.predicateFailed name reason] rfl rfl fun event member => ?_
        obtain rfl := List.mem_singleton.mp member
        rfl

/-! ## Uses in dialogues -/

/-- The predicate that answers as a search for a pattern does. -/
def Predicate.searching (text : String) : Predicate where
  respond _ name := .answers (((Pattern.prepared? text).getD none).any (·.search name))

/-- How often a computation uses the pattern of an exclusion: once for each name that it would put
to a predicate with the same answers. -/
def Exclusion.uses {α : Type} (exclusion : Exclusion) (action : Exclusion → Run α) : List String :=
  match exclusion with
  | pattern text =>
    ((action (.predicate (.searching text))).after .empty).2.questions.map fun _ => text
  | exact _ | predicate _ | nothing => []

namespace Dialogue

variable {α : Type}

/-- Names of introspection are answered at once. -/
theorem play_asks_of_introspection {name : String} (introspective : isIntrospection name = true)
    (next : Bool → Dialogue α) (exclusion : Exclusion) :
    (asks name next).play exclusion = (next true).play exclusion := by
  simp [play, Exclusion.excludes, introspective]

/-- A dialogue uses a pattern for the names that it puts to a predicate with the same answers. -/
theorem Calm.exists_names {dialogue : Dialogue α} (calm : dialogue.Calm) (text : String) :
    ∃ names : List String,
      (∀ trace, ((dialogue.play (.predicate (.searching text))).after trace).2.questions =
        trace.questions ++ names) ∧
      ((∀ used ∈ names.map fun _ => text, (Pattern.prepared? used).isSome = true) → ∀ trace,
        Trace.Uses (names.map fun _ => text) trace
          ((dialogue.play (.pattern text)).after trace).2) := by
  induction dialogue with
  | ends outcome =>
    refine ⟨[], fun trace => ?_, fun _ trace => ?_⟩
    · cases outcome <;> exact (List.append_nil _).symm
    · cases outcome <;> exact .none trace
  | tells event rest ih =>
    obtain ⟨names, asks, uses⟩ := ih calm.2
    refine ⟨names, fun trace => ?_, fun ready trace => ?_⟩
    · rw [play, Run.after_bind]
      exact asks _
    · exact (Trace.uses_tell calm.1 trace).bind rfl (uses ready)
  | asks name next ih =>
    cases introspective : isIntrospection name with
    | true =>
      simp only [play_asks_of_introspection introspective]
      exact ih true (calm true)
    | false =>
      let excluded := ((Pattern.prepared? text).getD none).any (·.search name)
      obtain ⟨names, asks, uses⟩ := ih excluded (calm excluded)
      refine ⟨name :: names, fun trace => ?_, fun ready trace => ?_⟩
      · have asked := asks { trace with asked := name :: trace.asked }
        rw [play, Run.after_bind]
        simp only [Exclusion.excludes, introspective, Bool.false_eq_true, if_false, Run.ask_after]
        refine asked.trans ?_
        simp [Trace.questions]
      · obtain ⟨first, rest⟩ := List.forall_mem_cons.mp ready
        obtain ⟨prepared, becomes⟩ := Option.isSome_iff_exists.mp first
        have used := Exclusion.excludes_uses introspective becomes trace
        have came : (((Exclusion.pattern text).excludes name).after trace).1 = .ok excluded := by
          rw [Exclusion.excludes_pattern_after introspective becomes]
          simp only [excluded, becomes, Option.getD_some]
        exact used.bind came (uses rest)

theorem Calm.uses_none {dialogue : Dialogue α} (calm : dialogue.Calm) {exclusion : Exclusion}
    (other : ∀ text, exclusion ≠ .pattern text) (trace : Trace) :
    Trace.Uses [] trace ((dialogue.play exclusion).after trace).2 := by
  induction dialogue generalizing trace with
  | ends outcome => cases outcome <;> exact .none trace
  | tells event rest ih => exact (Trace.uses_tell calm.1 trace).bind rfl (ih calm.2)
  | asks name next ih =>
    have used := exclusion.excludes_uses_none other name trace
    rw [play, Run.after_bind]
    generalize (exclusion.excludes name).after trace = left at used ⊢
    rcases left with ⟨failure | excluded, middle⟩
    · exact used
    · exact used.append (ih excluded (calm excluded) middle)

end Dialogue

/-- A computation that is spoken makes the uses that it is said to make. -/
theorem Run.Spoken.uses {α : Type} {action : Exclusion → Run α} (spoken : Run.Spoken action)
    {exclusion : Exclusion}
    (ready : ∀ text ∈ exclusion.uses action, (Pattern.prepared? text).isSome = true)
    (trace : Trace) :
    Trace.Uses (exclusion.uses action) trace ((action exclusion).after trace).2 := by
  obtain ⟨dialogue, calm, plays⟩ := spoken
  rw [plays]
  cases exclusion with
  | pattern text =>
    obtain ⟨names, asks, uses⟩ := calm.exists_names text
    have named : Exclusion.uses (.pattern text) action = names.map fun _ => text := by
      rw [Exclusion.uses, plays, asks]
      rfl
    rw [named] at ready ⊢
    exact uses ready trace
  | exact wanted => exact calm.uses_none (fun _ other => by cases other) trace
  | predicate condition => exact calm.uses_none (fun _ other => by cases other) trace
  | nothing => exact calm.uses_none (fun _ other => by cases other) trace

/-- A check makes the uses that its search for violations makes. -/
theorem DepthRule.check_uses {rule : DepthRule} {document : Document} {uses : List String}
    {trace : Trace} (searched : Trace.Uses uses trace
      ((document.violations rule.limit rule.exclusion).after trace).2) :
    Trace.Uses uses trace ((rule.check document).after trace).2 := by
  rw [check_after]
  generalize (document.violations rule.limit rule.exclusion).after trace = left at searched ⊢
  rcases left with ⟨failure | found, left⟩
  · exact searched
  · have concluded : Trace.Uses [] left { left with
        metrics := left.metrics.record (found.map Violation.operation)
        events :=
          if found.isEmpty then left.events
          else .rejected (rejectedOperations found) rule.limit :: left.events } := by
      cases found with
      | nil => exact .of_silent [] rfl rfl (by simp)
      | cons first rest =>
        refine .of_silent [.rejected _ _] rfl rfl fun event member => ?_
        obtain rfl := List.mem_singleton.mp member
        rfl
    simpa using searched.append concluded

/-! ## Uses in sessions -/

namespace Session

/-- The uses of patterns that a step makes, in order. -/
def Step.uses : Step → List String
  | .ignore names exclusion => exclusion.uses fun exclusion => names.mapM exclusion.excludes
  | .validate source limit exclusion =>
    match source.document with
    | .ok document => exclusion.uses (document.violations limit)
    | .error _ => []
  | step =>
    match step.wanted? with
    | some (made, document) => made.exclusion.uses (document.violations made.limit)
    | none => []

/-- The events of a session, in the order in which they are told. -/
def logged : List Step → Trace → List Event
  | [], _ => []
  | step :: rest, kept => (step.reply kept).log ++ logged rest (step.handsOn kept)

theorem Step.uses_of_refused {step : Step} {refusal : Refusal} (refused : step.ready = .error refusal)
    (unwanted : step.wanted? = none) : step.uses = [] := by
  cases step with
  | ignore => cases refused
  | validate source limit exclusion =>
    simp only [ready, Source.ready] at refused
    cases read : source.document with
    | error problem => simp only [uses, read]
    | ok document =>
      rw [read] at refused
      cases refused
  | _ => simp only [uses, unwanted]

theorem Step.uses_of_wanted {step : Step} {made : DepthRule} {document : Document}
    (wanted : step.wanted? = some (made, document)) :
    step.uses = made.exclusion.uses (document.violations made.limit) := by
  cases step <;> first | cases wanted | simp only [uses, wanted]

/-- A step makes the uses that it is said to make. -/
theorem Step.perform_uses {step : Step}
    (within : ∀ text ∈ step.uses, (Pattern.prepared? text).isSome = true) (trace : Trace) :
    Trace.Uses step.uses trace (step.perform trace).2 := by
  obtain ⟨operations, rfl⟩ | ⟨unwanted, refusal, refused⟩ |
    ⟨_, made, document, convert, wanted, ready⟩ | ⟨idle, _⟩ := step.ready_cases
  · exact ⟨rfl, (List.append_nil _).symm⟩
  · rw [uses_of_refused refused unwanted]
    simp only [perform, refused]
    exact .none trace
  · rw [uses_of_wanted wanted] at within ⊢
    simp only [perform, ready, Run.after_map]
    exact DepthRule.check_uses ((document.violations_spoken made.limit).uses within trace)
  · cases step with
    | ignore names exclusion =>
      have spoken : Run.Spoken fun exclusion => names.mapM exclusion.excludes :=
        Run.spoken_mapM fun name _ => Run.spoken_excludes name
      simp only [perform, Step.ready, pure, Except.pure, Run.after_map]
      exact spoken.uses within trace
    | validate source limit exclusion =>
      simp only [perform, Step.ready, Source.ready, uses] at within ⊢
      cases read : source.document with
      | error problem => exact .none trace
      | ok document =>
        simp only [read] at within
        change Trace.Uses (exclusion.uses (document.violations limit)) trace
          ((Answer.violations <$> document.violations limit exclusion).after trace).2
        rw [Run.after_map]
        exact (document.violations_spoken limit).uses within trace
    | index source =>
      simp only [perform, Step.ready, Source.ready]
      cases source.document <;> exact .none trace
    | limiter origin source =>
      cases source with
      | some source => cases idle
      | none =>
        simp only [perform, Step.ready]
        cases origin.ready <;> exact .none trace
    | rule => cases idle
    | record => cases idle

theorem uses_of_session {steps : List Step}
    (within : ∀ text ∈ steps.flatMap Step.uses, (Pattern.prepared? text).isSome = true)
    (kept : Trace) (fresh : kept.kept = kept) :
    (handedOn steps kept).patterns.patterns =
        (steps.flatMap Step.uses).foldl PatternCache.touched kept.patterns.patterns ∧
      (logged steps kept).filter Event.isPatternWarning =
        reported kept.patterns.patterns (steps.flatMap Step.uses) := by
  induction steps generalizing kept with
  | nil => exact ⟨rfl, rfl⟩
  | cons step rest ih =>
    rw [List.flatMap_cons] at within ⊢
    obtain ⟨first, later⟩ := List.forall_mem_append.mp within
    have used := Step.perform_uses first kept
    have silent : kept.log = [] := by rw [← fresh]; rfl
    obtain ⟨patterns, warnings⟩ := ih later (step.handsOn kept) rfl
    have handed : (step.handsOn kept).patterns.patterns =
        step.uses.foldl PatternCache.touched kept.patterns.patterns := used.patterns
    rw [handed] at patterns warnings
    have told := used.warnings
    rw [silent, List.filter_nil, List.nil_append] at told
    refine ⟨?_, ?_⟩
    · rw [List.foldl_append]
      exact patterns
    · rw [logged, List.filter_append, warnings, reported_append]
      exact congrArg (· ++ _) told

end Session

/-! ## Reports by recency -/

/-- A use of a pattern: a name that is not one of introspection is searched for it. The pattern
stays within the bounds, but it may have a mistake. -/
structure Use where
  pattern : String
  name : String
  ordinary : isIntrospection name = false
  within : (Pattern.prepared? pattern).isSome = true

/-- The decision that a use is for. -/
def Use.excludes (use : Use) : Run Bool := (Exclusion.pattern use.pattern).excludes use.name

/-- The warnings that go with some uses after earlier ones: one for each use of a pattern that has a
mistake and is not among those used last. -/
def warningsAfter (earlier : List String) : List String → List Event
  | [] => []
  | text :: rest =>
    (if text ∈ PatternCache.recent earlier then none else Pattern.warning? text).toList ++
      warningsAfter (earlier ++ [text]) rest

theorem reported_recent (earlier uses : List String) :
    reported (PatternCache.recent earlier) uses = warningsAfter earlier uses := by
  induction uses generalizing earlier with
  | nil => rfl
  | cons text rest ih => rw [reported, warningsAfter, ← PatternCache.recent_concat, ih]

theorem Use.mapM_uses (uses : List Use) (trace : Trace) :
    Trace.Uses (uses.map Use.pattern) trace ((uses.mapM Use.excludes).after trace).2 := by
  induction uses generalizing trace with
  | nil => exact .none trace
  | cons use rest ih =>
    obtain ⟨ready, becomes⟩ := Option.isSome_iff_exists.mp use.within
    have came : (use.excludes.after trace).1 = .ok (ready.any (·.search use.name)) := by
      rw [Use.excludes, Exclusion.excludes_pattern_after use.ordinary becomes]
    rw [List.mapM_cons, List.map_cons]
    refine (Exclusion.excludes_uses use.ordinary becomes trace).bind came fun middle => ?_
    rw [← map_eq_pure_bind, Run.after_map]
    exact ih middle

/-- **Mistakes are reported by recency.** After any uses the cache holds the patterns used last, and
the next use is told as a warning just if its pattern has a mistake and is not among them. Of a
session the same is true, whatever its steps are. As long as there are no more patterns than can be
kept, each one with a mistake is reported once, however often it is used. -/
theorem mistakes_are_reported_by_recency :
    (∀ (uses : List Use) (next : Use),
      let left := ((uses.mapM Use.excludes).after .empty).2
      let recent := PatternCache.recent (uses.map Use.pattern)
      left.patterns.patterns = recent ∧
        (next.excludes.after left).2.log = left.log ++
          (if next.pattern ∈ recent then none else Pattern.warning? next.pattern).toList) ∧
    (∀ steps : List Session.Step,
      let uses := steps.flatMap Session.Step.uses
      (∀ text ∈ uses, (Pattern.prepared? text).isSome = true) →
      (Session.handedOn steps .empty).patterns.patterns = PatternCache.recent uses ∧
        (Session.logged steps .empty).filter Event.isPatternWarning = warningsAfter [] uses ∧
        (uses.eraseDups.length ≤ 128 → ∀ text ∈ uses, ∀ mistake,
          Pattern.compile text = .error (.mistaken mistake) →
          (Session.logged steps .empty).count (.invalidPattern text mistake) = 1)) := by
  constructor
  · intro uses next left recent
    have kept : left.patterns.patterns = recent :=
      (Use.mapM_uses uses .empty).patterns.trans (PatternCache.foldl_touched _)
    obtain ⟨ready, becomes⟩ := Option.isSome_iff_exists.mp next.within
    refine ⟨kept, ?_⟩
    rw [Use.excludes, Exclusion.excludes_pattern_after next.ordinary becomes, kept]
    simp only [Trace.log, List.reverse_append]
    congr 1
    generalize (if next.pattern ∈ recent then none else Pattern.warning? next.pattern) = warning
    cases warning <;> rfl
  · intro steps uses within
    obtain ⟨patterns, warnings⟩ := Session.uses_of_session within .empty rfl
    refine ⟨patterns.trans (PatternCache.foldl_touched _),
      warnings.trans (reported_recent [] _), fun few text used mistake compiles => ?_⟩
    have all := warnings.trans (reported_of_few few)
    have distinct : (uses.eraseDups.filterMap Pattern.warning?).Nodup := by
      refine (nodup_eraseDups uses).filterMap fun first second event one other => ?_
      obtain ⟨_, _, rfl⟩ := Pattern.warning?_eq_some.mp one
      obtain ⟨_, _, same⟩ := Pattern.warning?_eq_some.mp other
      exact (Event.invalidPattern.inj same).1
    have reports : Event.invalidPattern text mistake ∈ uses.eraseDups.filterMap Pattern.warning? :=
      List.mem_filterMap.mpr ⟨text, List.mem_eraseDups.mpr used,
        Pattern.warning?_eq_some.mpr ⟨mistake, compiles, rfl⟩⟩
    have counted := List.count_eq_one_of_mem distinct reports
    rw [← all, List.count_filter rfl] at counted
    exact counted

namespace PatternUses

def lone : Document where
  definitions := [⟨.operation .query none, some [⟨.field none "c", none, none⟩], none⟩]

/-- Two names are asked about, and then a document is searched, both with an unclosed group. -/
def unclosed : List Session.Step :=
  [.ignore ["a", "__b"] (.pattern "("), .validate (.tree lone) 1 (.pattern "(")]

/-- The first use is told as a warning, and the second one is not. Introspection uses no pattern. -/
theorem unclosed_group_is_reported_once :
    unclosed.flatMap Session.Step.uses = ["(", "("] ∧
    (Session.handedOn unclosed .empty).patterns.patterns = ["("] ∧
    (Session.logged unclosed .empty).count (.invalidPattern "(" ⟨.unterminatedGroup, some 0⟩) = 1 := by
  have compiles : Pattern.compile "(" = .error (.mistaken ⟨.unterminatedGroup, some 0⟩) := by
    decide +kernel
  have prepared : Pattern.prepared? "(" = some none := by simp [Pattern.prepared?, compiles]
  have quiet : Predicate.searching "(" = ⟨fun _ _ => .answers false⟩ := by
    simp [Predicate.searching, prepared]
  have searched : (lone.violations 1 (.predicate ⟨fun _ _ => .answers false⟩)).after .empty =
      (.ok [], { Trace.empty with asked := ["c"] }) :=
    WalkTermination.violations_eq_of_within 3 rfl
  have uses : unclosed.flatMap Session.Step.uses = ["(", "("] := by
    simp only [unclosed, List.flatMap_cons, List.flatMap_nil, Session.Step.uses, Exclusion.uses,
      Session.Source.document, quiet, searched]
    rfl
  obtain ⟨patterns, _, once⟩ := mistakes_are_reported_by_recency.2 unclosed (by simp [uses, prepared])
  rw [uses] at patterns once
  exact ⟨uses, patterns.trans (by decide), once (by decide) "(" (by simp) _ compiles⟩

end PatternUses

end QueryDepth
