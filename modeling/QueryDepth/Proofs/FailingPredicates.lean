import QueryDepth.Proofs.Dialogues
import QueryDepth.Proofs.WalkTermination
import QueryDepth.Rule.Limiter

/-! A predicate that fails is a predicate that says no. The search for violations goes on from a
call that fails as it would go on from the answer no, whatever the predicate makes of the calls that
came before, and all that the failure leaves behind is a warning in its place. A predicate that puts
an end to everything does so at once: nothing is told after that call, and nothing is counted. -/
namespace QueryDepth

/-- The answer that counts. A predicate that fails says no. -/
def Response.verdict : Response → Except Interruption Bool
  | answers excluded => .ok excluded
  | fails _ => .ok false
  | interrupts interruption => .error interruption

/-- What is said by a predicate that says no where another one fails. -/
def Response.softened : Response → Response
  | fails _ => answers false
  | response => response

/-- The predicate that behaves like another one, but says no on every call where that one fails. -/
def Predicate.softened (condition : Predicate) : Predicate :=
  ⟨fun asked name => (condition.respond asked name).softened⟩

/-- Another predicate follows one if it responds alike wherever that one does not interrupt. -/
def Predicate.FollowedBy (condition other : Predicate) : Prop :=
  ∀ asked name, (∀ interruption, condition.respond asked name ≠ .interrupts interruption) →
    other.respond asked name = condition.respond asked name

/-- What happens at one moment of a check. -/
inductive Moment where
  /-- An event is told that has nothing to do with the predicate. -/
  | told (event : Event)
  /-- The predicate is called and responds. -/
  | called (name : String) (response : Response)
  /-- The check is counted. -/
  | counted (operations : List String)

namespace Moment

/-- The moment as it is if the predicate says no instead of failing. -/
def softened : Moment → Moment
  | called name response => called name response.softened
  | moment => moment

/-- The events of a moment. A call that fails is told in its place, once. -/
def heard : Moment → List Event
  | told event => [event]
  | called name (.fails reason) => [.predicateFailed name reason]
  | called .. | counted _ => []

def names : Moment → List String
  | called name _ => [name]
  | told _ | counted _ => []

/-- A call that puts an end to everything. -/
def Interrupts (moment : Moment) : Prop :=
  ∃ name interruption, moment = called name (.interrupts interruption)

/-- What a moment makes of the counters. -/
def counts (metrics : Metrics) : Moment → Metrics
  | counted operations => metrics.record operations
  | told _ | called .. => metrics

theorem foldl_counts {course : List Moment} {metrics : Metrics}
    (idle : ∀ moment ∈ course, ∀ metrics, counts metrics moment = metrics) :
    course.foldl counts metrics = metrics := by
  induction course with
  | nil => rfl
  | cons moment course ih =>
    rw [List.foldl_cons, idle moment List.mem_cons_self]
    exact ih fun later member => idle later (List.mem_cons_of_mem _ member)

end Moment

/-- What is left behind after some moments. -/
def Trace.along (trace : Trace) (course : List Moment) : Trace where
  patterns := trace.patterns
  metrics := course.foldl Moment.counts trace.metrics
  asked := (course.flatMap Moment.names).reverse ++ trace.asked
  events := (course.flatMap Moment.heard).reverse ++ trace.events

namespace Trace

theorem along_append (trace : Trace) (first rest : List Moment) :
    trace.along (first ++ rest) = (trace.along first).along rest := by
  simp [along]

theorem along_cons (trace : Trace) (moment : Moment) (course : List Moment) :
    trace.along (moment :: course) = (trace.along [moment]).along course :=
  trace.along_append [moment] course

end Trace

/-- A call leaves behind the question, and a warning if it fails. -/
theorem Run.ask_along (condition : Predicate) (name : String) (trace : Trace) :
    (ask condition name).after trace =
      ((condition.respond trace.asked name).verdict.mapError .interrupted,
        trace.along [.called name (condition.respond trace.asked name)]) := by
  rw [ask_after]
  cases condition.respond trace.asked name <;> rfl

namespace Dialogue

variable {α : Type}

/-- The course of a dialogue with a predicate, given the names that it was called with before. -/
def course (condition : Predicate) (asked : List String) : Dialogue α → List Moment
  | ends _ => []
  | tells event rest => .told event :: rest.course condition asked
  | asks name next =>
    if isIntrospection name then (next true).course condition asked
    else
      let response := condition.respond asked name
      .called name response ::
        match response.verdict with
        | .ok excluded => (next excluded).course condition (name :: asked)
        | .error _ => []

def outcome (condition : Predicate) (asked : List String) : Dialogue α → Except Failure α
  | ends outcome => outcome
  | tells _ rest => rest.outcome condition asked
  | asks name next =>
    if isIntrospection name then (next true).outcome condition asked
    else
      match (condition.respond asked name).verdict with
      | .ok excluded => (next excluded).outcome condition (name :: asked)
      | .error interruption => .error (.interrupted interruption)

/-- All that a question can lead to. Names of introspection are answered without a call. -/
theorem asks_cases (condition : Predicate) (asked : List String) (name : String)
    (next : Bool → Dialogue α) :
    (isIntrospection name = true ∧
      (asks name next).course condition asked = (next true).course condition asked ∧
      (asks name next).outcome condition asked = (next true).outcome condition asked) ∨
    (isIntrospection name = false ∧ ∃ excluded,
      (condition.respond asked name).verdict = .ok excluded ∧
      (asks name next).course condition asked =
        .called name (condition.respond asked name) ::
          (next excluded).course condition (name :: asked) ∧
      (asks name next).outcome condition asked =
        (next excluded).outcome condition (name :: asked)) ∨
    (isIntrospection name = false ∧ ∃ interruption,
      condition.respond asked name = .interrupts interruption ∧
      (asks name next).course condition asked = [.called name (.interrupts interruption)] ∧
      (asks name next).outcome condition asked = .error (.interrupted interruption)) := by
  cases introspective : isIntrospection name with
  | true => simp [course, outcome, introspective]
  | false =>
    cases said : condition.respond asked name <;>
      simp [course, outcome, introspective, said, Response.verdict]

/-- A dialogue with a predicate comes to its outcome and leaves its course behind. -/
theorem play_after (condition : Predicate) (dialogue : Dialogue α) (trace : Trace) :
    (dialogue.play (.predicate condition)).after trace =
      (dialogue.outcome condition trace.asked,
        trace.along (dialogue.course condition trace.asked)) := by
  induction dialogue generalizing trace with
  | ends outcome => cases outcome <;> rfl
  | tells event rest ih =>
    rw [play, Run.after_bind, Run.after_tell, course, Trace.along_cons]
    exact ih (trace.along [.told event])
  | asks name next ih =>
    rw [play, Run.after_bind]
    rcases asks_cases condition trace.asked name next with
      ⟨introspective, course, outcome⟩ | ⟨plain, excluded, said, course, outcome⟩ |
      ⟨plain, interruption, said, course, outcome⟩
    · rw [course, outcome]
      simpa [Exclusion.excludes, introspective] using ih true trace
    · have called := ih excluded (trace.along [.called name (condition.respond trace.asked name)])
      rw [course, outcome, Trace.along_cons]
      simp only [Exclusion.excludes, plain, Bool.false_eq_true, if_false, Run.ask_along, said,
        Except.mapError]
      exact called
    · rw [course, outcome]
      simp [Exclusion.excludes, plain, Run.ask_along, said, Response.verdict, Except.mapError]

/-- Where a predicate fails, a dialogue goes on as if it had said no. -/
theorem softened_alike (condition : Predicate) (asked : List String) (dialogue : Dialogue α) :
    dialogue.outcome condition.softened asked = dialogue.outcome condition asked ∧
      dialogue.course condition.softened asked =
        (dialogue.course condition asked).map Moment.softened := by
  induction dialogue generalizing asked with
  | ends outcome => exact ⟨rfl, rfl⟩
  | tells event rest ih =>
    obtain ⟨outcome, course⟩ := ih asked
    refine ⟨outcome, ?_⟩
    rw [Dialogue.course, Dialogue.course, course]
    rfl
  | asks name next ih =>
    cases introspective : isIntrospection name with
    | true => simpa only [outcome, course, introspective, if_true] using ih true asked
    | false =>
      have alike : (condition.respond asked name).softened.verdict =
          (condition.respond asked name).verdict := by
        cases condition.respond asked name <;> rfl
      simp only [outcome, course, introspective, Bool.false_eq_true, if_false, List.map_cons,
        Predicate.softened, Moment.softened, alike]
      cases (condition.respond asked name).verdict with
      | error interruption => exact ⟨rfl, rfl⟩
      | ok excluded =>
        obtain ⟨outcome, course⟩ := ih excluded (name :: asked)
        exact ⟨outcome, congrArg (List.cons _) course⟩

/-- In a calm dialogue only calls and events that matter least happen. -/
theorem Calm.course {dialogue : Dialogue α} (calm : dialogue.Calm) (condition : Predicate)
    (asked : List String) : ∀ moment ∈ dialogue.course condition asked,
      (∃ name response, moment = .called name response) ∨
        ∃ event, moment = .told event ∧ event.level = .debug := by
  induction dialogue generalizing asked with
  | ends outcome => exact fun _ member => absurd member List.not_mem_nil
  | tells event rest ih =>
    intro moment member
    rcases List.mem_cons.mp member with rfl | later
    · exact .inr ⟨event, rfl, calm.1⟩
    · exact ih calm.2 asked moment later
  | asks name next ih =>
    intro moment member
    rcases asks_cases condition asked name next with
      ⟨_, course, _⟩ | ⟨_, excluded, _, course, _⟩ | ⟨_, interruption, _, course, _⟩
    · rw [course] at member
      exact ih true (calm true) asked moment member
    · rw [course] at member
      rcases List.mem_cons.mp member with rfl | later
      · exact .inl ⟨name, _, rfl⟩
      · exact ih excluded (calm excluded) (name :: asked) moment later
    · rw [course] at member
      exact .inl ⟨name, _, List.mem_singleton.mp member⟩

/-- A dialogue that no call interrupts. It is the same with every predicate that follows. -/
structure Uninterrupted (condition : Predicate) (asked : List String) (dialogue : Dialogue α) :
    Prop where
  goesOn : ∀ moment ∈ dialogue.course condition asked, ¬ moment.Interrupts
  comes : ∀ interruption, dialogue.outcome condition asked ≠ .error (.interrupted interruption)
  alike : ∀ other : Predicate, condition.FollowedBy other →
    dialogue.course other asked = dialogue.course condition asked ∧
      dialogue.outcome other asked = dialogue.outcome condition asked

/-- A dialogue that ends with the first call that interrupts. Up to there it is the same with every
predicate that follows. -/
structure Interrupted (condition : Predicate) (asked : List String) (dialogue : Dialogue α)
    (earlier : List Moment) (name : String) (interruption : Interruption) : Prop where
  course : dialogue.course condition asked = earlier ++ [.called name (.interrupts interruption)]
  goesOn : ∀ moment ∈ earlier, ¬ moment.Interrupts
  outcome : dialogue.outcome condition asked = .error (.interrupted interruption)
  alike : ∀ other : Predicate, condition.FollowedBy other →
    ∃ response, earlier ++ [.called name response] <+: dialogue.course other asked

/-- A dialogue is interrupted or not. -/
def Proceeds (condition : Predicate) (asked : List String) (dialogue : Dialogue α) : Prop :=
  dialogue.Uninterrupted condition asked ∨
    ∃ earlier name interruption, dialogue.Interrupted condition asked earlier name interruption

/-- What is left of a dialogue after some moments proceeds as the whole dialogue does. -/
theorem Proceeds.after {condition : Predicate} {asked names : List String}
    {dialogue rest : Dialogue α} (before : List Moment)
    (goesOn : ∀ moment ∈ before, ¬ moment.Interrupts)
    (left : ∀ other : Predicate, condition.FollowedBy other →
      dialogue.course other asked = before ++ rest.course other names ∧
        dialogue.outcome other asked = rest.outcome other names)
    (proceeds : rest.Proceeds condition names) : dialogue.Proceeds condition asked := by
  obtain ⟨course, outcome⟩ := left condition fun _ _ _ => rfl
  rcases proceeds with ⟨calls, comes, alike⟩ | ⟨earlier, name, interruption, shape, calls, ends, alike⟩
  · refine .inl ⟨fun moment member => ?_, by rw [outcome]; exact comes, fun other follows => ?_⟩
    · rw [course] at member
      rcases List.mem_append.mp member with early | late
      · exact goesOn moment early
      · exact calls moment late
    · obtain ⟨sameCourse, sameOutcome⟩ := alike other follows
      obtain ⟨otherCourse, otherOutcome⟩ := left other follows
      exact ⟨by rw [otherCourse, sameCourse, course], by rw [otherOutcome, sameOutcome, outcome]⟩
  · refine .inr ⟨before ++ earlier, name, interruption, ?_, fun moment member => ?_,
      outcome.trans ends, fun other follows => ?_⟩
    · rw [course, shape, List.append_assoc]
    · rcases List.mem_append.mp member with early | late
      · exact goesOn moment early
      · exact calls moment late
    · obtain ⟨response, same⟩ := alike other follows
      refine ⟨response, ?_⟩
      rw [(left other follows).1, List.append_assoc]
      exact (List.prefix_append_right_inj before).mpr same

/-- A calm dialogue is interrupted by a call if at all. -/
theorem Calm.proceeds {dialogue : Dialogue α} (calm : dialogue.Calm) (condition : Predicate)
    (asked : List String) : dialogue.Proceeds condition asked := by
  induction dialogue generalizing asked with
  | ends outcome =>
    refine .inl ⟨fun _ member => absurd member List.not_mem_nil, fun interruption ended => ?_,
      fun _ _ => ⟨rfl, rfl⟩⟩
    rw [Dialogue.outcome] at ended
    subst ended
    cases calm
  | tells event rest ih =>
    refine .after [.told event] ?_ (fun _ _ => ⟨rfl, rfl⟩) (ih calm.2 asked)
    rintro _ (_ | ⟨_, ⟨⟩⟩) ⟨_, _, ⟨⟩⟩
  | asks name next ih =>
    rcases asks_cases condition asked name next with
      ⟨introspective, _⟩ | ⟨plain, excluded, said, _⟩ | ⟨plain, interruption, said, course, outcome⟩
    · refine .after [] (by simp) (fun other _ => ?_) (ih true (calm true) asked)
      simp [Dialogue.course, Dialogue.outcome, introspective]
    · have lets : ∀ interruption, condition.respond asked name ≠ .interrupts interruption := by
        intro interruption interrupts
        rw [interrupts] at said
        cases said
      refine .after [.called name (condition.respond asked name)] ?_ (fun other follows => ?_)
        (ih excluded (calm excluded) (name :: asked))
      · rintro _ (_ | ⟨_, ⟨⟩⟩) ⟨_, interruption, called⟩
        exact lets interruption (Moment.called.inj called).2
      · have same := follows asked name lets
        simp [Dialogue.course, Dialogue.outcome, plain, same, said]
    · refine .inr ⟨[], name, interruption, course, by simp, outcome, fun other _ => ?_⟩
      refine ⟨other.respond asked name, ?_⟩
      simp [Dialogue.course, plain]

end Dialogue

namespace DepthRule

/-- How a check concludes once the search for violations has come to its outcome. -/
def conclusion (limit : Nat) : Except Failure (List Violation) → List Moment
  | .ok found =>
    .counted (found.map Violation.operation) ::
      if found.isEmpty then [] else [.told (.rejected (rejectedOperations found) limit)]
  | .error _ => []

theorem conclusion_softened (limit : Nat) (outcome : Except Failure (List Violation)) :
    (conclusion limit outcome).map Moment.softened = conclusion limit outcome := by
  cases outcome with
  | error failure => rfl
  | ok found => cases found <;> rfl

theorem check_along (rule : DepthRule) {document : Document} {trace : Trace}
    {outcome : Except Failure (List Violation)} {course : List Moment}
    (searched : (document.violations rule.limit rule.exclusion).after trace =
      (outcome, trace.along course)) :
    (rule.check document).after trace =
      (outcome.map (Report.ofViolations · document.nestedBeyondBound),
        trace.along (course ++ conclusion rule.limit outcome)) := by
  rw [check_after, searched, Trace.along_append]
  cases outcome with
  | error failure => rfl
  | ok found => cases found <;> rfl

end DepthRule

/-- **A predicate that fails is a predicate that says no.** The search for violations is one
dialogue with all predicates. With a predicate that says no instead of failing it takes the same
course to the same outcome, moment by moment, but for the warnings of the calls that fail, and so do
the checks of rules and of limiters. If a call interrupts, it is the last moment and the outcome.
Nothing is counted then, no rejection is told, and the calls were those that any predicate would
have had that responds alike up to there. -/
theorem failing_is_saying_no (document : Document) :
    ∃ dialogue : Int → Dialogue (List Violation),
      (∀ limit exclusion, document.violations limit exclusion = (dialogue limit).play exclusion) ∧
      (∀ (limit : Int) (condition : Predicate) (trace : Trace),
        let course := (dialogue limit).course condition trace.asked
        let outcome := (dialogue limit).outcome condition trace.asked
        (document.violations limit (.predicate condition)).after trace =
            (outcome, trace.along course) ∧
          (document.violations limit (.predicate condition.softened)).after trace =
            (outcome, trace.along (course.map Moment.softened)) ∧
          (∀ moment ∈ course, (∃ name response, moment = .called name response) ∨
            ∃ event, moment = .told event ∧ event.level = .debug) ∧
          ((dialogue limit).Uninterrupted condition trace.asked ∨
            ∃ earlier name interruption,
              (dialogue limit).Interrupted condition trace.asked earlier name interruption)) ∧
      (∀ (limit : Nat) (condition : Predicate) (trace : Trace),
        let outcome := (dialogue limit).outcome condition trace.asked
        let course := (dialogue limit).course condition trace.asked ++
          DepthRule.conclusion limit outcome
        let report := outcome.map (Report.ofViolations · document.nestedBeyondBound)
        (DepthRule.check ⟨limit, .predicate condition⟩ document).after trace =
            (report, trace.along course) ∧
          (DepthRule.check ⟨limit, .predicate condition.softened⟩ document).after trace =
            (report, trace.along (course.map Moment.softened)) ∧
          (Limiter.check ⟨⟨limit, .predicate condition⟩⟩ document).after trace =
            (report, trace.along course) ∧
          (Limiter.check ⟨⟨limit, .predicate condition.softened⟩⟩ document).after trace =
            (report, trace.along (course.map Moment.softened)) ∧
          ∀ interruption, outcome = .error (.interrupted interruption) →
            report = .error (.interrupted interruption) ∧
              (trace.along course).metrics = trace.metrics ∧
              ∀ operations bound, .told (.rejected operations bound) ∉ course) := by
  choose dialogue calm spoken using document.violations_spoken
  have plays : ∀ limit exclusion,
      document.violations limit exclusion = (dialogue limit).play exclusion := spoken
  have searched : ∀ limit condition trace,
      (document.violations limit (.predicate condition)).after trace =
        ((dialogue limit).outcome condition trace.asked,
          trace.along ((dialogue limit).course condition trace.asked)) := by
    intro limit condition trace
    rw [plays, Dialogue.play_after]
  have softened : ∀ limit condition trace,
      (document.violations limit (.predicate condition.softened)).after trace =
        ((dialogue limit).outcome condition trace.asked,
          trace.along (((dialogue limit).course condition trace.asked).map Moment.softened)) := by
    intro limit condition trace
    obtain ⟨outcome, course⟩ := (dialogue limit).softened_alike condition trace.asked
    rw [searched, outcome, course]
  refine ⟨dialogue, plays, ?_, ?_⟩
  · intro limit condition trace course outcome
    exact ⟨searched limit condition trace, softened limit condition trace,
      (calm limit).course condition trace.asked, (calm limit).proceeds condition trace.asked⟩
  · intro limit condition trace outcome course report
    have checked := DepthRule.check_along ⟨limit, .predicate condition⟩
      (searched limit condition trace)
    have spared := DepthRule.check_along ⟨limit, .predicate condition.softened⟩
      (softened limit condition trace)
    rw [← DepthRule.conclusion_softened, ← List.map_append] at spared
    refine ⟨checked, spared, checked, spared, fun interruption interrupted => ?_⟩
    have unconcluded : course = (dialogue limit).course condition trace.asked := by
      simp only [course, interrupted, DepthRule.conclusion, List.append_nil]
    have quiet := (calm limit).course condition trace.asked
    rw [← unconcluded] at quiet
    refine ⟨by simp only [report, interrupted, Except.map],
      Moment.foldl_counts fun moment member metrics => ?_, fun operations bound rejected => ?_⟩
    · rcases quiet moment member with ⟨name, response, rfl⟩ | ⟨event, rfl, _⟩ <;> rfl
    · rcases quiet _ rejected with ⟨_, _, called⟩ | ⟨event, told, least⟩
      · cases called
      · obtain rfl := Moment.told.inj told
        cases least

namespace FailingPredicates

def chain : Document where
  definitions := [
    ⟨.operation .query (some "Q"), some [⟨.field none "a", some [
      ⟨.field none "b", some [⟨.field none "c", none, none⟩], none⟩], none⟩], none⟩]

def failing : Predicate :=
  ⟨fun _ name => if name = "a" then .fails "no idea" else .answers false⟩

/-- A predicate that responds like `failing`, but puts an end to everything at `b`. -/
def impatient : Predicate where
  respond asked name :=
    if name = "b" then .interrupts (.cancelled "stop") else failing.respond asked name

/-- The failure at the first field is told, the search ends at the second one, and the third one is
not asked about. -/
theorem impatient_search_is_interrupted :
    impatient.FollowedBy failing ∧
    (chain.violations 1 (.predicate impatient)).after .empty =
      (.error (.interrupted (.cancelled "stop")),
        { Trace.empty with asked := ["b", "a"], events := [.predicateFailed "a" "no idea"] }) ∧
    (chain.violations 1 (.predicate impatient.softened)).after .empty =
      (.error (.interrupted (.cancelled "stop")), { Trace.empty with asked := ["b", "a"] }) ∧
    ((DepthRule.check ⟨1, .predicate impatient⟩ chain).after .empty).1 =
      .error (.interrupted (.cancelled "stop")) ∧
    ((DepthRule.check ⟨1, .predicate impatient⟩ chain).after .empty).2.metrics = {} ∧
    ∃ dialogue : Dialogue (List Violation),
      (∀ exclusion, chain.violations 1 exclusion = dialogue.play exclusion) ∧
      ∃ earlier response, earlier.flatMap Moment.names = ["a"] ∧
        earlier ++ [.called "b" response] <+: dialogue.course failing [] := by
  have follows : impatient.FollowedBy failing := by
    intro asked name lets
    have other : name ≠ "b" := by
      rintro rfl
      exact lets _ rfl
    simp only [impatient, if_neg other]
  have searched : (chain.violations 1 (.predicate impatient)).after .empty =
      (.error (.interrupted (.cancelled "stop")),
        { Trace.empty with asked := ["b", "a"], events := [.predicateFailed "a" "no idea"] }) :=
    WalkTermination.violations_eq_of_within 6 rfl
  have spared : (chain.violations 1 (.predicate impatient.softened)).after .empty =
      (.error (.interrupted (.cancelled "stop")), { Trace.empty with asked := ["b", "a"] }) :=
    WalkTermination.violations_eq_of_within 6 rfl
  obtain ⟨dialogue, plays, runs, checks⟩ := failing_is_saying_no chain
  obtain ⟨came, -, -, undisturbed | ⟨earlier, name, interruption, interrupted⟩⟩ :=
    runs 1 impatient .empty
  all_goals rw [searched] at came
  · exact absurd (congrArg Prod.fst came).symm (undisturbed.comes _)
  · have outcome := congrArg Prod.fst came
    obtain ⟨checked, -, -, -, ends⟩ := checks 1 impatient .empty
    obtain ⟨report, uncounted, -⟩ := ends _ outcome.symm
    have asked := congrArg (fun came => came.2.questions) came
    simp only [Trace.questions, Trace.along, interrupted.course] at asked
    have names : ["a"] ++ ["b"] = earlier.flatMap Moment.names ++ [name] := by
      simpa [Trace.empty, Moment.names] using asked
    obtain ⟨first, second⟩ := List.append_inj' names rfl
    obtain rfl := List.singleton_inj.mp second
    obtain ⟨response, before⟩ := interrupted.alike failing follows
    refine ⟨follows, searched, spared, ?_, ?_, dialogue 1, plays 1, earlier, response, first.symm,
      before⟩
    · rw [checked]
      exact report
    · rw [checked]
      exact uncounted

end FailingPredicates

end QueryDepth
