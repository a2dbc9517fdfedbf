import QueryDepth.Depth.Walk
import QueryDepth.Document.Nesting
import QueryDepth.Rule.Report

/-! The rule that no operation may exceed a limit. A check counts itself and the violations it
found, and a rejection is told. A check that comes to no result counts nothing. -/
namespace QueryDepth

def Run.count (operations : List String) : Run Unit :=
  modify fun trace => { trace with metrics := trace.metrics.record operations }

@[simp] theorem Run.after_count (operations : List String) (trace : Trace) :
    (Run.count operations).after trace =
      (.ok (), { trace with metrics := trace.metrics.record operations }) := rfl

/-- A limit on the depth of operations, and the fields that are left out of it. -/
structure DepthRule where
  limit : Nat
  exclusion : Exclusion

/-- A limit below zero, which no rule can have. -/
structure NegativeLimit where
  limit : Int
  deriving DecidableEq, Repr

def NegativeLimit.message (refused : NegativeLimit) : String :=
  s!"max_depth must be >= 0, got {refused.limit}"

namespace DepthRule

/-- The rule with a given limit, which must not be negative. -/
def make (limit : Int) (exclusion : Exclusion) : Except NegativeLimit DepthRule :=
  match limit with
  | .ofNat limit => .ok ⟨limit, exclusion⟩
  | .negSucc _ => .error ⟨limit⟩

/-- The operations that have violations, each named once and in the order of code points. -/
def rejectedOperations (violations : List Violation) : List String :=
  (violations.map Violation.operation).eraseDups.mergeSort

/-- Finds the violations of a document and reports them one by one. All are counted and told before
the first is reported, so a full report breaks off nothing but the reporting. -/
def enter (rule : DepthRule) (document : Document) : Reporting Unit := do
  let violations ← document.violations rule.limit rule.exclusion
  Run.count (violations.map Violation.operation)
  if !violations.isEmpty then
    Run.tell (.rejected (rejectedOperations violations) rule.limit)
  forM violations Report.put

def check (rule : DepthRule) (document : Document) : Run Report := do
  match ← (rule.enter document).run.run [] with
  | (.error ⟨⟩, report) => return report ++ [.tooMany]
  | (.ok (), report) =>
    return if document.nestedBeyondBound then report ++ [.nestedTooDeeply] else report

theorem enter_after (rule : DepthRule) (document : Document) (trace : Trace) :
    (rule.enter document).after [] trace =
      match (document.violations rule.limit rule.exclusion).after trace with
      | (.ok found, left) =>
        (.ok (if Report.room < found.length then .error ⟨⟩ else .ok (),
            (found.take Report.room).map .violation),
          { left with
            metrics := left.metrics.record (found.map Violation.operation)
            events :=
              if found.isEmpty then left.events
              else .rejected (rejectedOperations found) rule.limit :: left.events })
      | (.error failure, left) => (.error failure, left) := by
  rw [enter, Reporting.after_bind, Reporting.after_lift]
  rcases (document.violations rule.limit rule.exclusion).after trace with ⟨failure | found, left⟩
  · rfl
  · have empty : ([] : Report).length ≤ Report.room := Nat.zero_le _
    have reports := Report.after_forM_put found empty
    simp only [List.length_nil, Nat.zero_add, List.nil_append, Nat.sub_zero] at reports
    cases none : found.isEmpty with
    | true => simp [Reporting.after_bind, none, reports]
    | false => simp [Reporting.after_bind, none, reports]

/-- A check that finds the violations of a document counts them all, and reports those there is room
for. A check that comes to no result counts nothing. -/
theorem check_after (rule : DepthRule) (document : Document) (trace : Trace) :
    (rule.check document).after trace =
      match (document.violations rule.limit rule.exclusion).after trace with
      | (.ok found, left) =>
        (.ok (.ofViolations found document.nestedBeyondBound),
          { left with
            metrics := left.metrics.record (found.map Violation.operation)
            events :=
              if found.isEmpty then left.events
              else .rejected (rejectedOperations found) rule.limit :: left.events })
      | (.error failure, left) => (.error failure, left) := by
  have entered := rule.enter_after document trace
  rw [Reporting.after] at entered
  rw [check, Run.after_bind, entered]
  rcases (document.violations rule.limit rule.exclusion).after trace with ⟨failure | found, left⟩
  · rfl
  · by_cases many : Report.room < found.length
    · simp [Report.ofViolations, many]
    · simp [Report.ofViolations, many]

/-- So a check does the same as one that never breaks off and leaves out of its report what there is
no room for. -/
theorem check_eq (rule : DepthRule) (document : Document) :
    rule.check document = do
      let violations ← document.violations rule.limit rule.exclusion
      Run.count (violations.map Violation.operation)
      if !violations.isEmpty then
        Run.tell (.rejected (rejectedOperations violations) rule.limit)
      return .ofViolations violations document.nestedBeyondBound := by
  apply Run.ext
  intro trace
  rw [check_after, Run.after_bind]
  rcases (document.violations rule.limit rule.exclusion).after trace with ⟨failure | found, left⟩
  · rfl
  · cases found <;> rfl

end DepthRule

end QueryDepth
