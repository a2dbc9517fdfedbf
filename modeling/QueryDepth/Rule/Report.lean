import QueryDepth.Depth.Violation
import QueryDepth.Trace

/-! What a check reports. A report has a bounded number of violations, and says so where there are
more: to report one for which there is no room breaks off what reports it. -/
namespace QueryDepth

/-- An item of a report. -/
inductive ReportItem where
  /-- A violation of the limit. -/
  | violation (found : Violation)
  /-- There are more violations than a report has room for. -/
  | tooMany
  /-- Selections are nested too deeply for anything else to be checked. -/
  | nestedTooDeeply
  deriving BEq, Repr

namespace ReportItem

def message : ReportItem → String
  | violation found => found.message
  | tooMany => "Too many validation errors, error limit reached. Validation aborted."
  | nestedTooDeeply => "Validation aborted."

def location : ReportItem → Option Location
  | violation found => found.location
  | tooMany | nestedTooDeeply => none

end ReportItem

abbrev Report := List ReportItem

/-- There is no room for another violation in a report. -/
structure Report.Full where
  deriving DecidableEq, Repr

/-- A computation that reports violations. It breaks off once the report is full, and what it has
done by then stands. -/
abbrev Reporting (α : Type) := ExceptT Report.Full (StateT Report Run) α

namespace Reporting

variable {α β : Type}

/-- What a computation comes to after a trace if it goes on with a report. -/
def after (action : Reporting α) (report : Report) (trace : Trace) :
    Except Failure (Except Report.Full α × Report) × Trace :=
  Run.after (action.run.run report) trace

theorem after_bind (action : Reporting α) (next : α → Reporting β) (report : Report)
    (trace : Trace) :
    (action >>= next).after report trace =
      match action.after report trace with
      | (.ok (.ok value, grown), left) => (next value).after grown left
      | (.ok (.error full, grown), left) => (.ok (.error full, grown), left)
      | (.error failure, left) => (.error failure, left) := by
  simp only [after, ExceptT.run_bind, StateT.run_bind, Run.after_bind]
  rcases Run.after (action.run.run report) trace with ⟨_ | ⟨_ | _, _⟩, _⟩ <;> rfl

@[simp] theorem after_pure (value : α) (report : Report) (trace : Trace) :
    (pure value : Reporting α).after report trace = (.ok (.ok value, report), trace) := rfl

@[simp] theorem after_get (report : Report) (trace : Trace) :
    (get : Reporting Report).after report trace = (.ok (.ok report, report), trace) := rfl

@[simp] theorem after_modify (change : Report → Report) (report : Report) (trace : Trace) :
    (modify change : Reporting Unit).after report trace =
      (.ok (.ok (), change report), trace) := rfl

@[simp] theorem after_throw (full : Report.Full) (report : Report) (trace : Trace) :
    (throw full : Reporting α).after report trace = (.ok (.error full, report), trace) := rfl

@[simp] theorem after_lift (action : Run α) (report : Report) (trace : Trace) :
    (liftM action : Reporting α).after report trace =
      match action.after trace with
      | (.ok value, left) => (.ok (.ok value, report), left)
      | (.error failure, left) => (.error failure, left) := by
  have runs : (liftM action : Reporting α).run.run report =
      (action >>= fun value => pure (value, report)) >>= fun (value, same) =>
        pure (.ok value, same) := rfl
  rw [after, runs, Run.after_bind, Run.after_bind]
  rcases action.after trace with ⟨_ | _, _⟩ <;> rfl

end Reporting

namespace Report

def room : Nat := 100

def put (violation : Violation) : Reporting Unit := do
  let report ← get
  if room ≤ report.length then throw ⟨⟩ else modify (· ++ [.violation violation])

theorem after_put (violation : Violation) (report : Report) (trace : Trace) :
    (put violation).after report trace =
      if room ≤ report.length then (.ok (.error ⟨⟩, report), trace)
      else (.ok (.ok (), report ++ [.violation violation]), trace) := by
  rw [put, Reporting.after_bind, Reporting.after_get]
  dsimp only
  split <;> simp

/-- Violations are reported as far as there is room. -/
theorem after_forM_put (violations : List Violation) {report : Report}
    (fits : report.length ≤ room) (trace : Trace) :
    (forM violations put).after report trace =
      (.ok (if room < report.length + violations.length then .error ⟨⟩ else .ok (),
        report ++ (violations.take (room - report.length)).map .violation), trace) := by
  induction violations generalizing report with
  | nil =>
    have spare : ¬ room < report.length := Nat.not_lt.mpr fits
    simp [spare]
  | cons first rest ih =>
    rw [List.forM_cons, Reporting.after_bind, after_put]
    by_cases full : room ≤ report.length
    · have none : room - report.length = 0 := by omega
      have beyond : room < report.length + (first :: rest).length := by
        rw [List.length_cons]
        omega
      rw [if_pos full, if_pos beyond, none]
      simp
    · rw [if_neg full]
      dsimp only
      have grown : (report ++ [ReportItem.violation first]).length = report.length + 1 := by simp
      have spare : room - report.length = room - (report.length + 1) + 1 := by omega
      rw [ih (by omega), grown, List.length_cons, spare, List.take_succ_cons, List.map_cons,
        List.append_assoc, Nat.add_right_comm, Nat.add_assoc]
      rfl

/-- The report of violations. `nestedTooDeeply` says whether the document is also nested too deeply,
which is reported only if there was room for all violations. -/
def ofViolations (violations : List Violation) (nestedTooDeeply : Bool) : Report :=
  let items := (violations.take room).map .violation
  if room < violations.length then items ++ [.tooMany]
  else if nestedTooDeeply then items ++ [.nestedTooDeeply]
  else items

end Report

end QueryDepth
