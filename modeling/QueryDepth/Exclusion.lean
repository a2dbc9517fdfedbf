import QueryDepth.Trace

/-! Which fields are left out of the depth. Nothing below such a field counts either. Introspection
fields are always left out, whatever else is asked for. -/
namespace QueryDepth

/-- What a predicate says about a name. -/
inductive Response where
  | answers (excluded : Bool)
  | fails (reason : String)
  | interrupts (interruption : Interruption)
  deriving DecidableEq, Repr

/-- A condition on names that may depend on what it was asked before, the latest name first. -/
structure Predicate where
  respond : List String → String → Response

/-- Which fields to leave out, besides those of introspection. -/
inductive Exclusion where
  /-- The field that bears a name. -/
  | exact (name : String)
  /-- The fields whose names contain a match for a pattern. -/
  | pattern (text : String)
  /-- The fields that satisfy a predicate. -/
  | predicate (condition : Predicate)
  /-- No field. -/
  | nothing

def isIntrospection (name : String) : Bool := "__".toList.isPrefixOf name.toList

namespace Run

/-- A pattern made ready for searching, or nothing if it has a mistake, which is told when the
pattern was not used lately. -/
def compiled (pattern : String) : Run (Option Pattern.Compiled) := do
  let trace ← get
  match kept : trace.patterns.find? pattern with
  | some known =>
    let becomes := PatternCache.prepared?_of_find? kept
    set { trace with patterns := trace.patterns.use pattern known becomes }
    return known
  | none =>
    match compiles : Pattern.compile pattern with
    | .ok fresh =>
      let becomes := by simp [Pattern.prepared?, compiles]
      set { trace with patterns := trace.patterns.use pattern (some fresh) becomes }
      return some fresh
    | .error (.mistaken mistake) =>
      let becomes := by simp [Pattern.prepared?, compiles]
      set { trace with patterns := trace.patterns.use pattern none becomes }
      tell (.invalidPattern pattern mistake)
      return none
    | .error (.excessive excess) => throw (.patternExcess excess)

/-- The warning that goes with the use of a pattern. -/
def warning? (trace : Trace) (pattern : String) : Option Event :=
  match trace.patterns.find? pattern, Pattern.compile pattern with
  | none, .error (.mistaken mistake) => some (.invalidPattern pattern mistake)
  | _, _ => none

/-- A pattern within the bounds is put in front of those used lately. -/
theorem compiled_after {pattern : String} {ready : Option Pattern.Compiled}
    (becomes : Pattern.prepared? pattern = some ready) (trace : Trace) :
    (compiled pattern).after trace =
      (.ok ready, { trace with
        patterns := trace.patterns.use pattern ready becomes
        events := (warning? trace pattern).toList ++ trace.events }) := by
  simp only [compiled, after_bind, after_get]
  split
  · rename_i known kept
    obtain rfl : ready = known :=
      Option.some.inj (becomes.symm.trans (PatternCache.prepared?_of_find? kept))
    simp [warning?, kept, Except.map]
  · rename_i absent
    split
    · rename_i fresh compiles
      obtain rfl : some fresh = ready := by simpa [Pattern.prepared?, compiles] using becomes
      simp [warning?, absent, compiles, Except.map]
    · rename_i mistake compiles
      obtain rfl : none = ready := by simpa [Pattern.prepared?, compiles] using becomes
      simp [after_bind, warning?, absent, compiles, Except.map]
    · rename_i excess compiles
      simp [Pattern.prepared?, compiles] at becomes

theorem compiled_after_of_excessive {pattern : String} {excess : Pattern.Excess}
    (refused : Pattern.compile pattern = .error (.excessive excess)) (trace : Trace) :
    (compiled pattern).after trace = (.error (.patternExcess excess), trace) := by
  have becomes : Pattern.prepared? pattern = none := by simp [Pattern.prepared?, refused]
  have absent := PatternCache.find?_of_prepared?_eq_none becomes trace.patterns
  simp only [compiled, after_bind, after_get]
  split
  · rename_i known kept
    rw [absent] at kept
    cases kept
  · split <;> rename_i compiles <;> rw [refused] at compiles <;> cases compiles
    rfl

/-- What a predicate says about a name. One that fails says no, and this is told. -/
def ask (predicate : Predicate) (name : String) : Run Bool := do
  let trace ← get
  set { trace with asked := name :: trace.asked }
  match predicate.respond trace.asked name with
  | .answers excluded => return excluded
  | .fails reason =>
    tell (.predicateFailed name reason)
    return false
  | .interrupts interruption => throw (.interrupted interruption)

theorem ask_after (predicate : Predicate) (name : String) (trace : Trace) :
    (ask predicate name).after trace =
      match predicate.respond trace.asked name with
      | .answers excluded => (.ok excluded, { trace with asked := name :: trace.asked })
      | .fails reason =>
        (.ok false, { trace with
          asked := name :: trace.asked
          events := .predicateFailed name reason :: trace.events })
      | .interrupts interruption =>
        (.error (.interrupted interruption), { trace with asked := name :: trace.asked }) := by
  simp only [ask, after_bind, after_get, after_set]
  cases predicate.respond trace.asked name <;> rfl

end Run

namespace Exclusion

/-- Whether a field is left out. -/
def excludes (exclusion : Exclusion) (name : String) : Run Bool := do
  if isIntrospection name then return true
  match exclusion with
  | exact wanted => return name == wanted
  | pattern text => return (← Run.compiled text).any (·.search name)
  | predicate condition => Run.ask condition name
  | nothing => return false

/-- An exclusion as it is shown. A predicate cannot be shown. -/
def text? : Exclusion → Option String
  | exact name => some s!"ExactMatch(name={quoted name})"
  | pattern text => some s!"PatternMatch(pattern={quoted text})"
  | predicate _ => none
  | nothing => some "NoIgnore()"

/-- The name or pattern that an exclusion is about. -/
def subject? : Exclusion → Option String
  | exact name => some name
  | pattern text => some text
  | predicate _ | nothing => none

end Exclusion

end QueryDepth
