import QueryDepth.Event
import QueryDepth.Pattern.Cache
import QueryDepth.Rule.Metrics

/-! What a run leaves behind, whether it comes to a result or not: the patterns it used, the
counters, the questions it put to a predicate, and the events worth telling. -/
namespace QueryDepth

/-- What has been left behind so far. Questions and events are latest first. -/
structure Trace where
  patterns : PatternCache
  metrics : Metrics
  asked : List String
  events : List Event

namespace Trace

def empty : Trace := ⟨.empty, {}, [], []⟩

/-- What is kept for the next step of a session: all but the questions and the events. -/
def kept (trace : Trace) : Trace := ⟨trace.patterns, trace.metrics, [], []⟩

/-- The events in the order in which they happened. -/
def log (trace : Trace) : List Event := trace.events.reverse

/-- The questions in the order in which they were put. -/
def questions (trace : Trace) : List String := trace.asked.reverse

end Trace

/-- An end that a predicate puts to everything. -/
inductive Interruption where
  /-- Somebody wants the run to stop. -/
  | cancelled (text : String)
  /-- The predicate wants the program to exit. -/
  | exit (text : String)
  /-- The question is one that has no answer. -/
  | unanswerable
  deriving DecidableEq, Repr

/-- Why a run comes to no result. -/
inductive Failure where
  /-- A predicate puts an end to the run. -/
  | interrupted (interruption : Interruption)
  /-- The pattern of an exclusion goes beyond the bounds. -/
  | patternExcess (excess : Pattern.Excess)
  /-- A node that has to select something has no selection set. -/
  | missingSelections
  /-- A file is asked for by a path that holds a null character. -/
  | nullInPath
  deriving DecidableEq, Repr

/-- A computation that leaves a trace and may come to no result. -/
abbrev Run (α : Type) := ExceptT Failure (StateM Trace) α

namespace Run

/-- What a computation comes to after a trace, with the trace that it leaves. -/
def after {α : Type} (action : Run α) (trace : Trace) : Except Failure α × Trace :=
  action.run.run trace

def tell (event : Event) : Run Unit :=
  modify fun trace => { trace with events := event :: trace.events }

variable {α β : Type}

theorem ext {first second : Run α} (same : ∀ trace, first.after trace = second.after trace) :
    first = second := funext same

@[simp] theorem after_pure (value : α) (trace : Trace) :
    (pure value : Run α).after trace = (.ok value, trace) := rfl

@[simp] theorem after_throw (failure : Failure) (trace : Trace) :
    (throw failure : Run α).after trace = (.error failure, trace) := rfl

@[simp] theorem after_get (trace : Trace) :
    (get : Run Trace).after trace = (.ok trace, trace) := rfl

@[simp] theorem after_set (later trace : Trace) :
    (set later : Run PUnit).after trace = (.ok ⟨⟩, later) := rfl

@[simp] theorem after_tell (event : Event) (trace : Trace) :
    (tell event).after trace = (.ok (), { trace with events := event :: trace.events }) := rfl

@[simp] theorem after_mk (action : Trace → Except Failure α × Trace) (trace : Trace) :
    Run.after (ExceptT.mk action) trace = action trace := rfl

/-- A value is handed on to what follows, and a failure puts an end to it. -/
theorem after_bind (action : Run α) (next : α → Run β) (trace : Trace) :
    (action >>= next).after trace =
      match action.after trace with
      | (.ok value, left) => (next value).after left
      | (.error failure, left) => (.error failure, left) := by
  simp only [after, ExceptT.run_bind, StateT.run_bind]
  rcases StateT.run (ExceptT.run action) trace with ⟨_ | _, _⟩ <;> rfl

@[simp] theorem after_map (convert : α → β) (action : Run α) (trace : Trace) :
    (convert <$> action).after trace =
      ((action.after trace).1.map convert, (action.after trace).2) := by
  rw [map_eq_pure_bind, after_bind]
  rcases action.after trace with ⟨_ | _, _⟩ <;> rfl

theorem mapM_flatten_cons (action : α → Run (List β)) (first : α) (rest : List α) :
    (do return (← (first :: rest).mapM action).flatten : Run (List β)) =
      do
        let found ← action first
        let others ← (do return (← rest.mapM action).flatten)
        return found ++ others := by
  simp [List.mapM_cons]

end Run

end QueryDepth
