import QueryDepth.Document.Grammar
import QueryDepth.Rule.Limiter

/-! Sessions: one use of the library after the other. Of a step nothing is kept for the next one but
the counters and the patterns that were used lately. A step first makes ready what it was given,
which may be refused before anything else happens, and is then carried out. -/
namespace QueryDepth.Session

/-- A document as it is handed over: a text to be read, or a tree built by hand. -/
inductive Source where
  | text (text : String)
  | tree (document : Document)

def Source.document : Source → Except SyntaxError Document
  | text written => Document.parse written
  | tree document => .ok document

/-- What a limiter is made from: arguments, or settings. -/
inductive LimiterSource where
  | given (limit : Option Int) (exclusion : Option Exclusion)
  | settings (environment : List (String × String)) (arguments : List (String × GivenValue))

/-- One use of the library. -/
inductive Step where
  /-- Fields are asked about one by one. -/
  | ignore (names : List String) (exclusion : Exclusion)
  /-- A document is indexed. -/
  | index (source : Source)
  /-- The violations of a document are wanted, without a check. -/
  | validate (source : Source) (limit : Int) (exclusion : Exclusion)
  /-- A rule is made, and a document checked by it. -/
  | rule (limit : Int) (exclusion : Exclusion) (source : Source)
  /-- A limiter is made, and perhaps a document checked by it. -/
  | limiter (origin : LimiterSource) (source : Option Source)
  /-- A check that was made elsewhere is counted, given the operation of each violation. -/
  | record (operations : List String)

/-- What a step comes to. -/
inductive Answer where
  | excluded (answers : List Bool)
  | index (index : DocumentIndex)
  | violations (found : List Violation)
  | report (report : Report)
  | limiter (limiter : Limiter) (report : Option Report)
  | recorded

/-- Why a step comes to nothing. -/
inductive Refusal where
  | negativeLimit (refused : NegativeLimit)
  | settings (faults : List SettingFault)
  | unparsable (problem : SyntaxError)
  /-- The step was begun, and failed. -/
  | failure (failure : Failure)

def Source.ready (source : Source) : Except Refusal Document :=
  source.document.mapError .unparsable

def LimiterSource.ready : LimiterSource → Except Refusal Limiter
  | given limit exclusion => (Limiter.make limit exclusion).mapError .negativeLimit
  | settings environment arguments =>
    ((Settings.read environment arguments).map Limiter.ofSettings).mapError .settings

namespace Step

/-- What a step does once everything that it was given is ready. -/
def ready : Step → Except Refusal (Run Answer)
  | ignore names exclusion => return .excluded <$> names.mapM exclusion.excludes
  | index source => do
    let document ← source.ready
    return pure (.index document.index)
  | validate source limit exclusion => do
    let document ← source.ready
    return .violations <$> document.violations limit exclusion
  | rule limit exclusion source => do
    let rule ← (DepthRule.make limit exclusion).mapError .negativeLimit
    let document ← source.ready
    return .report <$> rule.check document
  | limiter origin none => do
    let limiter ← origin.ready
    return pure (.limiter limiter none)
  | limiter origin (some source) => do
    let limiter ← origin.ready
    let document ← source.ready
    return (fun report => .limiter limiter (some report)) <$> limiter.check document
  | record operations => return (do Run.count operations; return .recorded)

def perform (step : Step) (trace : Trace) : Except Refusal Answer × Trace :=
  match step.ready with
  | .error refusal => (.error refusal, trace)
  | .ok action => ((action.after trace).1.mapError .failure, (action.after trace).2)

end Step

/-- What is seen of a step: what it comes to, the questions that it puts to a predicate, and the
events that it tells. -/
structure Reply where
  outcome : Except Refusal Answer
  questions : List String
  log : List Event

/-- What is seen of a step, given what was kept of earlier ones. -/
def Step.reply (step : Step) (kept : Trace) : Reply :=
  ⟨(step.perform kept).1, (step.perform kept).2.questions, (step.perform kept).2.log⟩

/-- What is kept for later steps. -/
def Step.handsOn (step : Step) (kept : Trace) : Trace := (step.perform kept).2.kept

def handedOn (steps : List Step) (kept : Trace) : Trace :=
  steps.foldl (fun kept step => step.handsOn kept) kept

end QueryDepth.Session
