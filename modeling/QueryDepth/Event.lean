import QueryDepth.Pattern.Mistake

/-! What is worth telling about a run: events, each with a level, the name of the part of the
program that tells it, and a text. -/
namespace QueryDepth

/-- How much an event matters. -/
inductive Level where
  | debug
  | info
  | warning
  | error
  deriving DecidableEq, Repr

namespace Level

def name : Level → String
  | debug => "DEBUG"
  | info => "INFO"
  | warning => "WARNING"
  | error => "ERROR"

/-- The rank of a level. Levels that matter more have a higher rank. -/
def rank : Level → Nat
  | debug => 10
  | info => 20
  | warning => 30
  | error => 40

end Level

/-- What may happen on a run. -/
inductive Event where
  /-- An operation spreads a fragment that is not defined. -/
  | unknownFragment (fragment operation : String)
  /-- An operation spreads a fragment inside of itself. -/
  | fragmentCycle (fragment operation : String)
  /-- The pattern of an exclusion has a mistake. -/
  | invalidPattern (pattern : String) (mistake : Pattern.Mistake)
  /-- The predicate of an exclusion gives no answer for a field. -/
  | predicateFailed (field reason : String)
  /-- Operations of a document exceed the limit of a rule. -/
  | rejected (operations : List String) (limit : Nat)
  /-- A limit below zero is asked for. -/
  | negativeLimit (limit : Int)
  /-- A file cannot be read. -/
  | cannotRead (path reason : String)
  /-- A file does not hold a document. -/
  | cannotParse (path reason : String)
  deriving DecidableEq, Repr

namespace Event

def level : Event → Level
  | unknownFragment .. | fragmentCycle .. => .debug
  | rejected .. => .info
  | invalidPattern .. | predicateFailed .. => .warning
  | negativeLimit _ | cannotRead .. | cannotParse .. => .error

/-- The part of the program that tells an event. -/
def source : Event → String
  | unknownFragment .. | fragmentCycle .. => "graphql_depth_limit.walker"
  | invalidPattern .. | predicateFailed .. => "graphql_depth_limit.ignore"
  | rejected .. => "graphql_depth_limit.rule"
  | negativeLimit _ | cannotRead .. | cannotParse .. => "graphql_depth_limit"

def message : Event → String
  | unknownFragment fragment operation =>
    s!"Skipping unknown fragment {quoted fragment} in {quoted operation}"
  | fragmentCycle fragment operation =>
    s!"Fragment cycle through {quoted fragment} in {quoted operation}"
  | invalidPattern pattern mistake =>
    s!"Invalid ignore pattern {quoted pattern}, it will never match: " ++ mistake.message pattern
  | predicateFailed field reason =>
    s!"Ignore predicate failed for {quoted field}, counting the field: {reason}"
  | rejected operations limit =>
    s!"Rejected operations {quotedList operations}: maximum depth is {limit}"
  | negativeLimit limit => s!"--max-depth must be >= 0, got {limit}"
  | cannotRead path reason => s!"Cannot read {path}: {reason}"
  | cannotParse path reason => s!"Cannot parse {path}: {reason}"

end Event

end QueryDepth
