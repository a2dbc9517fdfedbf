import QueryDepth.Document.Basic

/-! Violations: nodes that stand deeper in an operation than a limit allows. -/
namespace QueryDepth

/-- An operation exceeds a limit at a node. -/
structure Violation where
  operation : String
  limit : Int
  node : Node
  deriving BEq, Repr

namespace Violation

def message (violation : Violation) : String :=
  s!"Operation '{violation.operation}' exceeds maximum operation depth of {violation.limit}"

/-- Where the node of a violation begins, if that is known. -/
def location (violation : Violation) : Option Location := violation.node.location

/-- Where a violation is shown to be. Without a location it is the first place of the text. -/
def shownLocation (violation : Violation) : Location := violation.location.getD .start

end Violation

end QueryDepth
