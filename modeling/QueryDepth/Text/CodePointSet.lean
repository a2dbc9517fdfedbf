/-! Sets of code points that are known by a table. A set is given by the code points at which
membership changes, in rising order, so a run of neighbours costs two entries. -/
namespace QueryDepth

/-- A set of code points. The first change is where the first run begins, the second where it is
over, and so on. -/
structure CodePointSet where
  changes : List Nat

namespace CodePointSet

/-- Whether a code point is inside, given the changes ahead and whether one is inside before them.
-/
def insideAfter (code : Nat) (inside : Bool) : List Nat → Bool
  | [] => inside
  | change :: rest => if code < change then inside else insideAfter code (!inside) rest

def contains (set : CodePointSet) (code : Nat) : Bool := insideAfter code false set.changes

end CodePointSet

end QueryDepth
