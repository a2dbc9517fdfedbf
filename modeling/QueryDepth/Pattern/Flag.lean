/-! Flags that a pattern sets for itself or for one of its groups. -/
namespace QueryDepth.Pattern

/-- What a pattern may ask for. -/
inductive Flag where
  /-- Categories hold characters of ASCII alone. -/
  | ascii
  /-- Categories hold characters of all scripts. -/
  | unicode
  /-- Categories depend on where the pattern is used. -/
  | locale
  /-- The case of letters is ignored. -/
  | ignoreCase
  /-- Anchors hold at every line. -/
  | lines
  /-- The dot matches line feeds. -/
  | dotAll
  /-- Blanks and comments between the parts of the pattern are left out. -/
  | verbose
  /-- Repetitions are not allowed. -/
  | template
  deriving DecidableEq, Repr

namespace Flag

def ofLetter? : Char → Option Flag
  | 'a' => some ascii
  | 'u' => some unicode
  | 'L' => some locale
  | 'i' => some ignoreCase
  | 'm' => some lines
  | 's' => some dotAll
  | 'x' => some verbose
  | 't' => some template
  | _ => none

/-- Whether a flag says which characters categories hold. At most one of these may be set. -/
def isType : Flag → Bool
  | ascii | unicode | locale => true
  | ignoreCase | lines | dotAll | verbose | template => false

end Flag

/-- The flags in force. -/
abbrev Flags := List Flag

namespace Flags

/-- The flags in force after some are turned on and some are turned off. -/
def change (flags added removed : Flags) : Flags :=
  let kept := if added.any (·.isType) then flags.filter (!·.isType) else flags
  (kept ++ added).filter (!removed.contains ·)

end Flags

end QueryDepth.Pattern
