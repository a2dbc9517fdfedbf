import QueryDepth.Pattern.Reading

/-! Quantifiers: how often the part in front of them is repeated. -/
namespace QueryDepth.Pattern

def repetitionBound : Nat := 4294967295

def maximalCountDigits : Nat := 4300

namespace Parse

/-- The number of repetitions that digits stand for. Without digits there is none. -/
def repetitionCount (digits : List Char) : Parse (Option Nat) := do
  if digits.isEmpty then return none
  if maximalCountDigits < digits.length then throw (.excessive (.tooManyDigits digits.length))
  let count := digits.foldl (fun number c => number * 10 + (c.toNat - '0'.toNat)) 0
  if repetitionBound ≤ count then throw (.excessive .tooManyRepetitions)
  return some count

/-- The bounds in braces, the opening one having been passed. Braces that hold no bounds are no
quantifier, and nothing is passed then. -/
def bounds? : Parse (Option (Nat × Option Nat)) := do
  let opened ← get
  if ← sees '}' then return none
  let least ← digits
  let most ← if ← skip ',' then digits else pure least
  if !(← skip '}') then
    set opened
    return none
  let least ← repetitionCount least
  let most ← repetitionCount most
  if let (some least, some most) := (least, most) then
    if most < least then failAt opened.position .leastAboveMost
  return some (least.getD 0, most)

/-- Repeats the part that was read last. `start` is where the quantifier begins. -/
def repeatLast (start least : Nat) (most : Option Nat) : Parse Unit := do
  let reading ← get
  let body : Pattern ← match reading.current.parts with
    | [] | .single (.anchor _) :: _ => failAt start .nothingToRepeat
    | .single (.repetition ..) :: _ => failAt start .multipleRepeat
    | part :: _ => pure (ofList part.patterns)
  let mode : Mode ← do
    if ← skip '?' then pure .lazy else if ← skip '+' then pure .possessive else pure .greedy
  modify fun reading =>
    { reading with current := { reading.current with
      parts := .single (.repetition mode least most body) :: reading.current.parts.tail } }

end Parse

end QueryDepth.Pattern
