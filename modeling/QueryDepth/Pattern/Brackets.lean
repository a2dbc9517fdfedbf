import QueryDepth.Pattern.Escape

/-! Character classes as they are written, in brackets. -/
namespace QueryDepth.Pattern

namespace Parse

/-- What a token stands for inside of brackets. -/
def classItem : Token → Parse ClassItem
  | .escaped c => Escape.inClass c
  | .plain c => return .single c.toNat

/-- The span between two tokens. -/
def classSpan (first last : Token) (low : ClassItem) : Parse ClassItem := do
  let high ← classItem last
  let bad : Parse ClassItem :=
    fail (.badRange first.text last.text) (first.length + 1 + last.length)
  match low, high with
  | .single low, .single high => if high < low then bad else return .span low high
  | _, _ => bad

/-- Reads one item or the closing bracket. `items` holds what was read before, latest first, and
`start` is where the opening bracket stands. -/
def classStep (start : Nat) (items : List ClassItem) :
    Parse (List ClassItem ⊕ List ClassItem) := do
  match ← take? with
  | none => failAt start .unterminatedClass
  | some first =>
    if first = .plain ']' && !items.isEmpty then return .inr items.reverse
    let low ← classItem first
    if ← skip '-' then
      match ← take? with
      | none => failAt start .unterminatedClass
      | some last =>
        if last = .plain ']' then return .inr (.single '-'.toNat :: low :: items).reverse
        return .inl ((← classSpan first last low) :: items)
    return .inl (low :: items)

end Parse

/-- The pattern for a class with the given items. A class of one character is that character. -/
def ofClass (flags : Flags) (negated : Bool) (items : List ClassItem) : Pattern :=
  match items, negated with
  | [.single code], false => .literal code flags.casing
  | [.single code], true => .otherThan code flags.casing
  | items, negated => .oneOf ⟨items, negated, flags.casing, flags.isAscii⟩

/-- Reads a class whose opening bracket has been passed. -/
def Parse.brackets (start : Nat) : Parse Pattern := do
  let negated ← skip '^'
  let items ← loop (classStep start) []
  return ofClass (← flags) negated items.eraseDups

end QueryDepth.Pattern
