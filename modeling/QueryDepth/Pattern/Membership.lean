import QueryDepth.Pattern.Basic
import QueryDepth.Text.Blank
import QueryDepth.Text.Digit
import QueryDepth.Text.Letter
import QueryDepth.Text.LetterCase

/-! Which characters belong to a literal or to a character class. Where case is ignored, a character
is put into lower case and compared with what the literal or class holds in lower case. -/
namespace QueryDepth.Pattern

/-- The code points of the basic plane are those up to this one. -/
def lastOfBasicPlane : Nat := 0xffff

namespace Casing

/-- The form in which characters are compared. -/
def lower (casing : Casing) (code : Nat) : Nat :=
  match casing with
  | exact => code
  | ascii => asciiLowerCase code
  | unicode => lowerCase code

/-- Whether another character may be the same one in another case. -/
def hasCases (casing : Casing) (code : Nat) : Bool :=
  match casing with
  | exact => false
  | ascii => isAsciiLetter code
  | unicode => isCased code

/-- Whether this holds of a code point between two others. -/
def anyHasCases (casing : Casing) (low high : Nat) : Bool :=
  match casing with
  | exact => false
  | ascii => (low ≤ 0x5a && 0x41 ≤ high) || (low ≤ 0x7a && 0x61 ≤ high)
  | unicode => anyCased low high

/-- The forms that count as the same as a given one, itself included. -/
def forms (casing : Casing) (form : Nat) : List Nat :=
  match casing with
  | exact | ascii => [form]
  | unicode => form :: siblings form

/-- The code points whose form is a given one. -/
def sources (casing : Casing) (form : Nat) : List Nat :=
  match casing with
  | exact => [form]
  | ascii => if 0x61 ≤ form ∧ form ≤ 0x7a then [form, form - 0x20] else [form]
  | unicode => withLowerCase form

def same (casing : Casing) (code character : Nat) : Bool :=
  if casing.hasCases code then (casing.forms (casing.lower code)).contains (casing.lower character)
  else character == code

end Casing

namespace Category

def holds (ascii : Bool) (code : Nat) : Category → Bool
  | digit => if ascii then 0x30 ≤ code && code ≤ 0x39 else isDecimalDigit code
  | blank => if ascii then isAsciiBlank code else isBlank code
  | word =>
    if ascii then isAsciiLetter code || (0x30 ≤ code && code ≤ 0x39) || code == 0x5f
    else isWordCharacter code

end Category

namespace ClassItem

def holds (ascii : Bool) (code : Nat) : ClassItem → Bool
  | single member => code == member
  | span first last => first ≤ code && code ≤ last
  | category kind negated => kind.holds ascii code != negated

/-- Whether an item makes the case of characters matter. Beyond the basic plane it always does. -/
def hasCases (casing : Casing) : ClassItem → Bool
  | single member => lastOfBasicPlane < member || casing.hasCases member
  | span first last => lastOfBasicPlane < last || casing.anyHasCases first last
  | category .. => false

/-- Whether an item holds a character given by its form. Beyond the basic plane a single character
is compared as it stands, and a span holds what it holds in either case. -/
def holdsForm (casing : Casing) (ascii : Bool) (form : Nat) : ClassItem → Bool
  | single member =>
    if lastOfBasicPlane < member then form == member
    else (casing.forms (casing.lower member)).contains form
  | span first last =>
    let near := fun code => first ≤ code && code ≤ min last lastOfBasicPlane
    let far := fun code => first ≤ code && code ≤ last && lastOfBasicPlane < last
    (casing.forms form).any (fun other => (casing.sources other).any near) ||
      far form || far (upperCase form)
  | category kind negated => kind.holds ascii form != negated

end ClassItem

namespace CharacterClass

/-- Whether the case of characters matters to a class. -/
def hasCases (members : CharacterClass) : Bool :=
  members.casing != .exact && members.items.any (·.hasCases members.casing)

def holds (members : CharacterClass) (code : Nat) : Bool :=
  (if members.hasCases then
    members.items.any (·.holdsForm members.casing members.ascii (members.casing.lower code))
  else members.items.any (·.holds members.ascii code)) != members.negated

end CharacterClass

end QueryDepth.Pattern
