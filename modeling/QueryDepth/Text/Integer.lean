import QueryDepth.Text.Blank
import QueryDepth.Text.Digit

/-! Integers written as text. Digits may be parted by single underscores, a sign may stand in front,
and blanks may stand around. -/
namespace QueryDepth

namespace Integer

/-- The most digits that an integer may be written with. -/
def maximalDigits : Nat := 4300

/-- The digits of a text of ASCII digits with single underscores between them. `afterDigit` says
whether an underscore may come next. -/
def digits? (afterDigit : Bool) : List Char → Option (List Nat)
  | [] => if afterDigit then some [] else none
  | c :: rest =>
    if c = '_' then if afterDigit then digits? false rest else none
    else if c.isDigit then (digits? true rest).map ((c.toNat - '0'.toNat) :: ·)
    else none

def ofDigits (digits : List Nat) : Nat := digits.foldl (fun number digit => number * 10 + digit) 0

/-- The sign in front of a text, and what follows it. -/
def splitSign : List Char → Bool × List Char
  | '-' :: rest => (true, rest)
  | '+' :: rest => (false, rest)
  | text => (false, text)

def signed (negative : Bool) (number : Nat) : Int := if negative then -(number : Int) else number

/-- A text without the characters at both ends that satisfy a condition. -/
def trim (blank : Char → Bool) (text : List Char) : List Char :=
  ((text.dropWhile blank).reverse.dropWhile blank).reverse

/-- A text with blanks and decimal digits of all scripts replaced by those of ASCII. A text of ASCII
characters alone is left as it is. -/
def toAscii (text : List Char) : List Char :=
  if text.all fun c => c.toNat < 128 then text
  else text.map fun c =>
    if c.toNat < 127 then c
    else if isBlank c.toNat then ' '
    else match digitValue? c.toNat with
      | some digit => Char.ofNat ('0'.toNat + digit)
      | none => '?'

/-- The integer that a text stands for, in digits of any script. -/
def ofText? (text : List Char) : Option Int := do
  let (negative, rest) := splitSign (trim (fun c => isAsciiBlank c.toNat) (toAscii text))
  let digits ← digits? false rest
  if maximalDigits < digits.length then none else some (signed negative (ofDigits digits))

end Integer

end QueryDepth
