import QueryDepth.Pattern.Reading
import QueryDepth.Text.CharacterName
import QueryDepth.Text.LetterCase

/-! Escapes in patterns: a backslash and a character, which may call for more characters. -/
namespace QueryDepth.Pattern

namespace Escape

def control? : Char → Option Nat
  | 'a' => some 0x7
  | 'f' => some 0xc
  | 'n' => some 0xa
  | 'r' => some 0xd
  | 't' => some 0x9
  | 'v' => some 0xb
  | '\\' => some 0x5c
  | _ => none

/-- The category that has an escape, and whether it is left out. -/
def category? : Char → Option (Category × Bool)
  | 'd' => some (.digit, false)
  | 'D' => some (.digit, true)
  | 's' => some (.blank, false)
  | 'S' => some (.blank, true)
  | 'w' => some (.word, false)
  | 'W' => some (.word, true)
  | _ => none

def anchor? (ascii : Bool) : Char → Option Anchor
  | 'A' => some .textBeginning
  | 'Z' => some .textEnding
  | 'b' => some (.wordEdge false ascii)
  | 'B' => some (.wordEdge true ascii)
  | _ => none

def isOctal (c : Char) : Bool := '0' ≤ c && c ≤ '7'

def isHexadecimal (c : Char) : Bool :=
  c.isDigit || ('a' ≤ c && c ≤ 'f') || ('A' ≤ c && c ≤ 'F')

/-- The value of a digit to a base of at most sixteen. -/
def digitValue (c : Char) : Nat :=
  if c.isDigit then c.toNat - '0'.toNat
  else if 'a' ≤ c then c.toNat - 'a'.toNat + 10
  else c.toNat - 'A'.toNat + 10

/-- The number that digits to a base stand for. -/
def ofDigits (base : Nat) (digits : List Char) : Nat :=
  digits.foldl (fun number c => number * base + digitValue c) 0

/-- An escape as it is written: a backslash and the characters after it. -/
def written (characters : List Char) : String := String.ofList ('\\' :: characters)

def lastCodePoint : Nat := 0x10ffff

def lastOctal : Nat := 0o377

/-- Refuses an escape that means nothing. -/
def bad {α : Type} (characters : List Char) : Parse α :=
  Parse.fail (.badEscape (written characters)) (characters.length + 1)

/-- A code point given by as many hexadecimal digits as `width` says. -/
def hexadecimal (letter : Char) (width : Nat) : Parse Nat := do
  let digits ← Parse.takeWhile isHexadecimal width
  let characters := letter :: digits
  if digits.length < width then
    Parse.fail (.incompleteEscape (written characters)) (characters.length + 1)
  let code := ofDigits 16 digits
  if lastCodePoint < code then bad characters
  return code

def named : Parse Nat := do
  if !(← Parse.skip '{') then Parse.fail .missingBrace 0
  let name ← Parse.nameUntil '}' "character name"
  match codePointNamed? name with
  | some code => return code
  | none => Parse.fail (.undefinedCharacterName name) (name.length + 4)

def octal (digits : List Char) : Parse Nat := do
  let code := ofDigits 8 digits
  if lastOctal < code then
    Parse.fail (.octalTooLarge (written digits)) (digits.length + 1)
  return code

/-- A character that is given by a number or a name, or that stands for itself. -/
def character (c : Char) : Parse Nat := do
  match c with
  | 'x' => hexadecimal c 2
  | 'u' => hexadecimal c 4
  | 'U' => hexadecimal c 8
  | 'N' => named
  | _ => if isAsciiLetter c.toNat || c.isDigit then bad [c] else return c.toNat

/-- What an escape in a character class stands for. -/
def inClass (c : Char) : Parse ClassItem := do
  if c = 'b' then return .single 0x8
  if let some code := control? c then return .single code
  if let some (kind, negated) := category? c then return .category kind negated
  if isOctal c then
    let more ← Parse.takeWhile isOctal 2
    return .single (← octal (c :: more))
  return .single (← character c)

end Escape

/-- What the flags in force make of the case of letters. -/
def Flags.casing (flags : Flags) : Casing :=
  if flags.contains .ignoreCase then if flags.contains .ascii then .ascii else .unicode
  else .exact

/-- Whether the flags in force restrict categories to ASCII. -/
def Flags.isAscii (flags : Flags) : Bool := flags.contains .ascii

namespace Parse

/-- Whether a group may be referred to: it has to be closed, and a lookbehind does not refer to
groups of its own. Problems are placed `back` characters before the next token. -/
def checkLookbehind (index : Nat) : Parse Unit := do
  let reading ← get
  if let some bound := reading.referenceBound then
    if (reading.groups[index - 1]?).join.isNone then fail .openGroup 0
    if bound < index then fail .groupOfSameLookbehind 0

/-- A reference to a group by its number, written with some digits. -/
def numberedReference (digits : List Char) : Parse Pattern := do
  let index := Escape.ofDigits 10 digits
  match (← get).groups[index - 1]? with
  | none => fail (.invalidReference index) digits.length
  | some none => fail .openGroup (digits.length + 1)
  | some (some _) =>
    checkLookbehind index
    return .reference index (← flags).casing

/-- What an escape that begins with a digit other than zero stands for: a code point given by three
octal digits, or else a reference. -/
def numberedEscape (first : Char) : Parse Pattern := do
  match ← next? with
  | some (.plain second) =>
    if second.isDigit then
      advance
      if Escape.isOctal first && Escape.isOctal second then
        if let some (.plain third) ← next? then
          if Escape.isOctal third then
            advance
            return .literal (← Escape.octal [first, second, third]) (← flags).casing
      numberedReference [first, second]
    else numberedReference [first]
  | _ => numberedReference [first]

/-- What an escape outside of character classes stands for. -/
def escape (c : Char) : Parse Pattern := do
  let flags ← flags
  if let some place := Escape.anchor? flags.isAscii c then return .anchor place
  if let some (kind, negated) := Escape.category? c then
    return .oneOf ⟨[.category kind negated], false, flags.casing, flags.isAscii⟩
  if let some code := Escape.control? c then return .literal code flags.casing
  if c = '0' then
    let more ← takeWhile Escape.isOctal 2
    return .literal (Escape.ofDigits 8 more) flags.casing
  if c.isDigit then numberedEscape c
  else return .literal (← Escape.character c) flags.casing

end Parse

end QueryDepth.Pattern
