import QueryDepth.Text.Printable

/-! Texts in quotes, for messages and for rules shown as text. Single quotes are used unless the
text holds one and no double quote. Backslashes and the quote in use are escaped, and so is all
that cannot be shown as it is. -/
namespace QueryDepth

namespace Quoted

/-- A code point in hexadecimal over a fixed number of digits. -/
def hexadecimal (width code : Nat) : List Char :=
  let digits := Nat.toDigits 16 code
  List.replicate (width - digits.length) '0' ++ digits

/-- One character of a quoted text. -/
def character (quote c : Char) : List Char :=
  if c = quote ∨ c = '\\' then ['\\', c]
  else if c = '\n' then ['\\', 'n']
  else if c = '\r' then ['\\', 'r']
  else if c = '\t' then ['\\', 't']
  else if isPrintable c.toNat then [c]
  else if c.toNat < 0x100 then '\\' :: 'x' :: hexadecimal 2 c.toNat
  else if c.toNat < 0x10000 then '\\' :: 'u' :: hexadecimal 4 c.toNat
  else '\\' :: 'U' :: hexadecimal 8 c.toNat

/-- The quote in which a text is put. -/
def quoteFor (text : List Char) : Char :=
  if text.contains '\'' && !text.contains '\x22' then '\x22' else '\''

end Quoted

def quoted (text : String) : String :=
  let quote := Quoted.quoteFor text.toList
  String.ofList (quote :: text.toList.flatMap (Quoted.character quote) ++ [quote])

def quotedList (texts : List String) : String := "[" ++ ", ".intercalate (texts.map quoted) ++ "]"

end QueryDepth
