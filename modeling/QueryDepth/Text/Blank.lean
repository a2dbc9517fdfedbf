import QueryDepth.Text.CodePointSet

/-! White space, as the character database of Unicode 14 has it together with the separators among
the control characters. -/
namespace QueryDepth

/-- The code points of white space. -/
def blanks : CodePointSet := .mk
  [0x9, 0xe, 0x1c, 0x21, 0x85, 0x86, 0xa0, 0xa1, 0x1680, 0x1681, 0x2000, 0x200b, 0x2028, 0x202a,
   0x202f, 0x2030, 0x205f, 0x2060, 0x3000, 0x3001]

def isBlank (code : Nat) : Bool := blanks.contains code

/-- Whether a character is white space of ASCII: a tab, a line end of any kind or a space. -/
def isAsciiBlank (code : Nat) : Bool := (0x9 ≤ code && code ≤ 0xd) || code == 0x20

end QueryDepth
