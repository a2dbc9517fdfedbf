/-! Names of characters whose code points follow one another. Names are made of parts, which are
words with the blank or hyphen in front of them, and neighbours share many. So every name is written
with the parts that the name before does not have in the same place. -/
namespace QueryDepth

/-- How a name differs from the one before: it has `front` parts in common with its beginning and
`back` parts with its end, and `own` stands between them. -/
structure Spelling where
  front : Nat
  own : List Char
  back : Nat
  deriving DecidableEq, Repr

namespace Spelling

/-- Adds a character in front of what is written. A letter up to `m` opens a name and counts the
parts in front, from none on, and a letter behind it counts those at the end, from one on. -/
def extend (c : Char) : Spelling × List Spelling → Spelling × List Spelling
  | (begun, later) =>
    if 'a' ≤ c ∧ c ≤ 'm' then
      (⟨0, [], 0⟩, { begun with front := c.toNat - 'a'.toNat } :: later)
    else if 'n' ≤ c ∧ c ≤ 'z' then ({ begun with back := c.toNat - 'm'.toNat }, later)
    else ({ begun with own := c :: begun.own }, later)

/-- The names that are written in a line, one behind the other. -/
def readAll (written : List Char) : List Spelling :=
  (written.foldr extend (⟨0, [], 0⟩, [])).2

def parts (text : List Char) : List (List Char) :=
  let (first, others) := text.foldr (fun c (part, later) =>
    if c = ' ' ∨ c = '-' then ([], (c :: part) :: later) else (c :: part, later)) ([], [])
  if first.isEmpty then others else first :: others

/-- The parts of a name, given those of the name before. -/
def after (before : List (List Char)) (spelling : Spelling) : List (List Char) :=
  before.take spelling.front ++ parts spelling.own ++
    before.drop (before.length - spelling.back)

/-- The names that spellings stand for, given the parts of the name before them. -/
def names (before : List (List Char)) : List Spelling → List String
  | [] => []
  | spelling :: rest =>
    let name := spelling.after before
    String.ofList name.flatten :: names name rest

end Spelling

/-- The names of the characters from a code point on, the first of which is written out. -/
structure NamedRun where
  first : Nat
  lines : List String

namespace NamedRun

def names (run : NamedRun) : List String :=
  Spelling.names [] (run.lines.flatMap fun line => Spelling.readAll line.toList)

def find? (run : NamedRun) (name : String) : Option Nat :=
  (run.names.findIdx? (· == name)).map (run.first + ·)

example : names ⟨0x1f434, ["aHORSE FACEaMONKEYnaDOGn", "aPIGnb NOSE"]⟩ =
    ["HORSE FACE", "MONKEY FACE", "DOG FACE", "PIG FACE", "PIG NOSE"] := by decide +kernel

end NamedRun

end QueryDepth
