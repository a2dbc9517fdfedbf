/-! Patterns for names. A pattern is a tree in which flags are already taken into account: each part
says by itself how it treats the case of letters and which characters its classes hold. -/
namespace QueryDepth

namespace Pattern

/-- How letters of different case are compared. -/
inductive Casing where
  /-- Every character stands for itself. -/
  | exact
  /-- The two cases of the letters of ASCII are the same. -/
  | ascii
  /-- The cases of all letters are the same. -/
  | unicode
  deriving DecidableEq, Repr

/-- The kinds of characters that have an escape of their own. -/
inductive Category where
  | digit
  | blank
  | word
  deriving DecidableEq, Repr

/-- What may stand in a character class. -/
inductive ClassItem where
  | single (code : Nat)
  | span (first last : Nat)
  | category (category : Category) (negated : Bool)
  deriving DecidableEq, Repr

/-- A set of characters. Where `ascii` is set, the categories hold characters of ASCII alone. -/
structure CharacterClass where
  items : List ClassItem
  negated : Bool
  casing : Casing
  ascii : Bool
  deriving DecidableEq, Repr

/-- Conditions on a place in a text. -/
inductive Anchor where
  /-- The beginning of the text, or of a line where `lines` is set. -/
  | beginning (lines : Bool)
  /-- The end of the text or of its last line, or of any line where `lines` is set. -/
  | ending (lines : Bool)
  /-- The beginning of the text. -/
  | textBeginning
  /-- The end of the text. -/
  | textEnding
  /-- A place between a word character and another one, or a place that is none where `inside` is
  set. -/
  | wordEdge (inside : Bool) (ascii : Bool)
  deriving DecidableEq, Repr

/-- The order in which numbers of repetitions are tried. -/
inductive Mode where
  /-- As many as possible first. -/
  | greedy
  /-- As few as possible first. -/
  | lazy
  /-- As many as possible and no other number. -/
  | possessive
  deriving DecidableEq, Repr

/-- The least and the largest number of characters that a pattern matches. -/
structure Width where
  least : Nat
  most : Nat
  deriving DecidableEq, Repr

end Pattern

open Pattern in
inductive Pattern where
  /-- Matches the empty text. -/
  | empty
  /-- Matches one character. -/
  | literal (code : Nat) (casing : Casing)
  /-- Matches all characters but one. -/
  | otherThan (code : Nat) (casing : Casing)
  /-- Matches any character, a line feed only where `lineFeeds` is set. -/
  | any (lineFeeds : Bool)
  /-- Matches a character of a class. -/
  | oneOf (members : CharacterClass)
  /-- Matches the empty text at certain places. -/
  | anchor (place : Anchor)
  /-- Matches one pattern and then another. -/
  | seq (first rest : Pattern)
  /-- Matches either of two patterns. -/
  | alt (first rest : Pattern)
  /-- A pattern in parentheses, whose match is kept if the group has a number. -/
  | group (index : Option Nat) (body : Pattern)
  /-- A pattern several times over. -/
  | repetition (mode : Mode) (least : Nat) (most : Option Nat) (body : Pattern)
  /-- A pattern of which only the first match counts. -/
  | atomic (body : Pattern)
  /-- Whether a pattern matches here or, where a width is given, that many characters before. -/
  | look (behind : Option Width) (negated : Bool) (body : Pattern)
  /-- Matches what a group has matched. -/
  | reference (index : Nat) (casing : Casing)
  /-- Matches one of two patterns, the first if a group has matched. -/
  | conditional (index : Nat) (present absent : Pattern)
  deriving DecidableEq, Repr

namespace Pattern

/-- Patterns one after the other. -/
def ofList : List Pattern → Pattern
  | [] => empty
  | [only] => only
  | first :: rest => seq first (ofList rest)

/-- Patterns to choose from, in the order in which they are tried. -/
def ofBranches : List Pattern → Pattern
  | [] => empty
  | [only] => only
  | first :: rest => alt first (ofBranches rest)

namespace Width

/-- Widths do not grow beyond this bound. -/
def bound : Nat := Nat.pow 2 64

def zero : Width := ⟨0, 0⟩

def one : Width := ⟨1, 1⟩

def append (first rest : Width) : Width :=
  ⟨min (first.least + rest.least) bound, min (first.most + rest.most) bound⟩

def either (first rest : Width) : Width := ⟨min first.least rest.least, max first.most rest.most⟩

/-- The width of a pattern several times over. -/
def times (width : Width) (least : Nat) (most : Option Nat) : Width :=
  ⟨min (width.least * least) bound,
    match most with
    | some most => min (width.most * most) bound
    | none => if width.most = 0 then 0 else bound⟩

end Width

/-- The width of a pattern, given the widths of the groups that it may refer to. -/
def width (groups : List (Option Width)) : Pattern → Width
  | empty | anchor _ | look .. => .zero
  | literal .. | otherThan .. | any _ | oneOf _ => .one
  | seq first rest => (first.width groups).append (rest.width groups)
  | alt first rest => (first.width groups).either (rest.width groups)
  | group _ body | atomic body => body.width groups
  | repetition _ least most body => (body.width groups).times least most
  | reference index _ => ((groups[index - 1]?).join).getD .zero
  | conditional _ present absent => (present.width groups).either (absent.width groups)

end Pattern

end QueryDepth
