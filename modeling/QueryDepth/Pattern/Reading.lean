import QueryDepth.Pattern.Basic
import QueryDepth.Pattern.Flag
import QueryDepth.Pattern.Mistake

/-! Reading the text of a pattern. A backslash and the character after it are read as one, and a
backslash with nothing after it is refused as soon as it comes into view. -/
namespace QueryDepth.Pattern

/-- What is read at a time. -/
inductive Token where
  | plain (c : Char)
  | escaped (c : Char)
  deriving DecidableEq, Repr

namespace Token

def text : Token → String
  | plain c => c.toString
  | escaped c => String.ofList ['\\', c]

def length : Token → Nat
  | plain _ => 1
  | escaped _ => 2

end Token

/-- A part of a pattern. A group that only holds parts together is kept as the parts that it
holds, so that it can be repeated as a whole. -/
inductive Part where
  | single (pattern : Pattern)
  | held (patterns : List Pattern)

/-- The patterns that a part contributes. -/
def Part.patterns : Part → List Pattern
  | single pattern => [pattern]
  | held patterns => patterns

/-- What a pair of parentheses is for. -/
inductive GroupKind where
  /-- No parentheses at all: the whole pattern. -/
  | whole
  /-- Holds parts together. -/
  | plain
  /-- Changes the flags for what it holds. -/
  | flagged
  /-- Keeps what it matches under a number. -/
  | capture (index : Nat)
  /-- Matches in one way only. -/
  | atomic
  /-- Looks ahead or behind. `outerBound` is the bound on references that held outside. -/
  | look (behind negated : Bool) (outerBound : Option Nat)
  /-- Chooses by whether a group has matched. -/
  | conditional (index : Nat)
  deriving DecidableEq, Repr

/-- A group whose closing parenthesis has not been read yet. `branches` are the alternatives that
are complete and `parts` those of the current one, both latest first. -/
structure OpenGroup where
  kind : GroupKind
  start : Nat
  flags : Flags
  branches : List (List Pattern)
  parts : List Part

/-- A pattern being read. `groups` holds a width for every group that is closed, and nothing for
those that are open. Inside a lookbehind, `referenceBound` is the number of groups that may be
referred to. `pending` holds the conditional references whose groups may come later, with their
positions. -/
structure Reading where
  ahead : List Char
  position : Nat
  groups : List (Option Width)
  names : List (String × Nat)
  referenceBound : Option Nat
  pending : List (Nat × Nat)
  current : OpenGroup
  outer : List OpenGroup

/-- A computation that reads the text of a pattern and may refuse it. -/
abbrev Parse (α : Type) := StateT Reading (Except Refusal) α

namespace Parse

def failAt {α : Type} (position : Nat) (problem : Problem) : Parse α :=
  throw (.mistaken ⟨problem, some position⟩)

/-- The position in front of the next token. -/
def position : Parse Nat := do return (← get).position

/-- Refuses the pattern for a problem that begins some characters before the next token. -/
def fail {α : Type} (problem : Problem) (back : Nat) : Parse α := do
  failAt ((← position) - back) problem

/-- The first token of a text. -/
def firstToken? : List Char → Option Token
  | '\\' :: c :: _ => some (.escaped c)
  | c :: _ => some (.plain c)
  | [] => none

def next? : Parse (Option Token) := do return firstToken? (← get).ahead

/-- Goes on with a text that begins at a position. -/
def arrive (ahead : List Char) (position : Nat) : Parse Unit := do
  if ahead = ['\\'] then failAt position .danglingBackslash
  modify fun reading => { reading with ahead, position }

def advance : Parse Unit := do
  let reading ← get
  match reading.ahead with
  | [] => return
  | '\\' :: _ :: rest => arrive rest (reading.position + 2)
  | _ :: rest => arrive rest (reading.position + 1)

/-- Passes the next token and returns it. -/
def take? : Parse (Option Token) := do
  let token ← next?
  advance
  return token

def sees (c : Char) : Parse Bool := do return (← next?) == some (.plain c)

def skip (c : Char) : Parse Bool := do
  if ← sees c then
    advance
    return true
  return false

/-- Passes up to `count` characters that satisfy a condition and returns them. -/
def takeWhile (allowed : Char → Bool) : Nat → Parse (List Char)
  | 0 => return []
  | count + 1 => do
    match ← next? with
    | some (.plain c) =>
      if allowed c then
        advance
        return c :: (← takeWhile allowed count)
      return []
    | _ => return []

/-- Repeats a step until it has a result, at most a given number of times. -/
def iterate {σ α : Type} (step : σ → Parse (σ ⊕ α)) : Nat → σ → Parse α
  | 0, _ => fail .unexpectedEnd 0
  | count + 1, state => do
    match ← step state with
    | .inl state => iterate step count state
    | .inr result => return result

/-- Repeats a step until it has a result. Each step but the last has to pass at least one token, so
there are at most as many steps as characters and one more for the end. -/
def loop {σ α : Type} (step : σ → Parse (σ ⊕ α)) (state : σ) : Parse α := do
  iterate step ((← get).ahead.length + 1) state

/-- The characters of a number as far as they go. -/
def digits : Parse (List Char) := do takeWhile Char.isDigit (← get).ahead.length

/-- A name up to a character that ends it, which is passed. -/
def nameUntil (terminator : Char) (what : String) : Parse String :=
  loop (fun (name : String) => do
    match ← take? with
    | none =>
      if name.isEmpty then fail (.missing what) 0
      else fail (.unterminatedName terminator) name.length
    | some token =>
      if token = .plain terminator then
        if name.isEmpty then fail (.missing what) 1
        return .inr name
      return .inl (name ++ token.text)) ""

def flags : Parse Flags := do return (← get).current.flags

/-- Adds a part to the current alternative. -/
def add (part : Part) : Parse Unit :=
  modify fun reading =>
    { reading with current := { reading.current with parts := part :: reading.current.parts } }

end Parse

end QueryDepth.Pattern
