import QueryDepth.Pattern.Brackets
import QueryDepth.Pattern.Group
import QueryDepth.Pattern.Membership
import QueryDepth.Pattern.Quantifier

/-! From the text of a pattern to a pattern that can be searched for. Groups that are open are
kept on a stack, so that reading a pattern is one step after the other, each of which passes
something. -/
namespace QueryDepth

namespace Pattern

namespace Parse

/-- Whether a character is left out between the parts of a verbose pattern. -/
def isLayout (c : Char) : Bool := isAsciiBlank c.toNat

/-- Passes a comment up to the end of its line. -/
def lineComment : Parse Unit :=
  loop (fun _ => do
    match ← take? with
    | none => return .inr ()
    | some token => return if token = .plain '\n' then .inr () else .inl ()) ()

/-- Reads one part, one quantifier or one parenthesis. The token that begins it is given with its
position, and has been passed. -/
def part (start : Nat) (token : Token) : Parse Unit := do
  let flags ← flags
  match token with
  | .escaped c => add (.single (← escape c))
  | .plain c =>
    if flags.contains .verbose && isLayout c then return
    if flags.contains .verbose && c = '#' then lineComment
    else match c with
      | '[' => add (.single (← brackets start))
      | '*' => repeatLast start 0 none
      | '+' => repeatLast start 1 none
      | '?' => repeatLast start 0 (some 1)
      | '{' =>
        match ← bounds? with
        | some (least, most) => repeatLast start least most
        | none => add (.single (.literal c.toNat flags.casing))
      | '.' => add (.single (.any (flags.contains .dotAll)))
      | '(' => openParenthesis start
      | '^' => add (.single (.anchor (.beginning (flags.contains .lines))))
      | '$' => add (.single (.anchor (.ending (flags.contains .lines))))
      | _ => add (.single (.literal c.toNat flags.casing))

/-- Reads on by one step. -/
def step : Parse Unit := do
  if ← sees '|' then nextBranch
  else
    let start ← position
    match ← take? with
    | none => return
    | some (.plain ')') => closeGroup
    | some token => part start token

/-- Whether reading is over: the text has come to its end, or a parenthesis closes no group. -/
def isOver (reading : Reading) : Bool :=
  match firstToken? reading.ahead with
  | none => true
  | some token => token = .plain ')' && reading.outer.isEmpty

/-- Reads on until it is over. -/
def steps (reading : Reading) : Except Refusal Reading :=
  if isOver reading then .ok reading
  else match step reading with
    | .error refusal => .error refusal
    | .ok ((), next) =>
      if next.ahead.length < reading.ahead.length then steps next else .ok next
termination_by reading.ahead.length

def start (text : List Char) : Reading :=
  ⟨text, 0, [], [], none, [], ⟨.whole, 0, [], [], []⟩, []⟩

def whole (text : List Char) : Except Refusal Reading := do
  let ((), reading) ← (arrive text 0).run (start text)
  let reading ← steps reading
  let refuse (problem : Problem) (position : Nat) : Except Refusal Reading :=
    .error (.mistaken ⟨problem, some position⟩)
  if !reading.outer.isEmpty then refuse .unterminatedGroup reading.current.start
  else if reading.current.flags.contains .ascii && reading.current.flags.contains .unicode then
    .error (.excessive .conflictingFlags)
  else if !reading.ahead.isEmpty then refuse .unbalanced reading.position
  else match reading.pending.find? fun entry => reading.groups.length < entry.1 with
    | some (index, position) => refuse (.invalidReference index) position
    | none => .ok reading

end Parse

/-- The furthest that a pattern looks behind. -/
def furthestBehind : Nat := Nat.pow 2 32 - 1

/-- What is wrong with a look behind over a given width. It has to be over a fixed number of
characters. -/
def lookbehindProblem? (width : Width) : Option Problem :=
  if furthestBehind < width.least then some .tooFarBehind
  else if width.least ≠ width.most then some .variableLookbehind
  else none

/-- The name of a kind of repetition, for the refusal of patterns that allow none. -/
def Mode.kind : Mode → String
  | greedy => "MAX_REPEAT"
  | lazy => "MIN_REPEAT"
  | possessive => "POSSESSIVE_REPEAT"

/-- What is wrong with a pattern as a whole, found from its beginning on. -/
def problem? (template : Bool) : Pattern → Option Problem
  | empty | literal .. | otherThan .. | any _ | oneOf _ | anchor _ | reference .. => none
  | seq first rest | alt first rest | conditional _ first rest =>
    (first.problem? template).or (rest.problem? template)
  | group _ body | atomic body => body.problem? template
  | repetition mode _ _ body =>
    if template then some (.templateRepetition mode.kind) else body.problem? template
  | look behind _ body => (behind.bind lookbehindProblem?).or (body.problem? template)

/-- The class that everything the pattern matches begins with, if the pattern begins with one. -/
def leadingClass? : Pattern → Option CharacterClass
  | oneOf members => some members
  | seq first _ => first.leadingClass?
  | group _ body => body.leadingClass?
  | empty | literal .. | otherThan .. | any _ | anchor _ | alt .. | repetition .. | atomic _
  | look .. | reference .. | conditional .. => none

/-- A pattern made ready for searching. Where `beginning` is given, matches are looked for only
where a character of that class stands. -/
structure Compiled where
  body : Pattern
  beginning : Option CharacterClass
  deriving DecidableEq, Repr

/-- The class that is looked for before anything else. It is read under the flags of the whole
pattern, and there is none if the pattern matches the empty text or if case matters to the class.
-/
def beginning? (body : Pattern) (width : Width) (ascii : Bool) : Option CharacterClass := do
  let members ← body.leadingClass?
  if width.least = 0 || members.hasCases then none
  else some { members with casing := .exact, ascii }

/-- Makes the text of a pattern ready for searching. -/
def compile (text : String) : Except Refusal Compiled := do
  let reading ← Parse.whole text.toList
  let body := ofList reading.current.contents
  let flags := reading.current.flags
  match body.problem? (flags.contains .template) with
  | some problem => .error (.mistaken ⟨problem, none⟩)
  | none => .ok ⟨body, body.beginning? (body.width reading.groups) flags.isAscii⟩

end Pattern

end QueryDepth
