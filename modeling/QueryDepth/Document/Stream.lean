import QueryDepth.Document.Lexer

/-! Reading a sequence of tokens with one token in view. A token comes into view as soon as the one
before it is passed, so a text that stops making sense is refused exactly there. -/
namespace QueryDepth

/-- What is still to be read: the token in view, those after it and how many they are, and the
complaint that meets whoever goes beyond them. -/
structure Stream where
  current : Token
  later : List Token
  left : Nat
  stop : Option SyntaxError

/-- A computation that reads tokens and may refuse the text. -/
abbrev Reader (α : Type) := StateT Stream (Except SyntaxError) α

namespace Reader

def refuseAt {α : Type} (place : Location) (complaint : Complaint) : Reader α :=
  throw ⟨complaint, place⟩

def current : Reader Token := do return (← get).current

/-- Refuses the text at the token in view. -/
def refuse {α : Type} (complaint : Complaint) : Reader α := do
  refuseAt (← current).location complaint

def unexpected {α : Type} : Reader α := do refuse (.unexpected (← current).lexeme)

/-- Refuses the token in view where something else has to stand. -/
def missing {α : Type} (wanted : String) : Reader α := do
  refuse (.expected wanted (← current).lexeme)

/-- Passes the token in view. The end of input is never passed. -/
def advance : Reader Unit := fun stream =>
  match stream.later, stream.stop with
  | token :: later, _ => .ok ((), ⟨token, later, stream.left - 1, stream.stop⟩)
  | [], some problem => .error problem
  | [], none => .ok ((), stream)

def sees (mark : Punctuator) : Reader Bool := do
  return (← current).lexeme == .punctuator mark

def seesName : Reader Bool := do
  return match (← current).lexeme with
    | .name _ => true
    | _ => false

def skip (mark : Punctuator) : Reader Bool := do
  if ← sees mark then
    advance
    return true
  return false

/-- Passes a mark that has to stand here. -/
def require (mark : Punctuator) : Reader Unit := do
  if !(← skip mark) then missing (Lexeme.punctuator mark).describe

/-- Passes a word if it is in view. -/
def skipKeyword (word : String) : Reader Bool := do
  if (← current).lexeme == .name word then
    advance
    return true
  return false

def requireKeyword (word : String) : Reader Unit := do
  if !(← skipKeyword word) then missing s!"'{word}'"

def name : Reader String := do
  match (← current).lexeme with
  | .name text =>
    advance
    return text
  | _ => missing "Name"

/-- The rest of a list of one or more items, up to and including the closing mark. `done` holds the
items already read, latest first. Every item passes at least one token, which bounds the list. -/
def itemsUntil {α : Type} (item : Reader α) (close : Punctuator) (done : List α)
    (stream : Stream) : Except SyntaxError (List α × Stream) :=
  match item stream with
  | .error problem => .error problem
  | .ok (found, afterItem) =>
    match skip close afterItem with
    | .error problem => .error problem
    | .ok (true, afterClose) => .ok ((found :: done).reverse, afterClose)
    | .ok (false, next) =>
      if next.left < stream.left then itemsUntil item close (found :: done) next
      else .error ⟨.unexpected next.current.lexeme, next.current.location⟩
termination_by stream.left

/-- One or more items between two marks. -/
def many {α : Type} (first : Punctuator) (item : Reader α) (last : Punctuator) :
    Reader (List α) := do
  require first
  itemsUntil item last []

/-- One or more items between two marks, or nothing at all. -/
def optionalMany {α : Type} (first : Punctuator) (item : Reader α) (last : Punctuator) :
    Reader (List α) := do
  if ← skip first then itemsUntil item last [] else return []

/-- Any number of items between two marks. -/
def any {α : Type} (first : Punctuator) (item : Reader α) (last : Punctuator) :
    Reader (List α) := do
  require first
  if ← skip last then return []
  itemsUntil item last []

/-- The items after a separator, one after each further separator. `done` holds the items already
read, latest first. -/
def itemsAfter {α : Type} (separator : Punctuator) (item : Reader α) (done : List α)
    (stream : Stream) : Except SyntaxError (List α × Stream) :=
  match item stream with
  | .error problem => .error problem
  | .ok (found, afterItem) =>
    match skip separator afterItem with
    | .error problem => .error problem
    | .ok (false, next) => .ok ((found :: done).reverse, next)
    | .ok (true, next) =>
      if next.left < stream.left then itemsAfter separator item (found :: done) next
      else .error ⟨.unexpected next.current.lexeme, next.current.location⟩
termination_by stream.left

/-- One or more items with a mark between them and perhaps in front of them. -/
def separated {α : Type} (separator : Punctuator) (item : Reader α) : Reader (List α) := do
  let _ ← skip separator
  itemsAfter separator item []

/-- The token after the one in view, which stays in view. -/
def lookahead : Reader Token := fun stream =>
  match advance stream with
  | .ok (_, next) => .ok (next.current, stream)
  | .error problem => .error problem

end Reader

end QueryDepth
