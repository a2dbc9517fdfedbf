import QueryDepth.Document.Basic

/-! The tokens of a document and the words in which error messages show them. -/
namespace QueryDepth

/-- The marks that stand for themselves. -/
inductive Punctuator where
  | bang
  | dollar
  | ampersand
  | parenLeft
  | parenRight
  | ellipsis
  | colon
  | equals
  | atSign
  | bracketLeft
  | bracketRight
  | braceLeft
  | pipe
  | braceRight
  deriving DecidableEq, Repr

namespace Punctuator

def text : Punctuator → String
  | bang => "!"
  | dollar => "$"
  | ampersand => "&"
  | parenLeft => "("
  | parenRight => ")"
  | ellipsis => "..."
  | colon => ":"
  | equals => "="
  | atSign => "@"
  | bracketLeft => "["
  | bracketRight => "]"
  | braceLeft => "\x7b"
  | pipe => "|"
  | braceRight => "\x7d"

/-- The mark of a single character. The ellipsis has three and is read by the lexer itself. -/
def ofChar? : Char → Option Punctuator
  | '!' => some bang
  | '$' => some dollar
  | '&' => some ampersand
  | '(' => some parenLeft
  | ')' => some parenRight
  | ':' => some colon
  | '=' => some equals
  | '@' => some atSign
  | '[' => some bracketLeft
  | ']' => some bracketRight
  | '\x7b' => some braceLeft
  | '|' => some pipe
  | '\x7d' => some braceRight
  | _ => none

end Punctuator

/-- What a token says. Strings hold the text they denote, numbers the text they are written as. -/
inductive Lexeme where
  | punctuator (mark : Punctuator)
  | name (text : String)
  | int (text : String)
  | float (text : String)
  | string (value : String)
  | blockString (value : String)
  | endOfInput
  deriving DecidableEq, Repr

namespace Lexeme

/-- A kind of token with the text it carries. The text is left out where it is empty. -/
private def labelled (kind text : String) : String :=
  if text.isEmpty then kind else s!"{kind} '{text}'"

/-- A lexeme as error messages show it. -/
def describe : Lexeme → String
  | punctuator mark => s!"'{mark.text}'"
  | name text => labelled "Name" text
  | int text => labelled "Int" text
  | float text => labelled "Float" text
  | string value => labelled "String" value
  | blockString value => labelled "BlockString" value
  | endOfInput => "<EOF>"

/-- The text that a lexeme carries, if it carries any. -/
def value? : Lexeme → Option String
  | name text | int text | float text | string text | blockString text => some text
  | punctuator _ | endOfInput => none

end Lexeme

/-- A token and the place of its first character. -/
structure Token where
  lexeme : Lexeme
  location : Location
  deriving DecidableEq, Repr

end QueryDepth
