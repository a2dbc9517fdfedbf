import QueryDepth.Document.Token
import QueryDepth.Text.LineEnd

/-! The ways in which a text can fail to be a document. An error keeps its cause and its place. The
text itself is needed once more to word those causes that quote it. -/
namespace QueryDepth

/-- Why a text is not a document. -/
inductive Complaint where
  /-- A character that begins no token. -/
  | character (found : Char)
  /-- A single quote, which does not open strings. -/
  | singleQuote
  /-- A digit straight after a leading zero. -/
  | digitAfterZero (found : Char)
  /-- A number goes on where a digit is required. -/
  | digitExpected
  /-- A string ends with its line or with the text. -/
  | unterminatedString
  /-- A backslash before a character that it does not escape. -/
  | characterEscape
  /-- An escape by code point that denotes none, shown over `size` characters. -/
  | unicodeEscape (size : Nat)
  /-- One thing was required and another one found. -/
  | expected (wanted : String) (found : Lexeme)
  /-- A token that may not stand here. -/
  | unexpected (found : Lexeme)
  /-- A variable inside a value that has to be constant. -/
  | variableInConstant (name : String)
  /-- A literal used as the name of an enum value. -/
  | reservedEnumValue (found : Lexeme)
  /-- A description in front of something that takes none. -/
  | strayDescription
  /-- A description in front of an operation written as a bare selection set. -/
  | describedShorthand
  /-- More open selection sets, lists and objects than are read. -/
  | nestedTooDeeply
  deriving DecidableEq, Repr

/-- The complaint about a text, at the place where reading stopped. -/
structure SyntaxError where
  complaint : Complaint
  location : Location
  deriving DecidableEq, Repr

namespace SyntaxError

/-- At least four hexadecimal digits of a code point. -/
private def hexadecimal (code : Nat) : String :=
  let digits := (Nat.toDigits 16 code).map Char.toUpper
  String.ofList (List.replicate (4 - digits.length) '0' ++ digits)

/-- A character as complaints show it: quoted where it is printable ASCII, by code point
otherwise. -/
def showCharacter (c : Char) : String :=
  if c = '\x22' then "'\"'"
  else if ' ' ≤ c ∧ c ≤ '~' then s!"'{c}'"
  else "U+" ++ hexadecimal c.toNat

/-- The part of a text that starts `lines` line ends and then `columns` characters further on. -/
def textFrom : List Char → Nat → Nat → List Char
  | text, 0, columns => text.drop columns
  | [], _ + 1, _ => []
  | '\r' :: '\n' :: rest, lines + 1, columns => textFrom rest lines columns
  | c :: rest, lines + 1, columns =>
    if isLineEnd c then textFrom rest lines columns else textFrom rest (lines + 1) columns

/-- The `size` characters of a text that stand at a place. -/
def excerpt (source : String) (place : Location) (size : Nat) : String :=
  String.ofList ((textFrom source.toList (place.line - 1) (place.column - 1)).take size)

/-- What is wrong with a text, without the words that open every such message. -/
def detail (error : SyntaxError) (source : String) : String :=
  match error.complaint with
  | .character found => s!"Unexpected character: {showCharacter found}."
  | .singleQuote =>
    "Unexpected single quote character ('), did you mean to use a double quote (\")?"
  | .digitAfterZero found =>
    s!"Invalid number, unexpected digit after 0: {showCharacter found}."
  | .digitExpected =>
    let shown := match (excerpt source error.location 1).toList with
      | c :: _ => showCharacter c
      | [] => Lexeme.endOfInput.describe
    s!"Invalid number, expected digit but got: {shown}."
  | .unterminatedString => "Unterminated string."
  | .characterEscape =>
    let shown := excerpt source error.location 2
    s!"Invalid character escape sequence: '{shown}'."
  | .unicodeEscape size =>
    let shown := excerpt source error.location size
    s!"Invalid Unicode escape sequence: '{shown}'."
  | .expected wanted found => s!"Expected {wanted}, found {found.describe}."
  | .unexpected found => s!"Unexpected {found.describe}."
  | .variableInConstant name => s!"Unexpected variable '${name}' in constant value."
  | .reservedEnumValue found =>
    s!"{found.describe} is reserved and cannot be used for an enum value."
  | .strayDescription =>
    "Unexpected description, only GraphQL definitions support descriptions."
  | .describedShorthand =>
    "Unexpected description, descriptions are not supported on shorthand queries."
  | .nestedTooDeeply => "Document is nested too deeply. Parsing aborted."

def message (error : SyntaxError) (source : String) : String :=
  "Syntax Error: " ++ error.detail source

end SyntaxError

end QueryDepth
