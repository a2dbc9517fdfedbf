/-! Ends of lines. A line ends in a line feed, in a carriage return, or in both. -/
namespace QueryDepth

def isLineEnd (c : Char) : Bool := c == '\n' || c == '\r'

/-- Carriage returns, with or without a line feed after them, turned into line feeds. The first
argument collects what has been turned, latest first. -/
def unifyLineEndsFrom (done : List Char) : List Char → List Char
  | [] => done.reverse
  | '\r' :: '\n' :: rest => unifyLineEndsFrom ('\n' :: done) rest
  | c :: rest => unifyLineEndsFrom ((if c = '\r' then '\n' else c) :: done) rest

/-- A text whose lines all end in a line feed. -/
def unifyLineEnds (text : List Char) : List Char := unifyLineEndsFrom [] text

end QueryDepth
