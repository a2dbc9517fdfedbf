import QueryDepth.Text.Quoted

/-! The options of the command line, and what is said about them. -/
namespace QueryDepth.CommandLine

/-- The options. -/
inductive Choice where
  | help
  | maxDepth
  | ignoreExact
  | ignorePattern
  deriving DecidableEq, Repr

namespace Choice

/-- All options, in the order in which they are listed. -/
def all : List Choice := [help, maxDepth, ignoreExact, ignorePattern]

def spellings : Choice → List String
  | help => ["-h", "--help"]
  | maxDepth => ["--max-depth"]
  | ignoreExact => ["--ignore-exact"]
  | ignorePattern => ["--ignore-pattern"]

/-- An option as messages call it. -/
def name (choice : Choice) : String := "/".intercalate choice.spellings

/-- The option that may not be given together with another one. -/
def rival? : Choice → Option Choice
  | ignoreExact => some ignorePattern
  | ignorePattern => some ignoreExact
  | help | maxDepth => none

end Choice

/-- What can be wrong with the arguments. -/
inductive Misuse where
  /-- A shortened option could be several ones. -/
  | ambiguous (written : String) (candidates : List String)
  /-- A value is given for an option that takes none. -/
  | ignoredValue (choice : Choice) (value : String)
  /-- An option is given without its value. -/
  | missingValue (choice : Choice)
  /-- An option is given together with one that excludes it. -/
  | notAllowedWith (choice other : Choice)
  /-- A value is not an integer. -/
  | invalidInteger (choice : Choice) (value : String)
  /-- No file is given. -/
  | missingFiles
  /-- Some arguments are neither options nor files. -/
  | unrecognized (arguments : List String)
  deriving DecidableEq, Repr

def Misuse.message : Misuse → String
  | ambiguous written candidates =>
    s!"ambiguous option: {written} could match " ++ ", ".intercalate candidates
  | ignoredValue choice value =>
    s!"argument {choice.name}: ignored explicit argument {quoted value}"
  | missingValue choice => s!"argument {choice.name}: expected one argument"
  | notAllowedWith choice other =>
    s!"argument {choice.name}: not allowed with argument {other.name}"
  | invalidInteger choice value =>
    s!"argument {choice.name}: invalid int value: {quoted value}"
  | missingFiles => "the following arguments are required: files"
  | unrecognized arguments => "unrecognized arguments: " ++ " ".intercalate arguments

def printed (lines : List String) : String := String.join (lines.map (· ++ "\n"))

def usage : List String :=
  ["usage: graphql_depth_limit [-h] [--max-depth MAX_DEPTH]",
   "                           [--ignore-exact NAME | --ignore-pattern REGEX]",
   "                           files [files ...]"]

/-- What is printed for a misuse. -/
def Misuse.report (misuse : Misuse) : String :=
  printed (usage ++ [s!"graphql_depth_limit: error: {misuse.message}"])

def explanationWidth : Nat := 54

/-- A text in lines of bounded width. `fuel` is at least the number of characters. -/
def chunks (width fuel : Nat) (text : List Char) : List (List Char) :=
  match fuel with
  | 0 => [text]
  | fuel + 1 =>
    if text.length ≤ width then [text]
    else text.take width :: chunks width fuel (text.drop width)

/-- Adds a word to lines, the last of which is given first. A word that is wider than a line
begins on the last line and is broken where the lines end. -/
def addWord (width : Nat) (lines : List (List Char)) (word : List Char) : List (List Char) :=
  match lines with
  | [] => (chunks width word.length word).reverse
  | line :: before =>
    let joined := line ++ ' ' :: word
    if joined.length ≤ width then joined :: before
    else if word.length ≤ width || width ≤ line.length + 1 then
      (chunks width word.length word).reverse ++ lines
    else (chunks width joined.length joined).reverse ++ before

/-- A text in lines no wider than a given width. -/
def fold (width : Nat) (text : String) : List String :=
  let words := (text.splitOn " ").map String.toList
  (words.foldl (addWord width) []).reverse.map String.ofList

/-- What is printed when help is asked for, given the limit that holds where none is given. -/
def help (limit : Nat) : String :=
  let explanation := fold explanationWidth
    s!"Maximum operation depth, inclusive (default: {limit})."
  printed <|
    usage ++
    ["",
     "Report GraphQL operations nested deeper than a maximum depth.",
     "",
     "positional arguments:",
     "  files                 GraphQL documents to check.",
     "",
     "options:",
     "  -h, --help            show this help message and exit",
     "  --max-depth MAX_DEPTH"] ++
    explanation.map (fun line => "                        " ++ line) ++
    ["  --ignore-exact NAME   Do not count fields named NAME.",
     "  --ignore-pattern REGEX",
     "                        Do not count fields whose name matches REGEX."]

end QueryDepth.CommandLine
