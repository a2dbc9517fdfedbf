import QueryDepth.CommandLine.Path
import QueryDepth.CommandLine.Usage
import QueryDepth.Text.Integer

/-! Reading arguments as options and files. Long options may be shortened as long as they stay
apart, and take their value behind an equals sign or as the next argument. Two hyphens end the
options. Files are given in one group. Where releases of such readers differ, the older ones are
followed: two hyphens written as a value stand for none, and behind a single hyphen a letter that is
no option is refused. -/
namespace QueryDepth.CommandLine

/-- What an argument is. -/
inductive Role where
  /-- A file, or the value of an option. -/
  | plain
  /-- The end of the options. -/
  | separator
  /-- An option as it is written, and the value written with it. -/
  | option (choice : Choice) (spelling : String) (value : Option String)
  /-- An option that there is not. -/
  | unknown
  deriving DecidableEq, Repr

structure Word where
  text : String
  role : Role
  deriving DecidableEq, Repr

def spellings : List (String × Choice) :=
  Choice.all.flatMap fun choice => choice.spellings.map fun spelling => (spelling, choice)

/-- An argument parted at its first equals sign, if it has one. -/
def splitValue (text : List Char) : List Char × Option (List Char) :=
  match text.dropWhile (· != '=') with
  | [] => (text, none)
  | _ :: value => (text.takeWhile (· != '='), some value)

/-- The options that an argument may be a short form of, each with its spelling and the value
written with it. A single hyphen and a letter may be followed by the value at once. -/
def candidates (text : List Char) : List (String × Choice × Option String) :=
  match text with
  | '-' :: '-' :: _ =>
    let (lead, value) := splitValue text
    (spellings.filter fun entry => lead.isPrefixOf entry.1.toList).map fun entry =>
      (entry.1, entry.2, value.map String.ofList)
  | lead :: letter :: rest =>
    spellings.filterMap fun entry =>
      if entry.1.toList = [lead, letter] then some (entry.1, entry.2, some (String.ofList rest))
      else if text.isPrefixOf entry.1.toList then some (entry.1, entry.2, none)
      else none
  | _ => []

/-- Whether a text is a negative number, with or without a fraction. A line feed may end it. -/
def isNegativeNumber (text : List Char) : Bool :=
  let isDigit := fun (c : Char) => isDecimalDigit c.toNat
  let text := if text.getLast? = some '\n' then text.dropLast else text
  match text with
  | '-' :: rest =>
    match rest.dropWhile isDigit with
    | [] => !rest.isEmpty
    | '.' :: fraction => !fraction.isEmpty && fraction.all isDigit
    | _ => false
  | _ => false

def roleOf (text : String) : Except Misuse Role := do
  let characters := text.toList
  if characters.head? ≠ some '-' then return .plain
  if let some choice := spellings.lookup text then return .option choice text none
  if characters.length = 1 then return .plain
  let (lead, value) := splitValue characters
  if let (some choice, some value) := (spellings.lookup (String.ofList lead), value) then
    return .option choice (String.ofList lead) (some (String.ofList value))
  match candidates characters with
  | [(spelling, choice, value)] => return .option choice spelling value
  | [] =>
    if isNegativeNumber characters || characters.contains ' ' then return .plain
    else return .unknown
  | several => throw (.ambiguous text (several.map Prod.fst))

def words : List String → Except Misuse (List Word)
  | [] => return []
  | text :: rest => do
    if text = "--" then return ⟨text, .separator⟩ :: rest.map fun text => ⟨text, .plain⟩
    let role ← roleOf text
    return ⟨text, role⟩ :: (← words rest)

inductive OptionValue (α : Type) where
  | given (value : α)
  /-- Two hyphens are written as the value, and stand for none. -/
  | blank
  deriving DecidableEq, Repr

def OptionValue.ofText (text : String) : OptionValue String :=
  if text = "--" then blank else given text

/-- What the arguments ask for. An option that is given twice has the value given last. -/
structure Options where
  maxDepth : Option (OptionValue Int)
  ignoreExact : Option (OptionValue String)
  ignorePattern : Option (OptionValue String)
  files : List Path
  deriving DecidableEq, Repr

/-- What the arguments come to. -/
inductive Request where
  /-- Documents are to be checked. -/
  | check (options : Options)
  /-- Help is asked for. -/
  | help
  /-- The arguments are wrong. -/
  | refused (misuse : Misuse)
  deriving DecidableEq, Repr

/-- Arguments being read. `group` holds the latest run of files, and `leftOver` what is neither an
option nor a file, both latest first. -/
structure Reading where
  options : Options
  given : List Choice
  hasFiles : Bool
  group : List Word
  leftOver : List String

/-- An end of reading before the last argument. -/
inductive Stop where
  | help
  | refused (misuse : Misuse)
  deriving DecidableEq, Repr

namespace Reading

def start : Reading := ⟨⟨none, none, none, []⟩, [], false, [], []⟩

/-- Ends a run of files. The first run that holds a file is the group of files, and others are left
over. -/
def endGroup (reading : Reading) : Reading :=
  let words := reading.group.reverse
  if !reading.hasFiles && words.any (·.role == .plain) then
    let files := (words.filter (·.role == .plain)).map fun word => Path.ofText word.text
    { reading with
      options := { reading.options with files }
      hasFiles := true
      group := [] }
  else
    { reading with
      group := []
      leftOver := reading.group.map Word.text ++ reading.leftOver }

def set (reading : Reading) (choice : Choice) (text : String) : Except Stop Reading := do
  if let some other := choice.rival? then
    if reading.given.contains other then throw (.refused (.notAllowedWith choice other))
  let reading := { reading with given := choice :: reading.given }
  let options := reading.options
  match choice, OptionValue.ofText text with
  | .help, _ => throw .help
  | .maxDepth, .blank =>
    return { reading with options := { options with maxDepth := some .blank } }
  | .maxDepth, .given text =>
    match Integer.ofText? text.toList with
    | some limit =>
      return { reading with options := { options with maxDepth := some (.given limit) } }
    | none => throw (.refused (.invalidInteger choice text))
  | .ignoreExact, value =>
    return { reading with options := { options with ignoreExact := some value } }
  | .ignorePattern, value =>
    return { reading with options := { options with ignorePattern := some value } }

/-- The letters written behind a single hyphen and an option that takes no value: each has to be
such an option, and a value is ignored. -/
def help (value : List Char) : Stop :=
  match value with
  | [] => .help
  | letter :: rest =>
    match spellings.lookup (String.ofList ['-', letter]) with
    | some _ => help rest
    | none => .refused (.ignoredValue .help (String.ofList (letter :: rest)))

/-- What becomes of asking for help, given how it is written. -/
def askHelp (spelling : String) (value : Option String) : Stop :=
  match value with
  | none => .help
  | some value =>
    if spelling.toList.length = 2 && !value.isEmpty then help value.toList
    else .refused (.ignoredValue .help value)

/-- Reads the arguments one after the other. -/
def run (reading : Reading) : List Word → Except Stop Reading
  | [] => .ok reading.endGroup
  | ⟨text, .plain⟩ :: rest => run { reading with group := ⟨text, .plain⟩ :: reading.group } rest
  | ⟨text, .separator⟩ :: rest =>
    run { reading with group := ⟨text, .separator⟩ :: reading.group } rest
  | ⟨text, .unknown⟩ :: rest =>
    let reading := reading.endGroup
    run { reading with leftOver := text :: reading.leftOver } rest
  | ⟨_, .option .help spelling value⟩ :: _ => .error (askHelp spelling value)
  | ⟨_, .option choice _ (some value)⟩ :: rest => do (← reading.endGroup.set choice value).run rest
  | ⟨_, .option choice _ none⟩ :: ⟨value, .plain⟩ :: rest => do
    (← reading.endGroup.set choice value).run rest
  | ⟨_, .option choice _ none⟩ :: _ => .error (.refused (.missingValue choice))

end Reading

def Request.ofArguments (arguments : List String) : Request :=
  match words arguments with
  | .error misuse => .refused misuse
  | .ok words =>
    match Reading.start.run words with
    | .error .help => .help
    | .error (.refused misuse) => .refused misuse
    | .ok reading =>
      if !reading.hasFiles then .refused .missingFiles
      else if !reading.leftOver.isEmpty then .refused (.unrecognized reading.leftOver.reverse)
      else .check reading.options

end QueryDepth.CommandLine
