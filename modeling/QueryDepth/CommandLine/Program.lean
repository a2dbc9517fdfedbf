import QueryDepth.CommandLine.Options
import QueryDepth.Depth.Walk
import QueryDepth.Document.Grammar
import QueryDepth.Settings

/-! What the program prints for its arguments, and the status it ends with: zero if all is within
the limit, one for violations, two for a file that cannot be read as a document. -/
namespace QueryDepth.CommandLine

/-- The least rank of the events that are shown. -/
abbrev Threshold := Nat

/-- Why the program breaks off without a status. -/
inductive Crash where
  /-- The settings are wrong. -/
  | settings (faults : List SettingFault)
  /-- What is set as the level is a name for something else. -/
  | unknownLevel (value : String)
  /-- What is set as the level is a name for something that is no text either. -/
  | levelOfOtherKind
  /-- The limit is given as two hyphens, which stand for no value. -/
  | blankLimit
  /-- A check comes to no result. -/
  | failure (failure : Failure)
  deriving DecidableEq, Repr

structure Output where
  status : Nat
  printed : String
  errors : String
  deriving DecidableEq, Repr

/-- The names of levels and the thresholds they set. -/
def thresholds : List (String × Threshold) :=
  [("NOTSET", 0), ("DEBUG", 10), ("INFO", 20), ("WARN", 30), ("WARNING", 30), ("ERROR", 40),
   ("CRITICAL", 50), ("FATAL", 50)]

/-- The format of event lines, which has a name like those of the levels. -/
def basicFormat : String := "%(levelname)s:%(name)s:%(message)s"

/-- The name that a text gives for a level. Letters of either case name the same level. -/
def levelName (text : String) : String := String.ofList (upperCaseText text.toList)

/-- The threshold that a level sets. What is no level is the level of information. Two names stand
for other things and set no threshold. -/
def threshold (level : String) : Except Crash Threshold :=
  let name := levelName level
  if name = "BASIC_FORMAT" then .error (.unknownLevel basicFormat)
  else if name = "_STYLES" then .error .levelOfOtherKind
  else .ok ((thresholds.lookup name).getD Level.info.rank)

def eventLine (event : Event) : String :=
  let name := event.level.name
  let padding := String.ofList (List.replicate (8 - name.length) ' ')
  s!"{name}{padding} [{event.source}] {event.message}"

/-- The events that matter enough, as they are shown. -/
def eventLines (threshold : Threshold) (events : List Event) : String :=
  printed ((events.filter fun event => threshold ≤ event.level.rank).map eventLine)

/-- What the check of a file comes to. -/
inductive Verdict where
  /-- The file cannot be read. -/
  | unreadable (reason : String)
  /-- The file can be read and holds no document. -/
  | unparsable (reason : String)
  /-- The file holds a document with these violations. -/
  | checked (violations : List Violation)
  deriving BEq, Repr

def violationLine (path : Path) (violation : Violation) : String :=
  s!"{path.render}:{violation.shownLocation.render}: {violation.message}"

/-- A way to get at the bytes of files. -/
abbrev Files := Path → Except FileFault (List UInt8)

/-- The text of a file, or why it cannot be read. Line ends of all kinds become line feeds. -/
def textOf (files : Files) (path : Path) : Except String String :=
  match files path with
  | .error fault => .error (fault.message path)
  | .ok bytes =>
    match Utf8.decode bytes with
    | .error fault => .error fault.message
    | .ok text => .ok (String.ofList (unifyLineEnds text.toList))

/-- Checks a file. Nothing is made of a path that holds a null character: that breaks off the run.
-/
def checkFile (files : Files) (limit : Int) (exclusion : Exclusion) (path : Path) : Run Verdict :=
  if path.holdsNull then throw .nullInPath
  else match textOf files path with
    | .error reason => return .unreadable reason
    | .ok text =>
      match Document.parse text with
      | .error problem => return .unparsable (problem.message text)
      | .ok document => return .checked (← document.violations limit exclusion)

namespace Options

/-- The limit that options ask for, or else the settings. -/
def limit (options : Options) (settings : Settings) : Except Crash Int :=
  match options.maxDepth with
  | some (.given limit) => .ok limit
  | some .blank => .error .blankLimit
  | none => .ok settings.maxDepth

/-- The exclusion that options ask for, or else the settings. A blank name is the name of no field,
and whether a blank pattern matches cannot be answered. -/
def exclusion (options : Options) (settings : Settings) : Exclusion :=
  match options.ignoreExact, options.ignorePattern with
  | some (.given name), _ => .exact name
  | some .blank, _ => .nothing
  | none, some (.given pattern) => .pattern pattern
  | none, some .blank => .predicate ⟨fun _ _ => .interrupts .unanswerable⟩
  | none, none => settings.exclusion

end Options

/-- What files have come to one after the other: the status, and the lines that have been printed.
-/
structure Tally where
  status : Nat
  lines : List String
  deriving DecidableEq, Repr

/-- One more file. A file without a document sets the status whatever it was, while violations set
it only if nothing has been found before. -/
def Tally.next (tally : Tally) (path : Path) : Verdict → Run Tally
  | .unreadable reason => do
    Run.tell (.cannotRead path.render reason)
    return { tally with status := 2 }
  | .unparsable reason => do
    Run.tell (.cannotParse path.render reason)
    return { tally with status := 2 }
  | .checked violations =>
    let lines := violations.map (violationLine path)
    let status := if !lines.isEmpty && tally.status == 0 then 1 else tally.status
    return ⟨status, tally.lines ++ lines⟩

/-- Checks files. With a limit below zero none is looked at. -/
def checkFiles (files : Files) (limit : Int) (exclusion : Exclusion) (paths : List Path) :
    Run Tally := do
  if limit < 0 then
    Run.tell (.negativeLimit limit)
    return ⟨2, []⟩
  paths.foldlM (fun tally path => do tally.next path (← checkFile files limit exclusion path))
    ⟨0, []⟩

/-- What the program does with an environment and arguments. -/
def run (environment : List (String × String)) (arguments : List String) (files : Files) :
    Except Crash Output :=
  match Settings.read environment [] with
  | .error faults => .error (.settings faults)
  | .ok settings => do
    let threshold ← threshold settings.logLevel
    match Request.ofArguments arguments with
    | .help => return ⟨0, help settings.maxDepth, ""⟩
    | .refused misuse => return ⟨2, "", misuse.report⟩
    | .check options =>
      let limit ← options.limit settings
      let check := checkFiles files limit (options.exclusion settings) options.files
      match check.run.run Trace.empty with
      | (.error failure, _) => throw (.failure failure)
      | (.ok tally, trace) =>
        return ⟨tally.status, printed tally.lines, eventLines threshold trace.log⟩

/-- The files that the program reads for its arguments. -/
def filesOf (arguments : List String) : List Path :=
  match Request.ofArguments arguments with
  | .check options => options.files
  | .help | .refused _ => []

end QueryDepth.CommandLine
