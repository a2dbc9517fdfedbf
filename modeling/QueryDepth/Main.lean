import QueryDepth.CommandLine.Program

/-! The program itself: it takes the environment, the arguments and the files from the system, and
prints what the library makes of them. -/
namespace QueryDepth.CommandLine

/-- The variables that settings are read from, as far as they are set. -/
def environment : IO (List (String × String)) := do
  let names := Settings.fields.map fun field => Settings.variableLead ++ field
  let mut found := []
  for name in names ++ names.map String.toUpper do
    if let some value ← IO.getEnv name then
      found := found ++ [(name, value)]
  return found

/-- Why the system does not open a file. -/
def faultOf (error : IO.Error) : FileFault :=
  match error with
  | .noFileOrDirectory .. => .missing
  | .inappropriateType _ code details =>
    if code = 20 then .notDirectory
    else if code = 21 then .isDirectory
    else ⟨code.toNat, details⟩
  | .permissionDenied _ code details => ⟨code.toNat, details⟩
  | other => ⟨5, toString other⟩

/-- The bytes of a file, or why there are none. -/
def bytesOf (path : Path) : IO (Except FileFault (List UInt8)) := do
  try
    return .ok (← IO.FS.readBinFile path.render).toList
  catch error => return .error (faultOf error)

def Crash.message : Crash → String
  | settings faults => printed (faults.map fun fault =>
      let field := fault.field.getD ""
      let text := fault.problem.message
      s!"{field}: {text}")
  | unknownLevel value => s!"Unknown level: {quoted value}\n"
  | levelOfOtherKind => "Level not an integer or a valid string\n"
  | blankLimit => "the limit has no value\n"
  | failure (.interrupted (.cancelled text)) => text ++ "\n"
  | failure (.interrupted (.exit text)) => text ++ "\n"
  | failure (.interrupted .unanswerable) => "the pattern has no value\n"
  | failure (.patternExcess excess) => excess.message ++ "\n"
  | failure .missingSelections => "a node that has to select something selects nothing\n"
  | failure .nullInPath => "embedded null byte\n"

end QueryDepth.CommandLine

open QueryDepth CommandLine in
def main (arguments : List String) : IO UInt32 := do
  let paths := filesOf arguments
  let contents ← paths.mapM fun path => return (path, ← bytesOf path)
  let files : Files := fun path => (contents.lookup path).getD (.error .missing)
  match run (← environment) arguments files with
  | .ok output =>
    (← IO.getStdout).putStr output.printed
    (← IO.getStderr).putStr output.errors
    return output.status.toUInt32
  | .error crash =>
    (← IO.getStderr).putStr crash.message
    return 1
