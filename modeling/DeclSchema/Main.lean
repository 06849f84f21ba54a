import DeclSchema.Program

/-!
The program as a process.

All input is gathered first: the settings file that the command line names,
and the variables that it refers to. The run itself is a function of these.
-/

namespace DeclSchema

open Settings

/-- Why the system did not give out a file. The number of an error may come
negated. -/
def readFailureOf : IO.Error → ReadFailure
  | .noFileOrDirectory _ _ _ => .missing
  | .inappropriateType _ code text =>
      if code == 20 || 0 - code == 20 then .notADirectory
      else if code == 21 || 0 - code == 21 then .isADirectory
      else .other text
  | .invalidArgument _ code text =>
      if code == 36 || 0 - code == 36 then .nameTooLong else .other text
  | e => .other (toString e)

def readTextFile (path : String) : IO (Except ReadFailure String) := do
  if path.isEmpty then return .error .missing
  try
    let bytes ← IO.FS.readBinFile path
    match String.fromUTF8? bytes with
    | some text => return .ok text
    | none => return .error .notUtf8
  catch e => return .error (readFailureOf e)

def variableValues (names : List String) : IO (List (String × String)) := do
  let values ← names.mapM fun name => IO.getEnv name
  return (names.zip values).filterMap fun e => e.2.map fun value => (e.1, value)

def gather (commandLine : List String) : IO World := do
  let file : Except ReadFailure String ←
    match CommandLine.parse commandLine with
    | .ok { config := some path, .. } => readTextFile path
    | _ => pure (.error .missing)
  let names := match file with
    | .ok text => referredNames text
    | .error _ => []
  let env ← variableValues ("RUST_LOG" :: names)
  return {
    fileText := fun _ => file
    lookup := fun name => env.lookup name
    parseSection := Section.parse }

end DeclSchema

def main (commandLine : List String) : IO UInt32 := do
  let outcome := DeclSchema.Program.run (← DeclSchema.gather commandLine) commandLine
  IO.print outcome.stdout
  IO.eprint outcome.stderr
  return outcome.exitCode.toUInt32
