import SqlMapper.CommandLine.Run

/-!
# The program

The outer layer: it reads files and environment variables, prints, and ends
with the exit code of the run.
-/

open SqlMapper SqlMapper.CommandLine

/-- The reported number is the given one; some reports carry it negated. -/
def isNumber (reported number : UInt32) : Bool := reported = number || reported = 0 - number

/-- The cause of a file fault that the system reports. -/
def fileFaultOf : IO.Error → FileFault
  | .noFileOrDirectory .. => .missing
  | .permissionDenied .. => .denied
  | .inappropriateType _ number details =>
      if isNumber number 21 then .isDirectory
      else if isNumber number 20 then .notDirectory
      else .other details
  | .invalidArgument _ number details =>
      if isNumber number 36 then .nameTooLong else .other details
  | error => .other (toString error)

/-- The content of a file, or why it cannot be read. -/
def readTextFile (path : String) : IO (Except FileFault String) := do
  if '\x00' ∈ path.toList then return .error .nulInName
  match ← (IO.FS.readBinFile path).toBaseIO with
  | .error error => return .error (fileFaultOf error)
  | .ok bytes =>
      match String.fromUTF8? bytes with
      | some content => return .ok content
      | none => return .error .notText

/-- The environment variables that the program looks at. -/
def readEnvironment : IO Environment := do
  let config ← IO.getEnv "SQLBIND_CONFIG"
  let xdg ← IO.getEnv "XDG_CONFIG_HOME"
  let home ← IO.getEnv "HOME"
  return fun name =>
    match name with
    | "SQLBIND_CONFIG" => config
    | "XDG_CONFIG_HOME" => xdg
    | "HOME" => home
    | _ => none

/-- Runs the program. -/
def main (arguments : List String) : IO UInt32 := do
  let environment ← readEnvironment
  let outcome ← run readTextFile environment arguments
  IO.print outcome.output
  IO.eprint outcome.errors
  return outcome.code.toUInt32
