import Formulary.CommandLine.Program

/-!
# The command line

Reads the files that the arguments name and writes what the program gives.
-/

namespace Formulary.CommandLine

/-- The number of a failed call of the operating system; it is told with either sign. -/
def errorNumber (code : UInt32) : UInt32 := min code (0 - code)

/-- The contents of a file. -/
def readFile (path : String) : IO (Except FileError ByteArray) := do
  try
    return .ok (← IO.FS.readBinFile path)
  catch
    | .noFileOrDirectory .. => return .error .notFound
    | .inappropriateType _ code _ =>
      return .error (if errorNumber code = 20 then .notDirectory else .isDirectory)
    | .invalidArgument _ code details =>
      return .error (if errorNumber code = 36 then .nameTooLong else .other details)
    | e => return .error (.other e.toString)

/-- The files and the variables of the environment that an invocation asks for. -/
def surroundings (i : Invocation) : IO Surroundings := do
  let files ← i.paths.mapM fun path => return (path, ← readFile path)
  let environment ← [Settings.minYearKey, Settings.maxYearKey].mapM fun key => return (key, ← IO.getEnv key)
  return {
    files := fun path => (files.lookup path).getD (.error .notFound)
    environment := fun key => (environment.lookup key).join }

/-- What the program writes for some arguments. -/
def respond (args : List String) : IO Output := do
  match request? args with
  | none => return ⟨usageCode, "", usage⟩
  | some .version => return versionOutput
  | some (.run invocation) => return invocation.run (← surroundings invocation)

end Formulary.CommandLine

def main (args : List String) : IO UInt32 := do
  let output ← Formulary.CommandLine.respond args
  IO.print output.stdout
  IO.eprint output.stderr
  return output.code
