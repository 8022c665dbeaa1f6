import IndexKeeper.CommandLine.Run

/-!
The program: reads its command line and its environment, prints, and ends.  It has no access to a
Kubernetes API of its own, so a configuration to start with ends as it does without one.
-/

open IndexKeeper.CommandLine

/-- The environment variables that give options. -/
def readEnvironment : IO (List (String × String)) := do
  let names := options.filterMap Argument.variableName
  names.foldlM (fun found name => do
    match ← IO.getEnv name with
    | some value => return IndexKeeper.Keyed.insert name value found
    | none => return found) []

def main (arguments : List String) : IO UInt32 := do
  let exit := match run (← readEnvironment) arguments with
    | .exit exit => exit
    | .start _ => withoutKubernetes
  (← IO.getStdout).putStr exit.out
  (← IO.getStderr).putStr exit.err
  return exit.code.toUInt32
