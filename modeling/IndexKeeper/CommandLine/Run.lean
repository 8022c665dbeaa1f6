import IndexKeeper.CommandLine.Options
import IndexKeeper.Manifest.Definition

/-!
# Running the program

What a command line comes to: the program ends by itself with an exit code and what it prints, or
it starts to work with a configuration.
-/

namespace IndexKeeper.CommandLine

/-- How the program ends: its exit code, and what it prints. -/
structure Exit where
  code : Nat
  out : String := ""
  err : String := ""
  deriving DecidableEq, Repr

/-- What a command line comes to. -/
inductive Ending
  | exit (exit : Exit)
  | start (config : Config)
  deriving DecidableEq, Repr

/-- The name of the program. -/
def programName : String := "es-objects-operator"

/-- The version of the program. -/
def versionText : String := programName ++ " 0.1.0\n"

/-- How the program is called. -/
def usage : String := "Usage: " ++ programName ++ " [OPTIONS]\n"

/-- A text whose lines after the first stand further in. -/
def indented (by_ : Nat) (s : String) : String :=
  let lineBreak := "\n" ++ String.ofList (List.replicate by_ ' ')
  String.join (s.toList.map fun c => if c = '\n' then lineBreak else c.toString)

/-! ## Help -/

/-- A default as a help text shows it: in quotes where it is empty. -/
def shownDefault (value : String) : String := if value.isEmpty then "\"\"" else value

/-- Notes on where the value of an option comes from. -/
def sources (environment : List (String × String)) (o : Argument) : String :=
  let shown (v : String) : String :=
    " [env: " ++ v ++ "=" ++ (Keyed.get? v environment).getD "" ++ "]"
  (o.variableName.map shown).getD "" ++
    if o.isFlag then "" else (o.default.map fun d => " [default: " ++ shownDefault d ++ "]").getD ""

/-- The help on an option. -/
def helpOn (environment : List (String × String)) (o : Argument) : String :=
  "      " ++ o.written ++ (if o.isFlag then "" else " <" ++ o.valueName ++ ">") ++
    indented 10 ("\n" ++ o.help ++ sources environment o) ++ "\n"

/-- The help text. -/
def helpText (environment : List (String × String)) : String :=
  "Kubernetes operator for Elasticsearch indices and index templates\n\n" ++ usage ++
    "\nOptions:\n" ++ String.join (options.map (helpOn environment)) ++
    "  -h, --help\n          Print help\n  -V, --version\n          Print version\n"

/-! ## Errors -/

/-- How the program reports why it ends, with the cause. -/
def failure (what : String) (cause : Option String) : String :=
  "Error: " ++ what ++
    ((cause.map fun c => "\n\nCaused by:" ++ indented 4 ("\n" ++ c)).getD "") ++ "\n"

/-! ## Running -/

/-- What the options come to once they are all read. -/
def runGiven (given : Given) : Ending :=
  if isOn given "print-crd" then .exit { code := 0, out := Definition.allText ++ "\n" }
  else
    let config := configOf given
    match config.validate with
    | .error f =>
      .exit { code := 1, err := failure "Invalid operator configuration" (some f.message) }
    | .ok () => .start config

/-- What a command line comes to in an environment. -/
def run (environment : List (String × String)) (arguments : List String) : Ending :=
  match (read [] arguments).bind (readVariables environment) with
  | .error .help => .exit { code := 0, out := helpText environment }
  | .error .version => .exit { code := 0, out := versionText }
  | .error .mistake => .exit { code := 2, err := "error: invalid command line\n\n" ++ usage }
  | .ok given => runGiven given

/-- How the program ends where it has no access to a Kubernetes API. -/
def withoutKubernetes : Exit :=
  { code := 1, err := failure "Failed to create Kubernetes client" none }

end IndexKeeper.CommandLine
