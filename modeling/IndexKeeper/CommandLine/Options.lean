import IndexKeeper.CommandLine.Value
import IndexKeeper.Config
import IndexKeeper.Keyed

/-!
# Options

The options of the program, and how they are given.  An option is given on the command line, by an
environment variable, or not at all; the first of these counts.  The command line is read from
left to right, and the first thing that ends the program there ends it: a request for help or for
the version, or a mistake.  An option can be given once.
-/

namespace IndexKeeper.CommandLine

/-- An option of the program. -/
structure Argument where
  name : String
  /-- The environment variable that gives the option. -/
  variableName : Option String
  shape : Shape
  /-- The value of an option that is not given. -/
  default : Option String
  help : String

namespace Argument

/-- Whether the option is switched on by its name alone. -/
def isFlag (o : Argument) : Bool := o.shape == .flag

/-- The option as it is written. -/
def written (o : Argument) : String := "--" ++ o.name

/-- The name that help texts give to the value of an option. -/
def valueName (o : Argument) : String :=
  String.ofList (o.name.toList.map fun c => if c = '-' then '_' else c.toUpper)

end Argument

/-- The options, in the order of the help text. -/
def options : List Argument :=
  let base : Config := { esUrl := "" }
  let seconds (ms : Nat) : Option String := some (toString (ms / 1000))
  [⟨"es-url", some "ES_URL", .text, some base.esUrl, "Elasticsearch base URL"⟩,
    ⟨"max-concurrent-reconciles", some "MAX_CONCURRENT_RECONCILES", .number maxNumber16,
      some (toString base.maxConcurrentReconciles),
      "Maximum number of reconciliations running at once, per resource kind"⟩,
    ⟨"namespace", some "WATCH_NAMESPACE", .text, some "",
      "Namespace to watch (empty for cluster-wide)"⟩,
    ⟨"requeue-interval-secs", some "REQUEUE_INTERVAL_SECS", .number maxNumber64,
      seconds base.requeueMs, "Seconds between passes over an unchanged resource"⟩,
    ⟨"error-requeue-secs", some "ERROR_REQUEUE_SECS", .number maxNumber64,
      seconds base.errorRequeueMs, "Seconds before retrying a failed pass"⟩,
    ⟨"es-request-timeout-secs", some "ES_REQUEST_TIMEOUT_SECS", .number maxNumber64,
      seconds base.requestTimeoutMs, "Timeout of a single Elasticsearch request in seconds"⟩,
    ⟨"metrics-addr", some "METRICS_ADDR", .address, some "0.0.0.0:8080",
      "Metrics server address"⟩,
    ⟨"health-addr", some "HEALTH_ADDR", .address, some "0.0.0.0:8081", "Health probe address"⟩,
    ⟨"log-level", some "LOG_LEVEL", .logLevel, some "info",
      "Log level (trace, debug, info, warn, error)"⟩,
    ⟨"log-json", some "LOG_JSON", .flag, some "false", "Enable JSON log format"⟩,
    ⟨"print-crd", none, .flag, some "false", "Print CRD YAML and exit"⟩]

/-- The option of a name. -/
def option? (name : String) : Option Argument := options.find? fun o => o.name == name

/-! ## Reading -/

/-- The values of options, by their names. -/
abbrev Given := List (String × String)

/-- What ends the program while its command line is read. -/
inductive Stop
  | help
  | version
  | mistake
  deriving DecidableEq, Repr

/-- Give an option a value, unless it has one or the value has the wrong shape. -/
def give (o : Argument) (value : String) (given : Given) : Except Stop Given :=
  if (Keyed.get? o.name given).isSome || !o.shape.accepts value then .error .mistake
  else .ok (Keyed.insert o.name value given)

/-- Whether an argument can't be the value of the option before it. -/
def looksLikeOption (argument : String) : Bool :=
  argument.startsWith "-" && argument != "-"

/-- An argument that is an option with a long name: the name and the value attached to it. -/
def longOption? (argument : String) : Option (String × Option String) :=
  match argument.toList with
  | '-' :: '-' :: rest =>
    let (name, value) := splitFirst (· == '=') rest
    some (String.ofList name, value.map String.ofList)
  | _ => none

/-- Read an argument that is no option with a long name. -/
def stopOf (argument : String) : Stop :=
  match argument.toList with
  | '-' :: 'h' :: _ => .help
  | '-' :: 'V' :: _ => .version
  | _ => .mistake

/-- Read the arguments that are left, with the options given so far. -/
def read (given : Given) : List String → Except Stop Given
  | [] => .ok given
  | argument :: rest =>
    match longOption? argument with
    | none => .error (stopOf argument)
    | some ("", none) => if rest.isEmpty then .ok given else .error .mistake
    | some ("help", none) => .error .help
    | some ("version", none) => .error .version
    | some (name, attached) =>
      match option? name, attached, rest with
      | none, _, _ => .error .mistake
      | some o, some value, rest =>
        if o.isFlag then .error .mistake
        else match give o value given with
          | .error stop => .error stop
          | .ok given => read given rest
      | some o, none, rest =>
        if o.isFlag then
          match give o "true" given with
          | .error stop => .error stop
          | .ok given => read given rest
        else match rest with
          | [] => .error .mistake
          | value :: rest =>
            if looksLikeOption value then .error .mistake
            else match give o value given with
              | .error stop => .error stop
              | .ok given => read given rest

/-- Give the options that are not given yet from environment variables. -/
def readVariables (environment : List (String × String)) (given : Given) : Except Stop Given :=
  options.foldlM (fun given o =>
    match Keyed.get? o.name given, o.variableName.bind (Keyed.get? · environment) with
    | none, some value => give o value given
    | _, _ => .ok given) given

/-! ## Values -/

/-- The value of an option, given or not. -/
def value (given : Given) (name : String) : String :=
  ((Keyed.get? name given) <|> (option? name).bind Argument.default).getD ""

/-- Whether a flag is switched on. -/
def isOn (given : Given) (name : String) : Bool := value given name == "true"

/-- The number that is the value of an option. -/
def numberOf (given : Given) (name : String) : Nat :=
  (number? maxNumber64 (value given name)).getD 0

/-- The configuration that the options give. -/
def configOf (given : Given) : Config where
  esUrl := value given "es-url"
  maxConcurrentReconciles := numberOf given "max-concurrent-reconciles"
  namespace_ := some (value given "namespace") |>.filter (!·.isEmpty)
  requeueMs := 1000 * numberOf given "requeue-interval-secs"
  errorRequeueMs := 1000 * numberOf given "error-requeue-secs"
  requestTimeoutMs := 1000 * numberOf given "es-request-timeout-secs"

end IndexKeeper.CommandLine
