import IndexKeeper.Fault
import IndexKeeper.Text.Blank

/-!
# Configuration

What the operator runs with.  `validate` refuses what the controllers can't run with; the first
defect in the order of the fields counts.
-/

namespace IndexKeeper

/-- The configuration of the operator.  Durations are in milliseconds. -/
structure Config where
  /-- The base address of the cluster. -/
  esUrl : String
  /-- How many passes run at once, for each kind. -/
  maxConcurrentReconciles : Nat := 2
  /-- The namespace to watch, or all of them. -/
  namespace_ : Option String := none
  /-- The wait after a pass that went well. -/
  requeueMs : Nat := 120000
  /-- The wait after a pass that failed. -/
  errorRequeueMs : Nat := 30000
  requestTimeoutMs : Nat := 30000
  deriving DecidableEq, Repr

namespace Config

/-- The addresses that can be used start with one of these. -/
def schemes : List String := ["http://", "https://"]

/-- The intervals with the settings they come from. -/
def intervals (c : Config) : List (String × Nat) :=
  [("REQUEUE_INTERVAL_SECS", c.requeueMs), ("ERROR_REQUEUE_SECS", c.errorRequeueMs),
    ("ES_REQUEST_TIMEOUT_SECS", c.requestTimeoutMs)]

/-- The first defect of a configuration. -/
def defect? (c : Config) : Option ConfigDefect :=
  let url := trimBlanks c.esUrl
  if url.isEmpty then some .emptyUrl
  else if !(schemes.any fun scheme => url.startsWith scheme) then some (.urlScheme url)
  else if c.maxConcurrentReconciles = 0 then some .noConcurrency
  else (c.intervals.find? fun (_, ms) => ms == 0).map fun (name, _) => .zeroInterval name

/-- Refuse a configuration with a defect. -/
def validate (c : Config) : Except Fault Unit :=
  match c.defect? with
  | some d => .error (.invalidConfig d)
  | none => .ok ()

end Config

end IndexKeeper
