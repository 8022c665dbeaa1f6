import IndexKeeper.Json.ReadError
import IndexKeeper.Manifest.Violation
import IndexKeeper.Yaml.TextList

/-!
# Faults

What can go wrong, as causes: at the cluster (`RemoteError`), and in the work as a whole
(`Fault`).  `message` is the wording of each.  A fault is permanent if only a change of the
declaration can mend it, and retryable if the same pass may succeed later.
-/

namespace IndexKeeper

/-- Why a document or a settings tree does not have the form it must have. -/
inductive Malformed
  | settingsRoot
  | documentRoot
  /-- Two values meet at one setting. -/
  | conflict (setting : String)
  | schemaRoot
  | ownerField
  | mappingsText (cause : ReadError)
  | mappingsRoot
  | aliasFilter (alias_ : String) (cause : ReadError)
  /-- A defect known by its description only. -/
  | described (text : String)
  deriving DecidableEq, Repr

/-- The wording of a defect of form. -/
def Malformed.message : Malformed → String
  | settingsRoot => "configuration root must be an object"
  | documentRoot => "document root must be an object"
  | conflict setting => "conflicting values for setting " ++ setting
  | schemaRoot => "schema document must be a JSON object"
  | ownerField => "schema field _meta must be a JSON object"
  | mappingsText cause => "can't parse mappings: " ++ cause.message
  | mappingsRoot => "mappings must be a JSON object"
  | aliasFilter name cause => "can't parse filter of alias " ++ name ++ ": " ++ cause.message
  | described text => text

/-- The wording of a defect of form as a fault of its own. -/
def Malformed.report (m : Malformed) : String := "structural error: " ++ m.message

/-! ## At the cluster -/

/-- Why a request got no usable answer. -/
inductive TransportError
  | unusableUrl
  | unsupportedUrl (url : String)
  | unanswered (url : String)
  | brokenBody
  deriving DecidableEq, Repr

/-- The wording of a failed request. -/
def TransportError.message : TransportError → String
  | unusableUrl => "builder error"
  | unsupportedUrl url => "builder error for url (" ++ url ++ ")"
  | unanswered url => "error sending request for url (" ++ url ++ ")"
  | brokenBody => "error decoding response body"

/-- Why the body of an answer says nothing usable. -/
inductive DecodeError
  | body (cause : ReadError)
  | notKeyed (name : String)
  | ambiguous (name : String) (found : List String)
  | templateNotObject (name : String)
  | settings (cause : Malformed)
  /-- A defect known by its description only. -/
  | described (text : String)
  deriving DecidableEq, Repr

/-- The wording of an unusable body. -/
def DecodeError.message : DecodeError → String
  | body cause => cause.message
  | notKeyed name => "expected an object keyed by '" ++ name ++ "'"
  | ambiguous name found =>
    "'" ++ name ++ "' resolves to " ++ toString found.length ++ " resources: " ++
      String.intercalate ", " found
  | templateNotObject name => "template " ++ name ++ " is not an object"
  | settings cause => cause.report
  | described text => text

/-- An error of the cluster. -/
inductive RemoteError
  | notFound
  | transport (cause : TransportError)
  /-- An answer with a status other than success. -/
  | status (code : Nat) (body : String)
  /-- A change that the cluster answered and did not confirm. -/
  | notAcknowledged (operation : String)
  | decode (cause : DecodeError)
  deriving DecidableEq, Repr

namespace RemoteError

/-- The wording of an error of the cluster. -/
def message : RemoteError → String
  | notFound => "es object not found"
  | transport cause => "elasticsearch request failed: " ++ cause.message
  | status code body => "elasticsearch returned status " ++ toString code ++ ": " ++ body
  | notAcknowledged operation => operation ++ " was not acknowledged"
  | decode cause => "can't decode elasticsearch response: " ++ cause.message

/-- Whether the same request may succeed later. -/
def isTransient : RemoteError → Bool
  | transport _ => true
  | status code _ => 500 ≤ code
  | _ => false

end RemoteError

/-! ## In the work as a whole -/

/-- Why the configuration can't be run with. -/
inductive ConfigDefect
  | emptyUrl
  | urlScheme (url : String)
  | noConcurrency
  | zeroInterval (setting : String)
  /-- A defect known by its description only. -/
  | described (text : String)
  deriving DecidableEq, Repr

/-- The wording of a defect of the configuration. -/
def ConfigDefect.message : ConfigDefect → String
  | emptyUrl => "ES_URL must not be empty"
  | urlScheme url => "ES_URL '" ++ url ++ "' must start with http:// or https://"
  | noConcurrency => "MAX_CONCURRENT_RECONCILES must be at least 1"
  | zeroInterval setting => setting ++ " must be greater than zero"
  | described text => text

/-- What is wrong with a declaration. -/
inductive SpecDefect
  | violations (found : List Violation)
  /-- A defect known by its description only. -/
  | described (text : String)
  deriving DecidableEq, Repr

/-- The wording of what is wrong with a declaration. -/
def SpecDefect.message : SpecDefect → String
  | violations found => Violation.report found
  | described text => text

/-- What went wrong with a piece of work. -/
inductive Fault
  /-- The Kubernetes API refused a request. -/
  | kubernetes (message reason : String)
  /-- The Kubernetes API answered with a list that can't be read. -/
  | unreadableList (cause : ReadError)
  | remote (cause : RemoteError)
  /-- A setting that is fixed at creation would have to change. -/
  | immutableSetting (path observed desired : String)
  /-- The resource does not carry the marker of this operator. -/
  | notOwned (name : String)
  | malformed (cause : Malformed)
  | invalidSpec (cause : SpecDefect)
  | invalidConfig (cause : ConfigDefect)
  | reconcileFailed (text : String)
  | unreadableJson (cause : ReadError)
  | unreadableYaml (cause : Yaml.NotTexts)
  | finalizer (text : String)
  deriving DecidableEq, Repr

namespace Fault

/-- How a refusal of the Kubernetes API reads. -/
def apiRefusal (message reason : String) : String :=
  "ApiError: " ++ message ++ ": " ++ reason

/-- The wording of a fault. -/
def message : Fault → String
  | kubernetes message reason => "Kubernetes API error: " ++ apiRefusal message reason
  | unreadableList cause =>
    "Kubernetes API error: Error deserializing response: " ++ cause.message
  | remote cause => cause.message
  | immutableSetting path observed desired =>
    "can't change static setting " ++ path ++ " from '" ++ observed ++ "' to '" ++ desired ++ "'"
  | notOwned name => "'" ++ name ++ "' is not managed by this operator"
  | malformed cause => cause.report
  | invalidSpec cause => "Validation error: " ++ cause.message
  | invalidConfig cause => "Invalid configuration: " ++ cause.message
  | reconcileFailed text => "Reconciliation failed: " ++ text
  | unreadableJson cause => "Serialization error: " ++ cause.message
  | unreadableYaml cause => "YAML serialization error: " ++ cause.message
  | finalizer text => "Finalizer error: " ++ text

/-- Whether only a change of the declaration can mend the fault. -/
def isPermanent : Fault → Bool
  | immutableSetting .. | notOwned _ | malformed _ | invalidSpec _ => true
  | _ => false

/-- Whether the same work may succeed later. -/
def isRetryable : Fault → Bool
  | kubernetes .. | unreadableList _ | reconcileFailed _ => true
  | remote cause => cause.isTransient
  | _ => false

end Fault

end IndexKeeper
