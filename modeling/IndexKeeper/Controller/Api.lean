import IndexKeeper.Controller.Object
import IndexKeeper.Manifest.Naming

/-!
# The Kubernetes API

The requests that a controller makes of the Kubernetes API, with their paths and bodies.  Objects
are listed over all namespaces.  Finalizers and status are written by merge patches; the patch of
the finalizers carries the version of the object, so that it fails where somebody else was faster.
-/

namespace IndexKeeper.Controller

/-- The path of a group of objects, in one namespace or in all. -/
def collectionPath (kind : Kind) (namespace_ : Option String) : String :=
  "/apis/" ++ apiGroup ++ "/" ++ apiVersion ++ "/" ++
    (namespace_.map fun n => "namespaces/" ++ n ++ "/").getD "" ++ kind.plural

/-- The path of an object. -/
def Object.path (o : Object) : String :=
  collectionPath o.kind (some o.home) ++ "/" ++ o.name

/-- A request to the Kubernetes API. -/
inductive ApiRequest
  /-- List all objects of a kind. -/
  | list (kind : Kind)
  /-- Write the finalizers of an object. -/
  | patchFinalizers (object : Object) (finalizers : List String)
  /-- Write the status of an object. -/
  | patchStatus (object : Object) (status : Status)

/-- A refusal by the Kubernetes API. -/
structure Refusal where
  message : String
  reason : String
  deriving DecidableEq, Repr

/-- Why a request for a list gave no objects. -/
inductive ListError
  | refused (cause : Refusal)
  /-- Something in the list is not an object of the kind. -/
  | unreadable (cause : ReadError)
  deriving DecidableEq, Repr

/-- The fault of a list that gave no objects. -/
def ListError.fault : ListError → Fault
  | refused cause => .kubernetes cause.message cause.reason
  | unreadable cause => .unreadableList cause

namespace ApiRequest

/-- What a request answers. -/
@[reducible] def Answer : ApiRequest → Type
  | list _ => Except ListError (List Object)
  | _ => Except Refusal Unit

/-- The path of a request. -/
def path : ApiRequest → String
  | list kind => collectionPath kind none
  | patchFinalizers o _ => o.path
  | patchStatus o _ => o.path ++ "/status"

/-- The merge patch that a request carries. -/
def patch? : ApiRequest → Option Json
  | list _ => none
  | patchFinalizers o finalizers =>
    some <| .ofMembers [("metadata", .ofMembers [("finalizers", .ofTexts finalizers),
      ("resourceVersion", (o.resourceVersion.map Json.str).getD .null)])]
  | patchStatus _ status => some <| .ofMembers [("status", status.toJson)]

end ApiRequest

end IndexKeeper.Controller
