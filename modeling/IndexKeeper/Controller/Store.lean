import IndexKeeper.Controller.Pass
import IndexKeeper.Json.MergePatch

/-!
# Stored objects

The objects of one kind as a value, each as the document that was stored, under its namespace and
name.  Every write counts one counter up, and the object gets its number as its version.  A patch
is merged into the stored document.  `Surroundings` answers a pass of a controller from such a
store and a server with prepared responses; requests to the Kubernetes API may be made to fail.
-/

namespace IndexKeeper.Controller

/-- Stored documents by namespace and name, and the number of writes. -/
structure Store where
  documents : List (String × Json) := []
  writes : Nat := 0

namespace Store

/-- The place of an object in a store. -/
def key (namespace_ name : String) : String := namespace_ ++ "/" ++ name

/-- The place of a document in a store. -/
def keyOf (document : Json) : String :=
  let text? (name : String) := ((document.get? "metadata").bind (Json.get? name)).bind Json.text?
  key ((text? "namespace").getD Object.defaultNamespace) ((text? "name").getD "")

/-- The document of a place. -/
def get? (s : Store) (key : String) : Option Json := Keyed.get? key s.documents

/-- Write a document, with the number of the write as its version. -/
def put (s : Store) (key : String) (document : Json) : Store :=
  let version := s.writes + 1
  let stamp := Json.ofMembers [("metadata",
    .ofMembers [("resourceVersion", .str (toString version))])]
  ⟨Keyed.insert key (document.mergePatch stamp) s.documents, version⟩

/-- Merge a patch into a document, if there is one. -/
def patch (s : Store) (key : String) (patch : Json) : Store :=
  match s.get? key with
  | none => s
  | some document => s.put key (document.mergePatch patch)

/-- Remove a document. -/
def erase (s : Store) (key : String) : Store :=
  { s with documents := Keyed.erase key s.documents }

/-- A list of all documents, as objects of a kind. -/
def listing (s : Store) (kind : Kind) : Json :=
  let version := ("apiVersion", Json.str (apiGroup ++ "/" ++ apiVersion))
  let item (document : Json) : Json :=
    document.mergePatch (.ofMembers [version, ("kind", .str kind.objectName)])
  .ofMembers [version, ("items", .arr (s.documents.map fun entry => item entry.2))]

/-- All objects of a kind, if every document is one. -/
def objects (s : Store) (kind : Kind) : Except ReadError (List Object) :=
  match (Json.Shape.object "list" [("items", .list (Object.shape kind))]).readError?
      (s.listing kind) with
  | some e => .error e
  | none => .ok (s.documents.filterMap fun (_, document) => Object.ofJson? kind document)

end Store

/-- Refusals prepared for the requests to the Kubernetes API. -/
structure Refusals where
  list : Option Refusal := none
  finalizers : Option Refusal := none
  status : Option Refusal := none

/-- What surrounds a pass of a controller. -/
structure Surroundings where
  store : Store
  refusals : Refusals := {}
  server : Http.Script := {}

namespace Surroundings

/-- Merge the patch of a request into the document of its object, unless it is refused. -/
def serve (s : Surroundings) (o : Object) (r : ApiRequest) :
    Option Refusal → Except Refusal Unit × Surroundings
  | some refusal => (.error refusal, s)
  | none =>
    let patched := r.patch?.map (s.store.patch (Store.key o.home o.name))
    (.ok (), { s with store := patched.getD s.store })

/-- Answer a request to the Kubernetes API. -/
def answer (s : Surroundings) : (r : ApiRequest) → r.Answer × Surroundings
  | .list kind =>
    match s.refusals.list with
    | some refusal => (.error (.refused refusal), s)
    | none => ((s.store.objects kind).mapError .unreadable, s)
  | .patchFinalizers o finalizers => s.serve o (.patchFinalizers o finalizers) s.refusals.finalizers
  | .patchStatus o status => s.serve o (.patchStatus o status) s.refusals.status

/-- Answer an effect of a controller. -/
def respond (s : Surroundings) : (e : Effect) → e.Answer × Surroundings
  | .http r =>
    let (reply, server) := s.server.respond r
    (reply, { s with server })
  | .kubernetes r => s.answer r
  | .count _ => ((), s)

end Surroundings

/-- The requests to the Kubernetes API among the effects that a run asked for, in order. -/
def apiRequestsOf (asked : List Effect) : List ApiRequest :=
  asked.filterMap fun
    | .kubernetes r => some r
    | _ => none

/-- The metrics among the effects that a run asked for, in order. -/
def metricsOf (asked : List Effect) : List Metric :=
  asked.filterMap fun
    | .count m => some m
    | _ => none

end IndexKeeper.Controller
