import IndexKeeper.Controller.Metadata
import IndexKeeper.Manifest.Spec

/-!
# Objects

A declaration as Kubernetes stores it: the metadata that a controller looks at, the declaration
itself, and the status that the last pass left.
-/

namespace IndexKeeper.Controller

/-- A stored declaration. -/
structure Object where
  name : String := ""
  namespace_ : Option String := none
  uid : Option String := none
  resourceVersion : Option String := none
  finalizers : List String := []
  /-- The object is being deleted. -/
  deleted : Bool := false
  spec : Spec
  status : Option Status := none

namespace Object

/-- The namespace of objects that name none. -/
def defaultNamespace : String := "default"

/-- The kind of resource that the object declares. -/
def kind (o : Object) : Kind := o.spec.kind

/-- The namespace that the object is in. -/
def home (o : Object) : String := o.namespace_.getD defaultNamespace

/-- The status that the last pass left, or the first one. -/
def previous (o : Object) : Status := o.status.getD {}

/-- Whether the finalizer of this operator guards the object. -/
def isGuarded (o : Object) : Bool := o.finalizers.contains o.kind.finalizer

/-- The shape of the documents of a kind. -/
def shape (kind : Kind) : Json.Shape :=
  .record kind.objectName ["metadata", "spec"]
    [("metadata", Metadata.shape), ("spec", Spec.shape kind), ("status", .optional Status.shape)]

/-- A member of an object that may be absent or null. -/
def optional? {α : Type} (v : Json) (name : String) (decode : Json → Option α) :
    Option (Option α) :=
  Json.Record.optional? ⟨fun name => v.get? name⟩ name decode

/-- The object of a kind that a value gives. -/
def ofJson? (kind : Kind) (v : Json) : Option Object := do
  let metadata := (v.get? "metadata").getD (.obj [])
  let name ← optional? metadata "name" Json.text?
  let namespace_ ← optional? metadata "namespace" Json.text?
  let uid ← optional? metadata "uid" Json.text?
  let resourceVersion ← optional? metadata "resourceVersion" Json.text?
  let finalizers ← optional? metadata "finalizers" (Json.list? Json.text?)
  let deletion ← optional? metadata "deletionTimestamp" Json.text?
  let spec ← (v.get? "spec").bind (Spec.ofJson? kind)
  let status ← optional? v "status" Status.ofJson?
  return { name := name.getD "", namespace_, uid, resourceVersion,
           finalizers := finalizers.getD [], deleted := deletion.isSome, spec, status }

end Object

end IndexKeeper.Controller
