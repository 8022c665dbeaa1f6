import IndexKeeper.Controller.Timestamp
import IndexKeeper.Json.Shape

/-!
# Metadata of objects

The shape of the metadata that Kubernetes keeps with every object, whatever its kind.  No field has
to be there, and each may be null.
-/

namespace IndexKeeper.Controller.Metadata

open Json (Shape)

/-- A record of fields that may be left out. -/
def record (name : String) (fields : List (String × Shape)) : Shape :=
  .object name (fields.map fun (field, shape) => (field, .optional shape))

/-- A point in time. -/
def time : Shape := .textOf "an RFC 3339 formatted date and time string" Timestamp.problem?

/-- An object on which another one depends. -/
def owner : Shape :=
  record "OwnerReference"
    [("apiVersion", .text), ("blockOwnerDeletion", .bool), ("controller", .bool),
      ("kind", .text), ("name", .text), ("uid", .text)]

/-- Who wrote which fields of an object. -/
def managedFields : Shape :=
  record "ManagedFieldsEntry"
    [("apiVersion", .text), ("fieldsType", .text), ("fieldsV1", .any), ("manager", .text),
      ("operation", .text), ("subresource", .text), ("time", time)]

/-- The metadata of an object. -/
def shape : Shape :=
  record "ObjectMeta"
    [("annotations", .entries .text), ("creationTimestamp", time),
      ("deletionGracePeriodSeconds", .integer 64), ("deletionTimestamp", time),
      ("finalizers", .list .text), ("generateName", .text), ("generation", .integer 64),
      ("labels", .entries .text), ("managedFields", .list managedFields), ("name", .text),
      ("namespace", .text), ("ownerReferences", .list owner), ("resourceVersion", .text),
      ("selfLink", .text), ("uid", .text)]

end IndexKeeper.Controller.Metadata
