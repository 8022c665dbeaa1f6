import IndexKeeper.Fault
import IndexKeeper.Json.Basic

/-!
# Ownership

Every schema document that is sent carries a marker with the identity of this operator, in the
member `_meta.managed-by`.  A resource is changed or deleted only if its schema carries exactly this
marker.  `mark` writes the marker and `isOwned` reads it; `isOwned_of_mark` says that they agree.
-/

namespace IndexKeeper

namespace Ownership

/-- The member of a schema document that holds the marker. -/
def metaField : String := "_meta"

/-- The key of the marker. -/
def ownerField : String := "managed-by"

/-- The identity written into the marker. -/
def identity : String := "elasticsearch-objects-operator.xo.90poe.io"

/-- The schema document with the marker; everything else in it is kept. -/
def mark : Json → Except Malformed Json
  | .obj ms =>
    match (Keyed.get? metaField ms).getD (.obj []) with
    | .obj entries =>
      .ok (.obj (Keyed.insert metaField
        (.obj (Keyed.insert ownerField (.str identity) entries)) ms))
    | _ => .error .ownerField
  | _ => .error .schemaRoot

/-- Whether a schema document carries the marker, as a text and with exactly this identity. -/
def isOwned (schema : Json) : Bool :=
  match (schema.get? metaField).bind (Json.get? ownerField) with
  | some (.str s) => s == identity
  | _ => false

theorem isOwned_of_mark {schema marked : Json} (h : mark schema = .ok marked) :
    isOwned marked = true := by
  unfold mark at h
  split at h
  · split at h
    · cases h
      simp [isOwned, Json.get?]
    · cases h
  · cases h

end Ownership

end IndexKeeper
