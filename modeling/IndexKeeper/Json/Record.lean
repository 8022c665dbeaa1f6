import IndexKeeper.Json.Basic

/-!
# Records in JSON

A record of named fields is written as an object, or as an array of its first fields in order.
Fields that the record does not name are passed over in an object and refused in an array.  A
field is required, has a default when it is absent, or is optional; only an optional field may be
null.
-/

namespace IndexKeeper.Json

/-- The fields of a record, by name. -/
structure Record where
  field? : String → Option Json

namespace Record

/-- The record of the given fields, if the value is written as one. -/
def read? (names : List String) : Json → Option Record
  | obj ms => some ⟨fun name => Keyed.get? name ms⟩
  | arr items =>
    if items.length ≤ names.length then
      some ⟨fun name => (names.zip items).findSome? fun (n, v) => if n = name then some v else none⟩
    else none
  | _ => none

variable {α : Type}

/-- A field that has to be there. -/
def required? (r : Record) (name : String) (decode : Json → Option α) : Option α :=
  (r.field? name).bind decode

/-- A field with a default. -/
def default? (r : Record) (name : String) (decode : Json → Option α) (absent : α) : Option α :=
  match r.field? name with
  | none => some absent
  | some v => decode v

/-- A field that may be absent or null. -/
def optional? (r : Record) (name : String) (decode : Json → Option α) : Option (Option α) :=
  match r.field? name with
  | none | some null => some none
  | some v => (decode v).map some

end Record

/-- A Boolean value. -/
def bool? : Json → Option Bool
  | bool b => some b
  | _ => none

/-- An array, item by item. -/
def list? {α : Type} (decode : Json → Option α) : Json → Option (List α)
  | arr items => items.mapM decode
  | _ => none

/-- An object, member by member. -/
def entries? {α : Type} (decode : Json → Option α) : Json → Option (List (String × α))
  | obj ms => ms.mapM fun (k, v) => (decode v).map fun a => (k, a)
  | _ => none

end IndexKeeper.Json
