import IndexKeeper.Json.Record
import IndexKeeper.Json.Shape
import IndexKeeper.Ownership
import IndexKeeper.Settings.Difference

/-!
# Resources, desired and observed

A resource of the cluster is an index or an index template.  `Desired` is what a declaration asks
for, `Observed` what the cluster reports, `Payload` what a creation sends, and `Status` what is
kept at the declaration from one pass to the next.
-/

namespace IndexKeeper

/-- The kinds of resources. -/
inductive Kind
  | index
  | template
  deriving DecidableEq, Repr

/-- The word for a kind in messages and in the names of metrics. -/
def Kind.label : Kind → String
  | .index => "index"
  | .template => "template"

/-- The finalizer that guards the declarations of a kind. -/
def Kind.finalizer : Kind → String
  | .index => "finalizer.elasticsearchindex.90poe.io"
  | .template => "finalizer.elasticsearchtemplate.90poe.io"

/-! ## Template definitions -/

/-- What a template has beside settings and schema.  The bodies of aliases are as sent. -/
structure TemplateDefinition where
  indexPatterns : List String := []
  aliases : List (String × Json) := []
  version : Option Int := none
  deriving Inhabited

namespace TemplateDefinition

/-- Whether an observed alias body is other than the wanted one.  Objects are compared over the
wanted leaves, because the server may add fields. -/
def aliasDiffers (want seen : Json) : Bool :=
  match Tree.ofDocument? want, Tree.ofDocument? seen with
  | .ok w, .ok s => Tree.schemaDiffers w s
  | _, _ => !want.sameValue seen

/-- Whether an observed template has to be replaced by this one. -/
def differsFrom (want observed : TemplateDefinition) : Bool :=
  want.indexPatterns != observed.indexPatterns || want.version != observed.version ||
    want.aliases.length != observed.aliases.length ||
    want.aliases.any fun (name, body) =>
      match Keyed.get? name observed.aliases with
      | none => true
      | some seen => aliasDiffers body seen

end TemplateDefinition

/-! ## Desired, observed, sent -/

/-- What a declaration asks for.  There is a definition exactly for a template. -/
structure Desired where
  name : String
  dropOnDelete : Bool
  settings : Tree
  schema : Json
  template : Option TemplateDefinition

namespace Desired

/-- The kind of the resource asked for. -/
def kind (d : Desired) : Kind := if d.template.isSome then .template else .index

/-- Whether fixed settings are enforced: the settings of a template can always be replaced. -/
def enforcesFixed (d : Desired) : Bool := d.template.isNone

/-- What a creation sends. -/
structure Payload where
  settings : Tree
  schema : Json
  template : Option TemplateDefinition

/-- The payload of a creation: the schema carries the marker. -/
def payload (d : Desired) : Except Malformed Payload :=
  (Ownership.mark d.schema).map fun schema => ⟨d.settings, schema, d.template⟩

end Desired

/-- What the cluster reports.  There is a definition exactly for a template. -/
structure Observed where
  settings : Tree := .empty
  schema : Option Json := none
  template : Option TemplateDefinition := none

/-- The schema, if it carries the marker of this operator. -/
def Observed.ownedSchema? (o : Observed) : Option Json :=
  o.schema.filter Ownership.isOwned

/-- The part of a declaration that decides about deletion. -/
structure DeletionTarget where
  name : String
  kind : Kind
  dropOnDelete : Bool
  deriving DecidableEq, Repr

/-- The deletion target of what a declaration asks for. -/
def Desired.deletionTarget (d : Desired) : DeletionTarget := ⟨d.name, d.kind, d.dropOnDelete⟩

/-! ## Status -/

/-- The operations that a status speaks of. -/
inductive Operation
  | create
  | update
  deriving DecidableEq, Repr

namespace Operation

/-- The operation in messages. -/
def label : Operation → String
  | create => "create"
  | update => "update"

/-- The operation in a stored status. -/
def stored : Operation → String
  | create => "Create"
  | update => "Update"

/-- The operation that a stored word names. -/
def ofWord? (word : String) : Option Operation :=
  [create, update].find? fun o => o.stored == word

/-- The operation of a stored status: its word, or an object with the word as only key and
nothing under it. -/
def ofStored? : Json → Option Operation
  | .str word => ofWord? word
  | .obj [(word, .null)] => ofWord? word
  | _ => none

end Operation

/-- What is kept at a declaration from one pass to the next: the resource it is about, the last
operation that was tried, whether the cluster confirmed it, and the error of the last pass. -/
structure Status where
  resourceName : String := ""
  operation : Option Operation := none
  acknowledged : Bool := false
  latestError : String := ""
  deriving DecidableEq, Repr, Inhabited

namespace Status

/-- A creation was tried and not confirmed. -/
def isUnacknowledgedCreate (s : Status) : Bool :=
  s.operation == some .create && !s.acknowledged

/-- The operation to record when a pass fails after this status: only a creation that is still
unconfirmed stays one. -/
def failureOperation (s : Status) : Operation :=
  if s.isUnacknowledgedCreate then .create else .update

/-- The status after a confirmed operation. -/
def succeeded (name : String) (operation : Operation) : Status :=
  ⟨name, some operation, true, ""⟩

/-- The status after an operation that failed. -/
def failed (name : String) (operation : Operation) (error : Fault) : Status :=
  ⟨name, some operation, false, error.message⟩

/-- The members of a stored status, in order. -/
def fields : List String := ["resourceName", "operation", "acknowledged", "latestError"]

/-- The shape of a stored status. -/
def shape : Json.Shape :=
  .record "ReconciliationStatus" []
    [("resourceName", .text),
      ("operation", .optional (.word Operation.create.stored Operation.update.stored)),
      ("acknowledged", .bool), ("latestError", .text)]

/-- The status as stored: without an operation there is no member for it. -/
def toJson (s : Status) : Json :=
  .ofMembers <|
    [("resourceName", .str s.resourceName), ("acknowledged", .bool s.acknowledged),
      ("latestError", .str s.latestError)] ++
    (s.operation.map fun o => ("operation", Json.str o.stored)).toList

/-- The status that was stored, if the value is one. -/
def ofJson? (v : Json) : Option Status := do
  let r ← Json.Record.read? fields v
  let resourceName ← r.default? "resourceName" Json.text? ""
  let operation ← r.optional? "operation" Operation.ofStored?
  let acknowledged ← r.default? "acknowledged" Json.bool? false
  let latestError ← r.default? "latestError" Json.text? ""
  return { resourceName, operation, acknowledged, latestError }

end Status

end IndexKeeper
