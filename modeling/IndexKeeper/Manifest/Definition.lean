import IndexKeeper.Manifest.IndexSettings
import IndexKeeper.Manifest.Naming
import IndexKeeper.Yaml.Printer

/-!
# Custom resource definitions

The documents with which the two kinds of declarations are made known to Kubernetes: names, the
columns shown in lists, and the schema of a declaration and of its status.  The schema of the
settings is drawn from the table of their forms, so a field that can be declared is a field of the
schema.
-/

namespace IndexKeeper.Definition

/-! ## Schemas -/

/-- A schema with a description, if there is one. -/
def described (description : Option String) (members : List (String × Json)) : Json :=
  .ofMembers (members ++ (description.map fun d => ("description", Json.str d)).toList)

/-- The member with the type of a schema. -/
def ofType (name : String) : String × Json := ("type", .str name)

/-- The member that allows nothing in place of a value. -/
def nullable : String × Json := ("nullable", .bool true)

/-- A text. -/
def text (description : Option String) : Json :=
  described description [nullable, ofType "string"]

/-- A value with a default. -/
def defaulted (typeName : String) (default : Json) (description : String) : Json :=
  described (some description) [("default", default), ofType typeName]

/-- A bound, as the double it is. -/
def bound (name : String) (value : Option Int) : List (String × Json) :=
  let double (i : Int) : Binary64 := (Binary64.ofRatio? (i < 0) i.natAbs 1).getD (.zero false)
  (value.map fun i => (name, Json.num (.real (double i)))).toList

/-- An integer of so many bits within bounds. -/
def integer (bits : Nat) (low high : Option Int) (description : Option String) : Json :=
  described description <|
    [("format", .str ("int" ++ toString bits)), nullable, ofType "integer"] ++
      bound "minimum" low ++ bound "maximum" high

/-- What the fields of the settings are for, by their paths. -/
def settingNotes : List (String × String) :=
  [("number_of_shards", "Number of primary shards (static)"),
    ("shard", "Shard checks (static)"),
    ("shard.check_on_startup", "`true`, `false` or `checksum`"),
    ("codec", "Stored fields compression (static)"),
    ("routing_partition_size", "Number of shards a custom routing value can go to (static)"),
    ("load_fixed_bitset_filters_eagerly", "Preload cached filters for nested queries (static)"),
    ("hidden", "Hide the index from wildcard expressions (static)"),
    ("auto_expand_replicas", "Dash delimited bounds such as `0-5` or `0-all`"),
    ("search.idle.after", "Time without searches before a shard is considered idle"),
    ("refresh_interval", "Refresh interval such as `1s`, `-1` disables refreshes"),
    ("blocks", "Index blocks, each `true` or `false`"),
    ("routing.allocation.enable", "`all`, `primaries`, `new_primaries` or `none`"),
    ("routing.rebalance.enable", "`all`, `primaries`, `replicas` or `none`"),
    ("gc_deletes", "How long a deleted document's version stays available")]

/-- What a field of the settings is for. -/
def settingNote (path : Path) : Option String :=
  (settingNotes.find? fun (name, _) => name == path.dotted).map Prod.snd

mutual

/-- The schema of a form at a path. -/
def ofForm (path : Path) : Form → Json
  | .integer bits range =>
    integer bits (range.bind Range.low) (range.bind Range.high) (settingNote path)
  | .text _ => text (settingNote path)
  | .group _ fields =>
    described (settingNote path)
      [nullable, ("properties", .ofMembers (ofFields path fields)), ofType "object"]

/-- The schemas of the fields of a group. -/
def ofFields (path : Path) : List (String × Form) → List (String × Json)
  | [] => []
  | (name, form) :: rest => (name, ofForm (path ++ [name]) form) :: ofFields path rest

end

/-! ## Declarations -/

/-- How the definition of a kind speaks of its parts. -/
structure Wording where
  about : String
  name : String
  dropOnDelete : String
  settings : String
  mappings : String

/-- The wording for a kind. -/
def wording : Kind → Wording
  | .index =>
    { about := "Declares one index. The operator creates it with the given settings and " ++
        "mappings and keeps dynamic settings and mappings in sync afterwards."
      name := "Name of the index"
      dropOnDelete := "Delete the index when this object is deleted"
      settings := "Index settings"
      mappings := "Index mappings as a JSON document" }
  | .template =>
    { about := "Declares one legacy index template (`/_template`). Template settings are never " ++
        "treated as immutable."
      name := "Name of the template"
      dropOnDelete := "Delete the template when this object is deleted"
      settings := "Settings applied to matching indices"
      mappings := "Mappings applied to matching indices as a JSON document" }

/-- The schema of a declared alias. -/
def alias_ : Json :=
  described (some "Alias declared by a template")
    [("properties", .ofMembers
      [("filter", text (some "Query limiting the documents visible through the alias, as JSON")),
        ("is_write_index",
          described (some "Route writes through this alias to the index") [ofType "boolean"]),
        ("routing", text (some "Routing value for both indexing and search")),
        ("index_routing", text none), ("search_routing", text none)]),
      ofType "object"]

/-- The schemas of the fields that only the declaration of a template has. -/
def templateFields : List (String × Json) :=
  [("index_patterns",
      described (some "Wildcard expressions matching the names of indices the template applies to")
        [("items", .ofMembers [ofType "string"]), ("minItems", .ofInt 1), ofType "array"]),
    ("aliases", described (some "Aliases added to indices created from the template")
      [("additionalProperties", alias_), ofType "object"]),
    ("version", integer 64 (some 1) none (some "Template version for external bookkeeping"))]

/-- The schemas of the fields of a declaration. -/
def specFields (kind : Kind) : List (String × Json) :=
  let w := wording kind
  [("name", described (some w.name)
      [("maxLength", .ofInt 255), ("minLength", .ofInt 1), ofType "string"]),
    ("drop_on_delete", defaulted "boolean" (.bool false) w.dropOnDelete),
    ("settings", described (some w.settings)
      [("default", .obj []), ("properties", .ofMembers (ofFields [] IndexSettings.fields)),
        ofType "object"]),
    ("mappings", defaulted "string" (.str "") w.mappings)] ++
  match kind with
  | .index => []
  | .template => templateFields

/-- The schema of a declaration. -/
def spec (kind : Kind) : Json :=
  let required := match kind with
    | .index => ["name"]
    | .template => ["index_patterns", "name"]
  described
    (some (kind.objectName ++ " custom resource definition\n\n" ++ (wording kind).about))
    [("properties", .ofMembers (specFields kind)), ("required", .ofTexts required),
      ofType "object"]

/-- The schema of a status. -/
def status : Json :=
  described (some "Status persisted on the desired-state object between passes")
    [nullable, ("properties", .ofMembers
      [("resourceName", defaulted "string" (.str "") "Remote resource name the status refers to"),
        ("operation",
          described (some "Last attempted operation; absent until the first create attempt")
            [("enum", .ofTexts [Operation.create.stored, Operation.update.stored]), nullable,
              ofType "string"]),
        ("acknowledged", defaulted "boolean" (.bool false)
          "Whether the remote system confirmed the last operation"),
        ("latestError", defaulted "string" (.str "")
          "Error of the last pass, empty when it succeeded")]),
      ofType "object"]

/-- The schema of the objects of a kind. -/
def schema (kind : Kind) : Json :=
  described
    (some ("Auto-generated derived type for " ++ kind.objectName ++ "Spec via `CustomResource`"))
    [("properties", .ofMembers [("spec", spec kind), ("status", status)]),
      ("required", .ofTexts ["spec"]), ("title", .str kind.objectName), ofType "object"]

/-! ## Documents -/

/-- A column shown in lists of objects. -/
def column (name typeName path : String) : Json :=
  .ofMembers [("name", .str name), ofType typeName, ("jsonPath", .str path)]

/-- The columns shown in lists of the objects of a kind. -/
def columns (kind : Kind) : List Json :=
  let title := match kind with
    | .index => "Index"
    | .template => "Template"
  [column title "string" ".spec.name", column "Operation" "string" ".status.operation",
    column "Acknowledged" "boolean" ".status.acknowledged",
    column "Age" "date" ".metadata.creationTimestamp"]

/-- The one version of a definition. -/
def version (kind : Kind) : Json :=
  .ofMembers
    [("name", .str apiVersion), ("served", .bool true), ("storage", .bool true),
      ("additionalPrinterColumns", .arr (columns kind)),
      ("schema", .ofMembers [("openAPIV3Schema", schema kind)]),
      ("subresources", .ofMembers [("status", .obj [])])]

/-- The definition of a kind. -/
def document (kind : Kind) : Json :=
  .ofMembers
    [("apiVersion", .str "apiextensions.k8s.io/v1"), ("kind", .str "CustomResourceDefinition"),
      ("metadata", .ofMembers [("name", .str (kind.plural ++ "." ++ apiGroup))]),
      ("spec", .ofMembers
        [("group", .str apiGroup),
          ("names", .ofMembers
            [("categories", .arr []), ("kind", .str kind.objectName),
              ("plural", .str kind.plural), ("shortNames", .ofTexts [kind.shortName]),
              ("singular", .str kind.singular)]),
          ("scope", .str "Namespaced"), ("versions", .arr [version kind])])]

/-- The definitions of both kinds, as documents of one text. -/
def allText : String :=
  String.intercalate "---\n" ([Kind.index, Kind.template].map fun kind => Yaml.text (document kind))

end IndexKeeper.Definition
