import IndexKeeper.Manifest.Alias
import IndexKeeper.Manifest.IndexSettings
import IndexKeeper.Manifest.Naming

/-!
# Declarations

A declaration names an index or a template and says what it should be.  `check` lists what breaks
the rules; `toDesired` gives what a pass works towards, and fails if a rule is broken or a
document in it cannot be read.
-/

namespace IndexKeeper

/-- What the declaration of a template has beside that of an index. -/
structure TemplatePart where
  indexPatterns : List String
  aliases : List (String × Alias) := []
  version : Option Int := none

/-- A declaration.  There is a template part exactly in the declaration of a template. -/
structure Spec where
  name : String
  dropOnDelete : Bool := false
  settings : IndexSettings := {}
  /-- The mappings as JSON text. -/
  mappings : String := ""
  template : Option TemplatePart := none

namespace Spec

/-- The kind of the resource declared. -/
def kind (s : Spec) : Kind := if s.template.isSome then .template else .index

/-! ## Reading and writing -/

/-- The members of a declaration, in order. -/
def fields : Kind → List String
  | .index => ["name", "drop_on_delete", "settings", "mappings"]
  | .template =>
    ["name", "drop_on_delete", "index_patterns", "aliases", "settings", "mappings", "version"]

/-- The template part of a declaration. -/
def templatePart? (r : Json.Record) : Option TemplatePart := do
  let indexPatterns ← r.required? "index_patterns" (Json.list? Json.text?)
  let aliases ← r.default? "aliases" (Json.entries? Alias.ofJson?) []
  let version ← r.optional? "version" Json.int64?
  return { indexPatterns, aliases, version }

/-- The declaration of a kind that a value gives. -/
def ofJson? (kind : Kind) (v : Json) : Option Spec := do
  let r ← Json.Record.read? (fields kind) v
  let name ← r.required? "name" Json.text?
  let dropOnDelete ← r.default? "drop_on_delete" Json.bool? false
  let settings ← r.default? "settings" IndexSettings.ofJson? {}
  let mappings ← r.default? "mappings" Json.text? ""
  let template ← match kind with
    | .index => some none
    | .template => (templatePart? r).map some
  return { name, dropOnDelete, settings, mappings, template }

/-- The shape of the values that declare a resource of a kind. -/
def shape (kind : Kind) : Json.Shape :=
  let name := kind.objectName ++ "Spec"
  match kind with
  | .index =>
    .record name ["name"]
      [("name", .text), ("drop_on_delete", .bool), ("settings", IndexSettings.shape),
        ("mappings", .text)]
  | .template =>
    .record name ["name", "index_patterns"]
      [("name", .text), ("drop_on_delete", .bool), ("index_patterns", .list .text),
        ("aliases", .entries Alias.shape), ("settings", IndexSettings.shape),
        ("mappings", .text), ("version", .optional (.integer 64))]

/-- The members of the template part, without what is not set. -/
def TemplatePart.toMembers (t : TemplatePart) : List (String × Json) :=
  [("index_patterns", .ofTexts t.indexPatterns)] ++
    (if t.aliases.isEmpty then []
      else [("aliases", .obj (t.aliases.map fun (name, a) => (name, a.toJson)))]) ++
    (t.version.map fun v => ("version", Json.ofInt v)).toList

/-- The declaration as a value, without what is not set. -/
def toJson (s : Spec) : Json :=
  .ofMembers <|
    [("name", .str s.name), ("drop_on_delete", .bool s.dropOnDelete),
      ("settings", s.settings.toJson), ("mappings", .str s.mappings)] ++
    (match s.template with
      | none => []
      | some t => TemplatePart.toMembers t)

/-! ## Rules -/

/-- Whether a character may start a name. -/
def startsName (c : Char) : Bool :=
  !(['-', '_', '+'].contains c || ('A' ≤ c && c ≤ 'Z'))

/-- Whether a character may follow in a name. -/
def continuesName (c : Char) : Bool :=
  !(['\\', '/', '*', '?', '"', '<', '>', ' ', ',', '|', '#'].contains c || ('A' ≤ c && c ≤ 'Z'))

/-- Whether a text has the form of a resource name. -/
def isResourceName (name : String) : Bool :=
  match name.toList with
  | [] => false
  | c :: rest => startsName c && 1 ≤ rest.length && rest.length ≤ 254 && rest.all continuesName

/-- What the name breaks. -/
def checkName (name : String) : List Violation :=
  (if 1 ≤ name.length && name.length ≤ 255 then []
    else [⟨["name"], "length", some "name must be 1-255 characters"⟩]) ++
  (if isResourceName name then []
    else [⟨["name"], "invalid_es_name",
      some ("'" ++ name ++ "' is not a valid Elasticsearch name")⟩])

/-- What the template part breaks. -/
def checkTemplate (t : TemplatePart) : List Violation :=
  (if t.indexPatterns.isEmpty then
    [⟨["index_patterns"], "length", some "at least one index pattern is required"⟩] else []) ++
  (if t.indexPatterns.any isBlankText then
    [⟨["index_patterns"], "empty_index_pattern",
      some "index patterns must not be empty strings"⟩] else []) ++
  (if t.version.any (fun v => v < 1) then
    [⟨["version"], "range", some "version must be at least 1"⟩] else [])

/-- What the declaration breaks. -/
def check (s : Spec) : List Violation :=
  checkName s.name ++ (s.template.map checkTemplate).getD [] ++ s.settings.check ["settings"]

/-! ## What is desired -/

/-- The mappings document; a blank text is an empty one. -/
def readMappings (text : String) : Except Malformed Json :=
  if isBlankText text then .ok (.obj [])
  else match Json.ofText text with
    | .error e => .error (.mappingsText e)
    | .ok v => if v.isObject then .ok v else .error .mappingsRoot

/-- The bodies of the aliases, as sent. -/
def aliasBodies (aliases : List (String × Alias)) : Except Malformed (List (String × Json)) :=
  aliases.mapM fun (name, a) => (a.body name).map fun body => (name, body)

/-- The definition of the declared template. -/
def definition (t : TemplatePart) : Except Malformed TemplateDefinition :=
  (aliasBodies t.aliases).map fun aliases => ⟨t.indexPatterns, aliases, t.version⟩

/-- What a pass works towards, for a declaration that breaks no rule. -/
def desired (s : Spec) : Except Malformed Desired := do
  let template ← match s.template with
    | none => pure none
    | some t => some <$> definition t
  let settings ← s.settings.toTree
  let schema ← readMappings s.mappings
  return { name := s.name, dropOnDelete := s.dropOnDelete, settings, schema, template }

/-- What a pass works towards. -/
def toDesired (s : Spec) : Except Fault Desired :=
  if s.check.isEmpty then s.desired.mapError .malformed
  else .error (.invalidSpec (.violations s.check))

/-- The deletion target, whether or not the rest of the declaration can be read. -/
def deletionTarget (s : Spec) : DeletionTarget := ⟨s.name, s.kind, s.dropOnDelete⟩

end Spec

end IndexKeeper
