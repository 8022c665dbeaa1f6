import IndexKeeper.Fault
import IndexKeeper.Resource

/-!
# Reports

What a cluster reports about a resource: an object with an entry for each resource that the name
of the request stands for.  The entry of a name is the one under the name, or the only one there
is, because a name that is an alias is answered under the name it stands for.  What creates a
resource has the members of its entry.
-/

namespace IndexKeeper.Report

/-- The member with the settings. -/
def settingsField : String := "settings"

/-- The member with the schema. -/
def schemaField : String := "mappings"

/-- The entry of a name in what a cluster reports. -/
def entry (name : String) : Json → Except RemoteError Json
  | .obj entries =>
    match Keyed.get? name entries with
    | some entry => .ok entry
    | none =>
      match entries with
      | [] => .error .notFound
      | [(_, entry)] => .ok entry
      | several => .error (.decode (.ambiguous name (Keyed.keys several)))
  | _ => .error (.decode (.notKeyed name))

/-- The settings of an entry; without any they are empty. -/
def settings (entry : Json) : Except RemoteError Tree :=
  match entry.get? settingsField with
  | none | some .null => .ok .empty
  | some v => (Tree.ofSettings? v).mapError fun m => .decode (.settings m)

/-- The texts among the items of an array. -/
def texts : Json → List String
  | .arr items => items.filterMap Json.text?
  | _ => []

/-- The definition of a template in its entry; what has another form than it should is left
out. -/
def definition (entry : Json) : TemplateDefinition where
  indexPatterns := ((entry.get? "index_patterns").map texts).getD []
  aliases := ((entry.get? "aliases").bind Json.members?).getD []
  version := (entry.get? "version").bind Json.int64?

/-- An index as its entry shows it. -/
def index (entry : Json) : Except RemoteError Observed :=
  (settings entry).map fun settings => { settings, schema := entry.get? schemaField }

/-- A template as its entry shows it. -/
def template (entry : Json) : Except RemoteError Observed :=
  (settings entry).map fun settings =>
    { settings, schema := entry.get? schemaField, template := some (definition entry) }

/-- What creates an index. -/
def ofIndex (p : Desired.Payload) : Json :=
  .ofMembers [(settingsField, p.settings.toJson), (schemaField, p.schema)]

/-- What creates a template.  Aliases and version are left out where there are none. -/
def ofTemplate (p : Desired.Payload) : Json :=
  let t := p.template.getD {}
  .ofMembers <|
    [("index_patterns", .ofTexts t.indexPatterns), (settingsField, p.settings.toJson),
      (schemaField, p.schema)] ++
    (if t.aliases.isEmpty then [] else [("aliases", .obj t.aliases)]) ++
    (t.version.map fun v => ("version", Json.ofInt v)).toList

end IndexKeeper.Report
