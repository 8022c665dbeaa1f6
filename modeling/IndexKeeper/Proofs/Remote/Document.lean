import IndexKeeper.Proofs.Json.RoundTrip
import IndexKeeper.Proofs.Settings.Expansion
import IndexKeeper.Remote.Report

/-!
# Documents of resources

The document that creates a resource and the entry that shows one have the same members, but they
are written and read apart: aliases and version are left out where there are none, and what has
another form than it should is passed over.  `observed_body` says that nothing is lost between the
two: what a document creates is what its entry shows.
-/

namespace IndexKeeper

namespace Report

/-- The document that creates a resource. -/
def body : Kind → Desired.Payload → Json
  | .index => ofIndex
  | .template => ofTemplate

/-- A resource as its entry shows it. -/
def observed : Kind → Json → Except RemoteError Observed
  | .index => index
  | .template => template

/-- What a payload of a resource should be seen as. -/
def seen (kind : Kind) (p : Desired.Payload) : Observed where
  settings := p.settings
  schema := some p.schema
  template := match kind with
    | .index => none
    | .template => p.template

/-- A payload of a template comes with a definition, and a version is a signed integer of 64
bits. -/
def Complete (kind : Kind) (p : Desired.Payload) : Prop :=
  kind = .template → ∃ t, p.template = some t ∧
    ∀ v, t.version = some v → -Int.pow 2 63 ≤ v ∧ v < Int.pow 2 63

theorem settings_of_expanded {entry : Json} {t : Tree} (h : t.Expanded)
    (hentry : entry.get? settingsField = some t.toJson) : settings entry = .ok t := by
  rw [settings, hentry]
  simp only [Tree.toJson]
  rw [show Json.obj t.members = t.toJson from rfl, Tree.ofSettings?_toJson h]
  rfl

theorem texts_ofTexts (l : List String) : texts (.ofTexts l) = l := by
  rw [Json.ofTexts, texts, List.filterMap_map]
  exact List.filterMap_some

theorem int64?_ofInt {v : Int} (hlow : -Int.pow 2 63 ≤ v) (hhigh : v < Int.pow 2 63) :
    (Json.ofInt v).int64? = some v := by
  have hbounds : -Int.pow 2 63 ≤ v ∧ v ≤ Int.pow 2 63 - 1 := ⟨hlow, Int.le_sub_one_of_lt hhigh⟩
  rw [Json.int64?, Json.signed?, Json.ofInt, Json.intWithin?, if_pos hbounds]

/-- An index is seen as it was created. -/
theorem index_ofIndex {p : Desired.Payload} (h : p.settings.Expanded) :
    index (ofIndex p) = .ok (seen .index p) := by
  have hsettings : (ofIndex p).get? settingsField = some p.settings.toJson := by
    simp [ofIndex, Json.ofMembers, Json.get?, Keyed.ofList, Keyed.get?_insert, settingsField,
      schemaField]
  have hschema : (ofIndex p).get? schemaField = some p.schema := by
    simp [ofIndex, Json.ofMembers, Json.get?, Keyed.ofList]
  rw [index, settings_of_expanded h hsettings, hschema]
  rfl

/-- What is under the keys of the document that creates a template. -/
theorem get?_ofTemplate {p : Desired.Payload} {t : TemplateDefinition} (ht : p.template = some t)
    (key : String) :
    (ofTemplate p).get? key =
      if key = "version" ∧ t.version.isSome then t.version.map Json.ofInt
      else if key = "aliases" ∧ t.aliases ≠ [] then some (.obj t.aliases)
      else if key = schemaField then some p.schema
      else if key = settingsField then some p.settings.toJson
      else if key = "index_patterns" then some (.ofTexts t.indexPatterns)
      else none := by
  cases hversion : t.version <;> cases haliases : t.aliases <;>
    simp [ofTemplate, ht, hversion, haliases, Json.ofMembers, Json.get?, Keyed.ofList,
      Keyed.get?_insert]

/-- A template is seen as it was created. -/
theorem template_ofTemplate {p : Desired.Payload} {t : TemplateDefinition}
    (h : p.settings.Expanded) (ht : p.template = some t)
    (hversion : ∀ v, t.version = some v → -Int.pow 2 63 ≤ v ∧ v < Int.pow 2 63) :
    template (ofTemplate p) = .ok (seen .template p) := by
  have hsettings : (ofTemplate p).get? settingsField = some p.settings.toJson := by
    simp [get?_ofTemplate ht, settingsField, schemaField]
  have hschema : (ofTemplate p).get? schemaField = some p.schema := by
    simp [get?_ofTemplate ht, schemaField]
  have hdefinition : definition (ofTemplate p) = t := by
    have hpatterns : (ofTemplate p).get? "index_patterns" = some (.ofTexts t.indexPatterns) := by
      simp [get?_ofTemplate ht, settingsField, schemaField]
    have haliases : (((ofTemplate p).get? "aliases").bind Json.members?).getD [] = t.aliases := by
      cases haliases : t.aliases <;>
        simp [get?_ofTemplate ht, haliases, settingsField, schemaField, Json.members?]
    have hversion' : ((ofTemplate p).get? "version").bind Json.int64? = t.version := by
      cases hv : t.version with
      | none => simp [get?_ofTemplate ht, hv, settingsField, schemaField]
      | some v =>
        obtain ⟨hlow, hhigh⟩ := hversion v hv
        simp [get?_ofTemplate ht, hv, int64?_ofInt hlow hhigh]
    rw [definition, hpatterns, haliases, hversion', Option.map_some, texts_ofTexts]
    rfl
  rw [template, settings_of_expanded h hsettings, hschema, hdefinition, seen, ht]
  rfl

/-- What a document creates is what its entry shows. -/
theorem observed_body {kind : Kind} {p : Desired.Payload} (h : p.settings.Expanded)
    (hcomplete : Complete kind p) : observed kind (body kind p) = .ok (seen kind p) := by
  cases kind with
  | index => exact index_ofIndex h
  | template =>
    obtain ⟨t, ht, hversion⟩ := hcomplete rfl
    exact template_ofTemplate h ht hversion

/-! ## Readable documents -/

theorem readable_ofMembers {depth : Nat} {entries : List (String × Json)}
    (h : ∀ e ∈ entries, Json.Readable depth e.2) : Json.Readable (depth + 1) (.ofMembers entries) :=
  .obj (.ofList entries) fun e he => h e (Keyed.mem_ofList he)

/-- The document that creates a resource is one level above its parts. -/
theorem readable_body {kind : Kind} {p : Desired.Payload} (hcomplete : Complete kind p)
    (depth : Nat) (hsettings : Json.Readable (depth + 1) p.settings.toJson)
    (hschema : Json.Readable (depth + 1) p.schema)
    (haliases : ∀ t, p.template = some t → Json.Readable (depth + 1) (.obj t.aliases)) :
    Json.Readable (depth + 2) (body kind p) := by
  cases kind with
  | index =>
    refine readable_ofMembers fun e he => ?_
    simp only [List.mem_cons, List.not_mem_nil, or_false] at he
    rcases he with rfl | rfl
    · exact hsettings
    · exact hschema
  | template =>
    obtain ⟨t, ht, hversion⟩ := hcomplete rfl
    refine readable_ofMembers fun e he => ?_
    simp only [ht, Option.getD_some, List.mem_append, List.mem_cons, List.not_mem_nil, or_false,
      Option.mem_toList, Option.map_eq_some_iff] at he
    rcases he with ((rfl | rfl | rfl) | he) | ⟨v, hv, rfl⟩
    · refine .arr fun pattern hpattern => ?_
      obtain ⟨text, _, rfl⟩ := List.mem_map.mp hpattern
      exact .str depth text
    · exact hsettings
    · exact hschema
    · split at he
      · cases he
      · rw [List.mem_singleton] at he
        rw [he]
        exact haliases t ht
    · obtain ⟨hlow, hhigh⟩ := hversion v hv
      exact .num _ ⟨hlow, Int.lt_of_lt_of_le hhigh (by decide)⟩

end Report

end IndexKeeper
