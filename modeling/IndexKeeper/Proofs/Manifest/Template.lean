import IndexKeeper.Proofs.Keyed
import IndexKeeper.Proofs.Manifest.Declared
import IndexKeeper.Proofs.Settings.Coverage
import Mathlib.Data.List.Sort

/-!
# Declared templates

What the declaration of a template asks for, and when a stored definition has all of it.  A
definition is `CoveredBy` another if the two agree on index patterns, version and the names of the
aliases, and the other has every leaf of every alias body, with the text by which leaves are
compared.  So the other may have more in its alias bodies, and a map without leaves asks for
nothing.
-/

namespace IndexKeeper

/-! ## Coverage -/

/-- Entries in order that are as many as others, and whose keys are among theirs, have the same
keys. -/
theorem Keyed.keys_eq_of_subset {α : Type} {entries entries' : List (String × α)}
    (h : Ordered entries) (h' : Ordered entries') (hlength : entries.length = entries'.length)
    (hsubset : ∀ key ∈ keys entries, key ∈ keys entries') : keys entries = keys entries' := by
  have hkeys : (keys entries).Pairwise (· < ·) := List.pairwise_map.mpr h
  have hkeys' : (keys entries').Pairwise (· < ·) := List.pairwise_map.mpr h'
  have hnodup : (keys entries).Nodup := by
    refine hkeys.imp ?_
    rintro key _ hlt rfl
    exact String.lt_irrefl key hlt
  have hperm : (keys entries).Perm (keys entries') := by
    refine (List.subperm_of_subset hnodup hsubset).perm_of_length_le ?_
    rw [keys, keys, List.length_map, List.length_map, hlength]
  exact hperm.eq_of_pairwise' hkeys hkeys'

namespace TemplateDefinition

/-- A definition has all of another. -/
structure CoveredBy (want seen : TemplateDefinition) : Prop where
  indexPatterns : want.indexPatterns = seen.indexPatterns
  version : want.version = seen.version
  names : Keyed.keys want.aliases = Keyed.keys seen.aliases
  bodies : ∀ name body, Keyed.get? name want.aliases = some body →
    ∃ body', Keyed.get? name seen.aliases = some body' ∧ body.CoveredBy body'

theorem CoveredBy.refl (t : TemplateDefinition) : t.CoveredBy t :=
  ⟨rfl, rfl, rfl, fun _ body h => ⟨body, h, .refl body⟩⟩

theorem coveredBy_of_aliasDiffers {want seen : Json} (hwant : want.isObject = true)
    (hseen : seen.isObject = true) (h : aliasDiffers want seen = false) : want.CoveredBy seen := by
  obtain ⟨ms, rfl⟩ := Json.eq_obj_of_isObject hwant
  obtain ⟨ms', rfl⟩ := Json.eq_obj_of_isObject hseen
  exact Tree.coveredBy_of_schemaDiffers h

/-- A definition whose aliases are a map of objects, as a declaration gives it. -/
structure Mapped (t : TemplateDefinition) : Prop where
  ordered : Keyed.Ordered t.aliases
  objects : ∀ e ∈ t.aliases, e.2.isObject = true

/-- A definition that does not differ has all of the wanted one. -/
theorem coveredBy_of_differsFrom {want seen : TemplateDefinition} (hwant : want.Mapped)
    (hseen : seen.Mapped) (h : want.differsFrom seen = false) : want.CoveredBy seen := by
  simp only [differsFrom, Bool.or_eq_false_iff, bne_eq_false_iff_eq, List.any_eq_false] at h
  obtain ⟨⟨⟨hpatterns, hversion⟩, hlength⟩, hbodies⟩ := h
  -- every wanted alias is seen, and its body covers the wanted one
  have hbody : ∀ name body, (name, body) ∈ want.aliases →
      ∃ body', Keyed.get? name seen.aliases = some body' ∧ body.CoveredBy body' := by
    intro name body hmem
    have hsame := hbodies (name, body) hmem
    cases hget : Keyed.get? name seen.aliases with
    | none => simp [hget] at hsame
    | some body' =>
      simp only [hget, Bool.not_eq_true] at hsame
      have hobject := hseen.objects _ (Keyed.mem_of_get? hget)
      exact ⟨body', rfl, coveredBy_of_aliasDiffers (hwant.objects _ hmem) hobject hsame⟩
  refine ⟨hpatterns, hversion, ?_, fun name body hget => hbody name body (Keyed.mem_of_get? hget)⟩
  refine Keyed.keys_eq_of_subset hwant.ordered hseen.ordered hlength ?_
  intro key hkey
  obtain ⟨⟨name, body⟩, hmem, rfl⟩ := List.mem_map.mp hkey
  obtain ⟨body', hget, _⟩ := hbody name body hmem
  exact List.mem_map.mpr ⟨_, Keyed.mem_of_get? hget, rfl⟩

end TemplateDefinition

/-! ## What a declaration asks for -/

namespace Spec

theorem isObject_body {name : String} {a : Alias} {body : Json} (h : a.body name = .ok body) :
    body.isObject = true := by
  rw [Alias.body] at h
  cases hfilter : Alias.filterMember name a with
  | error m =>
    rw [hfilter] at h
    cases h
  | ok filter =>
    rw [hfilter] at h
    cases h
    rfl

theorem aliasBodies_cons (name : String) (a : Alias) (rest : List (String × Alias)) :
    aliasBodies ((name, a) :: rest) =
      match a.body name, aliasBodies rest with
      | .ok body, .ok bodies => .ok ((name, body) :: bodies)
      | .ok _, .error m => .error m
      | .error m, _ => .error m := by
  rw [aliasBodies, List.mapM_cons, ← aliasBodies]
  dsimp only
  cases a.body name with
  | error m => rfl
  | ok body => cases aliasBodies rest <;> rfl

/-- The bodies stand under the names of the aliases, and each is an object. -/
theorem keys_aliasBodies {aliases : List (String × Alias)} {bodies : List (String × Json)}
    (h : aliasBodies aliases = .ok bodies) :
    Keyed.keys bodies = Keyed.keys aliases ∧ ∀ e ∈ bodies, e.2.isObject = true := by
  induction aliases generalizing bodies with
  | nil =>
    cases h
    exact ⟨rfl, fun e he => (by cases he)⟩
  | cons entry rest ih =>
    obtain ⟨name, a⟩ := entry
    rw [aliasBodies_cons] at h
    split at h
    · next body bodies' hbody hrest =>
      cases h
      obtain ⟨hkeys, hobjects⟩ := ih hrest
      refine ⟨congrArg (name :: ·) hkeys, ?_⟩
      exact List.forall_mem_cons.mpr ⟨isObject_body hbody, hobjects⟩
    · cases h
    · cases h

theorem mapped_of_definition {part : TemplatePart} {t : TemplateDefinition}
    (h : definition part = .ok t) (hordered : Keyed.Ordered part.aliases) : t.Mapped := by
  rw [definition] at h
  cases hbodies : aliasBodies part.aliases with
  | error m =>
    rw [hbodies] at h
    cases h
  | ok bodies =>
    rw [hbodies] at h
    cases h
    obtain ⟨hkeys, hobjects⟩ := keys_aliasBodies hbodies
    refine ⟨?_, hobjects⟩
    have hpairwise : (Keyed.keys bodies).Pairwise (· < ·) := hkeys ▸ List.pairwise_map.mpr hordered
    exact List.pairwise_map.mp hpairwise

/-- What the declaration of a template asks for, and the definition in it.  Its aliases are a
map. -/
def DeclaresTemplate (s : Spec) (d : Desired) (definition : TemplateDefinition) : Prop :=
  ∃ part, s.template = some part ∧ Keyed.Ordered part.aliases ∧ s.toDesired = .ok d ∧
    d.template = some definition

namespace DeclaresTemplate

variable {s : Spec} {d : Desired} {definition : TemplateDefinition}

theorem template (h : s.DeclaresTemplate d definition) : d.template = some definition := by
  obtain ⟨_, _, _, _, htemplate⟩ := h
  exact htemplate

/-- What is asked for goes by the name of the declaration, and its definition is what the template
part says. -/
theorem name_and_definition (h : s.DeclaresTemplate d definition) :
    d.name = s.name ∧
      ∃ part, Keyed.Ordered part.aliases ∧ Spec.definition part = .ok definition := by
  obtain ⟨part, hpart, hordered, hdesired, htemplate⟩ := h
  rw [toDesired] at hdesired
  split at hdesired
  · cases hdefinition : Spec.definition part with
    | error m =>
      simp only [desired, hpart, hdefinition] at hdesired
      cases hdesired
    | ok t =>
      cases hsettings : s.settings.toTree with
      | error m =>
        simp only [desired, hpart, hdefinition, hsettings] at hdesired
        cases hdesired
      | ok settings =>
        cases hschema : readMappings s.mappings with
        | error m =>
          simp only [desired, hpart, hdefinition, hsettings, hschema] at hdesired
          cases hdesired
        | ok schema =>
          simp only [desired, hpart, hdefinition, hsettings, hschema] at hdesired
          cases hdesired
          cases htemplate
          exact ⟨rfl, part, hordered, hdefinition⟩
  · cases hdesired

theorem name (h : s.DeclaresTemplate d definition) : d.name = s.name :=
  h.name_and_definition.1

theorem mapped (h : s.DeclaresTemplate d definition) : definition.Mapped := by
  obtain ⟨_, part, hordered, hdefinition⟩ := h.name_and_definition
  exact mapped_of_definition hdefinition hordered

end DeclaresTemplate

end Spec

end IndexKeeper
