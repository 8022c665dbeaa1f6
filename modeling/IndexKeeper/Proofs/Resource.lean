import IndexKeeper.Proofs.Pass.Plan
import IndexKeeper.Proofs.Settings.Agreement
import IndexKeeper.Proofs.Settings.Coverage

/-!
# Documents of a declaration

The documents that a declaration holds have the keys of their objects in order
(`Desired.Ordered`).  Then a template definition does not differ from itself, and a marked schema
not from itself: a server that stores what it is sent has nothing to report.
-/

namespace IndexKeeper

/-! ## Values are the same as themselves -/

namespace Json

mutual

theorem sameValue_self : ∀ v : Json, v.sameValue v = true
  | null => by rw [sameValue]
  | bool b => by simp [sameValue]
  | num (.int i) => by simp [sameValue, Number.sameValue]
  | num (.real x) => by simp [sameValue, Number.sameValue, Binary64.sameValue]
  | str s => by simp [sameValue]
  | arr items => by
    rw [sameValue]
    exact sameItems_self items
  | obj ms => by
    rw [sameValue]
    exact sameMembers_self ms

theorem sameItems_self : ∀ items : List Json, sameItems items items = true
  | [] => by rw [sameItems]
  | v :: rest => by
    rw [sameItems, sameValue_self v, sameItems_self rest]
    rfl

theorem sameMembers_self : ∀ ms : List (String × Json), sameMembers ms ms = true
  | [] => by rw [sameMembers]
  | (k, v) :: rest => by
    rw [sameMembers, sameValue_self v, sameMembers_self rest]
    simp

end

end Json

/-! ## Template definitions -/

namespace TemplateDefinition

/-- The aliases are under keys in order, and so are the objects of their bodies. -/
structure Ordered (t : TemplateDefinition) : Prop where
  aliases : Keyed.Ordered t.aliases
  bodies : ∀ e ∈ t.aliases, e.2.Ordered

theorem aliasDiffers_self {body : Json} (h : body.Ordered) : aliasDiffers body body = false := by
  rw [aliasDiffers]
  cases body with
  | obj ms =>
    have hms : (⟨ms⟩ : Tree).MapsOrdered := Json.Ordered.mapsOrdered h
    exact Tree.schemaDiffers_self hms
  | _ => simp [Tree.ofDocument?, Json.sameValue_self]

theorem differsFrom_self {t : TemplateDefinition} (h : t.Ordered) : t.differsFrom t = false := by
  simp only [differsFrom, bne_self_eq_false, Bool.false_or]
  rw [List.any_eq_false]
  rintro ⟨name, body⟩ hmem
  have hget : Keyed.get? name t.aliases = some body := h.aliases.get?_of_mem hmem
  simp [hget, aliasDiffers_self (h.bodies _ hmem)]

end TemplateDefinition

/-! ## The marker -/

/-- Marking keeps the keys in order. -/
theorem Ownership.mapsOrdered_of_mark {schema : Json} {marked : Tree}
    (h : mark schema = .ok marked.toJson) (hschema : schema.MapsOrdered) : marked.MapsOrdered := by
  unfold mark at h
  split at h
  · next ms =>
    split at h
    · next entries hentries =>
      have heq := (Except.ok.inj h).symm
      have hbelow : (Json.obj entries).MapsOrdered := by
        cases hget : Keyed.get? metaField ms with
        | none =>
          rw [hget] at hentries
          cases hentries
          exact Json.mapsOrdered_empty
        | some v =>
          rw [hget] at hentries
          cases hentries
          exact hschema.of_get? hget
      have howner := hbelow.insert (Json.mapsOrdered_of_leaf (v := .str identity) rfl) ownerField
      have hmarked := hschema.insert howner metaField
      rw [← heq] at hmarked
      exact hmarked
    · cases h
  · cases h

/-! ## Declarations -/

namespace Desired

/-- The documents of a declaration have the keys of their objects in order. -/
structure Ordered (d : Desired) : Prop where
  schema : d.schema.Ordered
  template : ∀ t, d.template = some t → t.Ordered

/-- A definition has not drifted from itself. -/
theorem Ordered.not_drifted {d : Desired} (h : d.Ordered) (settings : Tree)
    (schema : Option Json) :
    Pass.definitionDrifted d ⟨settings, schema, d.template⟩ = false := by
  rw [Pass.definitionDrifted]
  cases ht : d.template with
  | none => rfl
  | some t => exact TemplateDefinition.differsFrom_self (h.template t ht)

end Desired

end IndexKeeper
