import IndexKeeper.Proofs.Settings.Overlay
import IndexKeeper.Settings.Difference

/-!
# What a schema document covers

Documents are compared over the leaves of the desired one: `schemaDiffers_eq_false_iff` says that
they do not differ exactly if the observed document has every desired leaf, with its text.  An
overlay has every leaf of the value that was laid on top, whatever was below, and taking entries
out of maps brings no leaf that was not there before.  So a document that was sent is found without
a difference, by a server that keeps what it was not asked to drop and by one that does not, and it
stays so if less is desired later (`schemaDiffers_settled`).

Keys with dots are keys like all others here, arrays are leaves, and a map without entries asks for
nothing.
-/

namespace IndexKeeper

namespace Json

/-! ## Coverage -/

/-- A value has every leaf of another, with its text. -/
def CoveredBy (want seen : Json) : Prop :=
  ∀ p v, want.lookup p = some v → v.isObject = false →
    ∃ w, seen.lookup p = some w ∧ w.canonicalText = v.canonicalText

theorem CoveredBy.refl (v : Json) : v.CoveredBy v :=
  fun _ w hw _ => ⟨w, hw, rfl⟩

/-- A leaf of the upper value is in the overlay, whatever was below. -/
theorem lookup_overlay_of_leaf {lower top w : Json} {p : Path} (htop : top.MapsOrdered)
    (hw : top.lookup p = some w) (hleaf : w.isObject = false) :
    (overlay lower top).lookup p = some w := by
  induction p generalizing lower top with
  | nil =>
    rw [lookup_nil] at hw
    cases hw
    rw [overlay_of_leaf hleaf, lookup_nil]
  | cons key rest ih =>
    rcases overlay_eq_or_maps lower top with heq | ⟨members, upper, rfl, rfl⟩
    · rwa [heq]
    · obtain ⟨v, hv, hrest⟩ := Option.bind_eq_some_iff.mp hw
      rw [lookup_overlay_cons htop.keys, hv]
      cases Keyed.get? key members with
      | none => exact hrest
      | some old => exact ih (htop.of_get? hv) hrest

theorem coveredBy_overlay {top : Json} (h : top.MapsOrdered) (lower : Json) :
    top.CoveredBy (overlay lower top) :=
  fun _ v hv hleaf => ⟨v, lookup_overlay_of_leaf h hv hleaf, rfl⟩

/-! ## Taking out entries -/

/-- Take the entry at a path out of the map that has it.  Nothing else changes: a map that is left
without entries stays, and no path leads into an array. -/
def dropAt : Path → List (String × Json) → List (String × Json)
  | [], ms => ms
  | [key], ms => Keyed.erase key ms
  | key :: rest, ms =>
    match Keyed.get? key ms with
    | some (obj children) => Keyed.insert key (obj (dropAt rest children)) ms
    | _ => ms

/-- Below the first key, only the map that is under it changes. -/
theorem dropAt_cons {key : String} {rest : Path} (hrest : rest ≠ []) (ms : List (String × Json)) :
    dropAt (key :: rest) ms =
      match Keyed.get? key ms with
      | some (obj children) => Keyed.insert key (obj (dropAt rest children)) ms
      | _ => ms := by
  cases rest with
  | nil => exact absurd rfl hrest
  | cons next more => rw [dropAt]; simp

theorem MapsOrdered.dropAt {ms : List (String × Json)} (h : (obj ms).MapsOrdered) (p : Path) :
    (obj (dropAt p ms)).MapsOrdered := by
  induction p generalizing ms with
  | nil => exact h
  | cons key rest ih =>
    by_cases hrest : rest = []
    · subst hrest
      exact h.erase key
    · rw [dropAt_cons hrest]
      split
      · next children hget => exact h.insert (ih (h.of_get? hget)) key
      · exact h

/-- Every leaf that is left was there before. -/
theorem lookup_of_dropAt {ms : List (String × Json)} {w : Json} (h : (obj ms).MapsOrdered)
    {p q : Path} (hw : (obj (dropAt p ms)).lookup q = some w) (hleaf : w.isObject = false) :
    (obj ms).lookup q = some w := by
  induction p generalizing ms q with
  | nil => exact hw
  | cons key rest ih =>
    cases q with
    | nil =>
      rw [lookup_nil] at hw
      cases hw
      cases hleaf
    | cons k tail =>
      by_cases hrest : rest = []
      · subst hrest
        rw [dropAt, lookup_obj_cons, h.keys.get?_erase] at hw
        split at hw
        · cases hw
        · exact hw
      · rw [dropAt_cons hrest] at hw
        split at hw
        · next children hget =>
          rw [lookup_obj_cons, Keyed.get?_insert] at hw
          rw [lookup_obj_cons]
          -- under the key the induction goes on, under any other nothing changed
          split at hw
          · next hk =>
            rw [hk, hget]
            exact ih (h.of_get? hget) hw
          · exact hw
        · exact hw

end Json

/-! ## Documents -/

namespace Tree

/-- A document that does not differ over the wanted leaves has them all. -/
theorem coveredBy_of_schemaDiffers {want seen : Tree} (h : schemaDiffers want seen = false) :
    want.toJson.CoveredBy seen.toJson := by
  intro p v hv hleaf
  cases p with
  | nil =>
    cases hv
    cases hleaf
  | cons key rest =>
    rw [schemaDiffers, List.any_eq_false] at h
    have hsame := h _ (mem_leafPaths_of_lookup (want.lookup_cons key rest ▸ hv) hleaf)
    have hwant : want.canonical? (key :: rest) = some v.canonicalText :=
      canonical?_eq_some_iff.mpr ⟨v, hv, rfl⟩
    rw [hwant] at hsame
    cases hseen : seen.canonical? (key :: rest) with
    | none => simp [hseen] at hsame
    | some text =>
      obtain ⟨w, hw, rfl⟩ := canonical?_eq_some_iff.mp hseen
      simp only [hseen, bne_iff_ne, ne_eq, Classical.not_not] at hsame
      exact ⟨w, hw, hsame.symm⟩

/-- The comparison of documents is coverage of the wanted one. -/
theorem schemaDiffers_eq_false_iff {want seen : Tree} (h : want.MapsOrdered) :
    schemaDiffers want seen = false ↔ want.toJson.CoveredBy seen.toJson := by
  refine ⟨coveredBy_of_schemaDiffers, ?_⟩
  intro hcovered
  rw [schemaDiffers, List.any_eq_false]
  intro p hp
  obtain ⟨v, hv, hleaf⟩ := (mem_leafPaths_iff h).mp hp
  have hne : p ≠ [] := ne_nil_of_lookup hv
  obtain ⟨w, hw, htext⟩ := hcovered p v (want.lookup_of_ne_nil hne ▸ hv) hleaf
  have hwant : want.canonical? p = some v.canonicalText := canonical?_eq_some_iff.mpr ⟨v, hv, rfl⟩
  have hseen : seen.canonical? p = some v.canonicalText :=
    canonical?_eq_some_iff.mpr ⟨w, seen.lookup_of_ne_nil hne ▸ hw, htext⟩
  simp [hwant, hseen]

/-- A document differs from no copy of itself. -/
theorem schemaDiffers_self {t : Tree} (h : t.MapsOrdered) : schemaDiffers t t = false :=
  (schemaDiffers_eq_false_iff h).mpr (.refl _)

/-! ## Desiring less -/

/-- The tree after entries have been taken out of its maps, one after the other. -/
def withoutEntries (t : Tree) (ps : List Path) : Tree :=
  ps.foldl (fun t p => ⟨Json.dropAt p t.members⟩) t

theorem MapsOrdered.withoutEntries {t : Tree} (h : t.MapsOrdered) (ps : List Path) :
    (t.withoutEntries ps).MapsOrdered := by
  induction ps generalizing t with
  | nil => exact h
  | cons p rest ih => exact ih (Json.MapsOrdered.dropAt h p)

/-- Whatever covers a document covers what is left of it. -/
theorem coveredBy_withoutEntries {want : Tree} {seen : Json} (h : want.MapsOrdered)
    (hcovered : want.toJson.CoveredBy seen) (ps : List Path) :
    (want.withoutEntries ps).toJson.CoveredBy seen := by
  induction ps generalizing want with
  | nil => exact hcovered
  | cons p rest ih =>
    refine ih (Json.MapsOrdered.dropAt h p) ?_
    intro q v hv hleaf
    exact hcovered q v (Json.lookup_of_dropAt h hv hleaf) hleaf

/-- Documents differ by the leaves of the desired one.  So it does not differ from what a server
holds after it was laid over anything, nor from itself; and what does not differ does not differ
when entries are no longer desired, at any depth. -/
theorem schemaDiffers_settled {desired observed : Tree} (h : desired.MapsOrdered) :
    (schemaDiffers desired observed = false ↔ desired.toJson.CoveredBy observed.toJson) ∧
      schemaDiffers desired (observed.overlay desired) = false ∧
      schemaDiffers desired desired = false ∧
      (schemaDiffers desired observed = false →
        ∀ ps, schemaDiffers (desired.withoutEntries ps) observed = false) := by
  refine ⟨schemaDiffers_eq_false_iff h, ?_, schemaDiffers_self h, ?_⟩
  · rw [schemaDiffers_eq_false_iff h, toJson_overlay]
    exact Json.coveredBy_overlay h observed.toJson
  · intro hsame ps
    rw [schemaDiffers_eq_false_iff (h.withoutEntries ps)]
    exact coveredBy_withoutEntries h (coveredBy_of_schemaDiffers hsame) ps

/-- A field whose name has a dot is laid over a leaf, beside a field that only the server knows. -/
theorem schemaDiffers_settled_dotted :
    schemaDiffers
        (withoutEntries ⟨[("properties", .obj [("a.b", .obj [("type", .str "text")])])]⟩
          [["properties", "a.b", "type"]])
        ⟨[("properties", .obj [("a.b", .obj [("type", .str "text")]), ("c", .null)])]⟩ = false ∧
      schemaDiffers ⟨[("properties", .obj [("a.b", .obj [("type", .str "text")])])]⟩
        (overlay ⟨[("properties", .obj [("a.b", .null), ("c", .null)])]⟩
          ⟨[("properties", .obj [("a.b", .obj [("type", .str "text")])])]⟩) = false := by
  have h : MapsOrdered ⟨[("properties", .obj [("a.b", .obj [("type", .str "text")])])]⟩ := by
    refine Ordered.mapsOrdered ?_
    simp only [Ordered, toJson, Json.Ordered, Json.OrderedMembers, Keyed.Ordered]
    decide
  exact ⟨(schemaDiffers_settled h).2.2.2 (by rfl) _, (schemaDiffers_settled h).2.1⟩

end Tree

end IndexKeeper
