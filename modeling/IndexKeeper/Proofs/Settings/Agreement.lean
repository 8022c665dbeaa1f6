import IndexKeeper.Proofs.Settings.Difference
import IndexKeeper.Proofs.Settings.Overlay

/-!
# Agreement of desired and stored settings

Stored settings agree with the desired ones if no stored leaf has another text there: then a pass
has nothing to change.  What a server stores of a creation agrees with what was sent, and so does
what it stores of an update, provided that the leaves that were not sent agreed before.  Doubles are
left out, since a server echoes them as it prints them and they are compared by another text.
-/

namespace IndexKeeper.Tree

/-- Every observed leaf that the desired settings have a value for has the desired text. -/
def Agrees (desired observed : Tree) : Prop :=
  ∀ p v w, desired.lookup p = some v → observed.lookup p = some w → w.isObject = false →
    v.canonicalText = w.canonicalText

/-- No value of the tree is a double. -/
def NoDoubles (t : Tree) : Prop := ∀ p x, t.lookup p ≠ some (.num (.real x))

theorem agrees_iff {desired observed : Tree} (h : observed.MapsOrdered) :
    Agrees desired observed ↔ differences desired observed = [] := by
  constructor
  · intro hagrees
    rw [List.eq_nil_iff_forall_not_mem]
    rintro ⟨p, was, want⟩ hd
    obtain ⟨v, w, hv, hw, hleaf, rfl, rfl, hne⟩ := (mem_differences_iff_lookup h).mp hd
    exact hne (hagrees p v w hv hw hleaf)
  · intro hnone p v w hv hw hleaf
    apply Classical.byContradiction
    intro hne
    have hd := mem_differences_of_lookup hv hw hleaf hne
    rw [hnone] at hd
    cases hd

theorem changes?_of_agrees {desired observed : Tree} (h : observed.MapsOrdered)
    (hagrees : Agrees desired observed) (enforce : Bool) :
    changes? desired observed enforce = .ok false := by
  have hnone := (agrees_iff h).mp hagrees
  rw [changes?_eq_ok_iff, hnone]
  simp

/-- An answer that there is nothing to change means agreement. -/
theorem agrees_of_changes? {desired observed : Tree} (h : observed.MapsOrdered) {enforce : Bool}
    (hchanges : changes? desired observed enforce = .ok false) : Agrees desired observed := by
  have hempty := (changes?_eq_ok_iff.mp hchanges).2
  rw [agrees_iff h]
  cases hd : differences desired observed with
  | nil => rfl
  | cons d rest =>
    rw [hd] at hempty
    cases hempty

/-! ## Creation -/

theorem NoDoubles.canonicalText_echo {t : Tree} (h : t.NoDoubles) {p : Path} {v : Json}
    (hv : t.lookup p = some v) (hleaf : v.isObject = false) :
    v.echo.canonicalText = v.canonicalText := by
  refine Json.canonicalText_echo hleaf ?_
  rintro x rfl
  exact h p x hv

/-- What is stored of a creation agrees with what was sent. -/
theorem agrees_echo {t : Tree} (h : t.NoDoubles) : Agrees t t.echo := by
  intro p v w hv hw hleaf
  rw [lookup_echo, hv, Option.map_some] at hw
  cases hw
  rw [Json.isObject_echo] at hleaf
  exact (h.canonicalText_echo hv hleaf).symm

/-! ## Update -/

/-- What is stored of an update agrees with what is desired, if the update sent leaves of the
desired settings and the stored leaves at the other paths agreed before. -/
theorem agrees_overlay {desired observed sent : Tree} (hdesired : desired.NoDoubles)
    (hsent : sent.MapsOrdered)
    (hfrom : ∀ p w, sent.lookup p = some w → w.isObject = false → desired.lookup p = some w)
    (hrest : ∀ p v w, desired.lookup p = some v → sent.lookup p = none →
      observed.lookup p = some w → w.isObject = false → v.canonicalText = w.canonicalText) :
    Agrees desired (observed.overlay sent.echo) := by
  intro p v w hv hw hleaf
  -- a stored leaf comes from what was sent, or was stored where nothing was sent
  rcases lookup_overlay_leaf hsent.echo hw hleaf with hupper | ⟨hnone, hlower⟩
  · rw [lookup_echo, Option.map_eq_some_iff] at hupper
    obtain ⟨u, hu, rfl⟩ := hupper
    rw [Json.isObject_echo] at hleaf
    have hsame := hfrom p u hu hleaf
    rw [hv] at hsame
    cases hsame
    exact (hdesired.canonicalText_echo hv hleaf).symm
  · rw [lookup_echo, Option.map_eq_none_iff] at hnone
    exact hrest p v w hv hnone hlower hleaf

/-- What a leaf that is not sent can be: one at a fixed setting, if no map is at any. -/
theorem eq_ofDotted_of_lookup_withoutFixed {t : Tree} (h : t.MapsOrdered)
    (hfixed : ∀ key ∈ fixedSettings, ∀ v, t.lookup (Path.ofDotted key) = some v →
      v.isObject = false) {p : Path} {v : Json} (hv : t.lookup p = some v)
    (hleaf : v.isObject = false) (hnone : t.withoutFixed.lookup p = none) :
    ∃ key ∈ fixedSettings, p = Path.ofDotted key := by
  apply Classical.byContradiction
  intro hno
  have haway : ∀ key ∈ fixedSettings, ¬ Path.ofDotted key <+: p := by
    rintro key hkey ⟨rest, hrest⟩
    by_cases hnil : rest = []
    · rw [hnil, List.append_nil] at hrest
      exact hno ⟨key, hkey, hrest.symm⟩
    · -- something below a fixed setting would make a map of it
      rw [← hrest, t.lookup_append (Path.ofDotted_ne_nil key), Option.bind_eq_some_iff] at hv
      obtain ⟨u, hu, hbelow⟩ := hv
      obtain ⟨k, tail, rfl⟩ := List.exists_cons_of_ne_nil hnil
      rw [Json.lookup_cons_of_leaf (hfixed key hkey u hu)] at hbelow
      cases hbelow
  have hstay := lookup_without_of_leaf h hv hleaf haway
  rw [← withoutFixed_eq, hnone] at hstay
  cases hstay

/-- An update of an index sends all but the fixed settings, and those were found to agree. -/
theorem agrees_overlay_withoutFixed {desired observed : Tree} (hdesired : desired.NoDoubles)
    (hd : desired.MapsOrdered)
    (hfixed : ∀ key ∈ fixedSettings, ∀ v, desired.lookup (Path.ofDotted key) = some v →
      v.isObject = false)
    (hmaps : ∀ p v w, desired.lookup p = some v → v.isObject = true →
      observed.lookup p = some w → w.isObject = true) {changed : Bool}
    (hchanges : changes? desired observed true = .ok changed) :
    Agrees desired (observed.overlay desired.withoutFixed.echo) := by
  refine agrees_overlay hdesired (hd.without fixedSettings) ?_ ?_
  · intro p w hw hleaf
    rcases lookup_without_le hd hw with hsame | ⟨v, _, _, hobj⟩
    · exact hsame
    · rw [hleaf] at hobj
      cases hobj
  · intro p v w hv hnone hw hleaf
    cases hobj : v.isObject with
    | true =>
      have hwobj := hmaps p v w hv hobj hw
      rw [hleaf] at hwobj
      cases hwobj
    | false =>
      obtain ⟨key, hkey, rfl⟩ := eq_ofDotted_of_lookup_withoutFixed hd hfixed hv hobj hnone
      apply Classical.byContradiction
      intro hne
      -- a difference here would have been refused
      have hdiff := mem_differences_of_lookup hv hw hleaf hne
      have hnot := (changes?_eq_ok_iff.mp hchanges).1 rfl _ hdiff
      rw [isFixed_ofDotted hkey] at hnot
      cases hnot

/-- An update of a template sends all settings. -/
theorem agrees_overlay_self {desired observed : Tree} (hdesired : desired.NoDoubles)
    (hd : desired.MapsOrdered) : Agrees desired (observed.overlay desired.echo) := by
  refine agrees_overlay hdesired hd (fun p w hw _ => hw) ?_
  intro p v w hv hnone
  rw [hv] at hnone
  cases hnone

end IndexKeeper.Tree
