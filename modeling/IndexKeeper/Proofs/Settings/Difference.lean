import IndexKeeper.Proofs.Settings.Expansion
import IndexKeeper.Proofs.Settings.Untouched
import IndexKeeper.Settings.Difference

/-!
# Differences and what an update sends

`changes?` asks for a change if some observed leaf has another text in the desired settings, and is
a fault if that leaf is a fixed setting.  `withoutFixed` is what is then sent.  The two decide what
is fixed in their own ways: the comparison by the name of the path, the sending by taking out whole
subtrees and the maps left empty above them.  They agree at a path that no fixed setting is above,
and that holds nothing at the fixed settings below it.
-/

namespace IndexKeeper.Tree

/-! ## Differences -/

theorem difference?_eq_some_iff {desired observed : Tree} {p : Path} {d : Difference} :
    difference? desired observed p = some d ↔
      d.path = p ∧ desired.canonical? p = some d.desired ∧
        observed.canonical? p = some d.observed ∧ d.desired ≠ d.observed := by
  obtain ⟨path, was, want⟩ := d
  rw [difference?]
  cases hwant : desired.canonical? p with
  | none => simp
  | some w =>
    cases hhave : observed.canonical? p with
    | none => simp
    | some o =>
      by_cases heq : w = o
      · simp only [heq, if_true, Option.some.injEq]
        constructor
        · intro h
          cases h
        · rintro ⟨_, hw, ho, hne⟩
          exact absurd (hw.symm.trans ho) hne
      · simp only [heq, if_false, Option.some.injEq, Difference.mk.injEq]
        constructor
        · rintro ⟨rfl, rfl, rfl⟩
          exact ⟨rfl, rfl, rfl, heq⟩
        · rintro ⟨rfl, rfl, rfl, _⟩
          exact ⟨rfl, rfl, rfl⟩

/-- The differences are at the observed leaves that both trees have a text for, and not the
same. -/
theorem mem_differences_iff {desired observed : Tree} {d : Difference} :
    d ∈ differences desired observed ↔
      d.path ∈ observed.leafPaths ∧ desired.canonical? d.path = some d.desired ∧
        observed.canonical? d.path = some d.observed ∧ d.desired ≠ d.observed := by
  rw [differences, List.mem_filterMap]
  constructor
  · rintro ⟨p, hp, hd⟩
    obtain ⟨rfl, hrest⟩ := difference?_eq_some_iff.mp hd
    exact ⟨hp, hrest⟩
  · rintro ⟨hp, hrest⟩
    exact ⟨d.path, hp, difference?_eq_some_iff.mpr ⟨rfl, hrest⟩⟩

/-- A leaf with another text than the desired one is a difference. -/
theorem mem_differences_of_lookup {desired observed : Tree} {p : Path} {v w : Json}
    (hv : desired.lookup p = some v) (hw : observed.lookup p = some w)
    (hleaf : w.isObject = false) (hne : v.canonicalText ≠ w.canonicalText) :
    ⟨p, w.canonicalText, v.canonicalText⟩ ∈ differences desired observed := by
  refine mem_differences_iff.mpr ⟨mem_leafPaths_of_lookup hw hleaf, ?_, ?_, hne⟩
  · exact canonical?_eq_some_iff.mpr ⟨v, hv, rfl⟩
  · exact canonical?_eq_some_iff.mpr ⟨w, hw, rfl⟩

/-- The differences in terms of what the paths lead to. -/
theorem mem_differences_iff_lookup {desired observed : Tree} (h : observed.MapsOrdered)
    {p : Path} {was want : String} :
    ⟨p, was, want⟩ ∈ differences desired observed ↔
      ∃ v w, desired.lookup p = some v ∧ observed.lookup p = some w ∧ w.isObject = false ∧
        v.canonicalText = want ∧ w.canonicalText = was ∧ want ≠ was := by
  constructor
  · intro hd
    obtain ⟨hp, hwant, hwas, hne⟩ := mem_differences_iff.mp hd
    obtain ⟨w, hw, hleaf⟩ := (mem_leafPaths_iff h).mp hp
    obtain ⟨v, hv, hvtext⟩ := canonical?_eq_some_iff.mp hwant
    obtain ⟨w', hw', hwtext⟩ := canonical?_eq_some_iff.mp hwas
    rw [hw] at hw'
    cases hw'
    exact ⟨v, w, hv, hw, hleaf, hvtext, hwtext, hne⟩
  · rintro ⟨v, w, hv, hw, hleaf, rfl, rfl, hne⟩
    exact mem_differences_of_lookup hv hw hleaf hne

/-! ## Changes -/

/-- There is an answer exactly if no difference is refused, and it says whether there are any. -/
theorem changes?_eq_ok_iff {desired observed : Tree} {enforce changed : Bool} :
    changes? desired observed enforce = .ok changed ↔
      (enforce = true → ∀ d ∈ differences desired observed, isFixed d.path = false) ∧
        changed = !(differences desired observed).isEmpty := by
  rw [changes?]
  cases hfind : (differences desired observed).find? fun d => enforce && isFixed d.path with
  | some d =>
    have hmem : d ∈ differences desired observed := List.mem_of_find?_eq_some hfind
    have hfixed := List.find?_some hfind
    rw [Bool.and_eq_true] at hfixed
    simp only [reduceCtorEq, false_iff, not_and]
    intro hnone
    rw [hnone hfixed.1 d hmem] at hfixed
    cases hfixed.2
  | none =>
    have hnone : enforce = true → ∀ d ∈ differences desired observed, isFixed d.path = false := by
      intro henforce d hd
      have hd' := List.find?_eq_none.mp hfind d hd
      simpa [henforce] using hd'
    simp only [Except.ok.injEq]
    constructor
    · intro h
      exact ⟨hnone, h.symm⟩
    · rintro ⟨_, h⟩
      exact h.symm

/-- A refusal names a difference at a fixed setting. -/
theorem mem_differences_of_changes?_error {desired observed : Tree} {enforce : Bool} {f : Fault}
    (h : changes? desired observed enforce = .error f) :
    enforce = true ∧ ∃ d ∈ differences desired observed, isFixed d.path = true ∧
      f = .immutableSetting d.path.dotted d.observed d.desired := by
  rw [changes?] at h
  cases hfind : (differences desired observed).find? fun d => enforce && isFixed d.path with
  | none =>
    rw [hfind] at h
    cases h
  | some d =>
    rw [hfind] at h
    have hfixed := List.find?_some hfind
    rw [Bool.and_eq_true] at hfixed
    cases h
    exact ⟨hfixed.1, d, List.mem_of_find?_eq_some hfind, hfixed.2, rfl⟩

/-- A difference at a fixed setting is refused, whatever else differs. -/
theorem changes?_of_fixed_difference {desired observed : Tree} {d : Difference}
    (hd : d ∈ differences desired observed) (hfixed : isFixed d.path = true) :
    ∃ f, changes? desired observed true = .error f := by
  cases h : changes? desired observed true with
  | error f => exact ⟨f, rfl⟩
  | ok changed =>
    have hnone := (changes?_eq_ok_iff.mp h).1 rfl d hd
    rw [hfixed] at hnone
    cases hnone

/-! ## The fixed settings -/

theorem withoutFixed_eq (t : Tree) : t.withoutFixed = t.without fixedSettings := rfl

theorem isFixed_iff {p : Path} : isFixed p = true ↔ p.dotted ∈ fixedSettings := by
  rw [isFixed, List.contains_iff_mem]

theorem isFixed_ofDotted {key : String} (h : key ∈ fixedSettings) :
    isFixed (Path.ofDotted key) = true := by
  rw [isFixed_iff, Path.dotted_ofDotted]
  exact h

/-- No fixed setting is above the path, and what is at the path is clear of the fixed settings
below it. -/
def ClearOfFixed (t : Tree) (p : Path) : Prop :=
  ∀ key ∈ fixedSettings, ∀ rest, rest ≠ [] →
    p ≠ Path.ofDotted key ++ rest ∧
      (Path.ofDotted key = p ++ rest → ∀ v, t.lookup p = some v → v.ClearOf rest)

/-- Away from the fixed settings themselves, to be clear of all of them is to be clear of those
strictly above and strictly below. -/
theorem clearOfFixed_iff {t : Tree} {p : Path} (hp : ∀ key ∈ fixedSettings, p ≠ Path.ofDotted key) :
    t.ClearOfFixed p ↔ ∀ key ∈ fixedSettings, t.ClearAt p key := by
  constructor
  · intro h key hkey
    constructor
    · rintro ⟨rest, hrest⟩
      by_cases hnil : rest = []
      · rw [hnil, List.append_nil] at hrest
        exact hp key hkey hrest.symm
      · exact (h key hkey rest hnil).1 hrest.symm
    · intro rest v hrest hv
      by_cases hnil : rest = []
      · rw [hnil, List.append_nil] at hrest
        exact absurd hrest.symm (hp key hkey)
      · exact (h key hkey rest hnil).2 hrest v hv
  · intro h key hkey rest _
    obtain ⟨habove, hbelow⟩ := h key hkey
    constructor
    · intro hrest
      exact habove ⟨rest, hrest.symm⟩
    · intro hrest v hv
      exact hbelow rest v hrest hv

/-! ## What is sent -/

/-- An update sends the desired text of a leaf that was found different exactly if no fixed setting
is above the leaf and nothing of a fixed setting is below it.  The comparison alone does not rule
these out: it refuses a difference only at a path with the name of a fixed setting. -/
theorem canonical?_withoutFixed_iff {document : Json} {desired observed : Tree}
    (hd : ofSettings? document = .ok desired)
    (hchange : changes? desired observed true = .ok true) {p : Path}
    (hp : p ∈ observed.leafPaths) {want was : String} (hwant : desired.canonical? p = some want)
    (hwas : observed.canonical? p = some was) (hne : want ≠ was) :
    desired.withoutFixed.canonical? p = some want ↔ desired.ClearOfFixed p := by
  have hexp : desired.Expanded := expanded_of_ofSettings? hd
  obtain ⟨v, hv, rfl⟩ := canonical?_eq_some_iff.mp hwant
  have hdiff : ⟨p, was, v.canonicalText⟩ ∈ differences desired observed :=
    mem_differences_iff.mpr ⟨hp, hwant, hwas, hne⟩
  -- a difference that was not refused is not at a fixed setting
  have hnot : isFixed p = false := (changes?_eq_ok_iff.mp hchange).1 rfl _ hdiff
  have haway : ∀ key ∈ fixedSettings, p ≠ Path.ofDotted key := by
    rintro key hkey rfl
    rw [isFixed_ofDotted hkey] at hnot
    cases hnot
  rw [withoutFixed_eq, clearOfFixed_iff haway]
  exact canonical?_without_iff hexp.mapsOrdered hv

theorem canonical?_withoutFixed_blocks :
    (withoutFixed ⟨[("index", .obj [("blocks", .str "true")])]⟩).canonical? ["index", "blocks"] =
        some "true" ↔
      ClearOfFixed ⟨[("index", .obj [("blocks", .str "true")])]⟩ ["index", "blocks"] := by
  have hd : ofSettings? (.obj [("index", .obj [("blocks", .str "true")])]) =
      .ok ⟨[("index", .obj [("blocks", .str "true")])]⟩ := by cbv
  have hchange : changes? ⟨[("index", .obj [("blocks", .str "true")])]⟩
      ⟨[("index", .obj [("blocks", .str "false")])]⟩ true = .ok true := rfl
  have hwas : canonical? ⟨[("index", .obj [("blocks", .str "false")])]⟩ ["index", "blocks"] =
      some "false" := rfl
  exact canonical?_withoutFixed_iff hd hchange List.mem_cons_self rfl hwas (by decide)

/-- A map below a fixed setting: the comparison finds its leaf different and calls that a change,
and nothing of it is sent. -/
theorem difference_below_codec_not_sent :
    ∃ desired observed,
      ofSettings? (.obj [("index", .obj [("codec", .obj [("level", .ofInt 1)])])]) = .ok desired ∧
      ofSettings? (.obj [("index", .obj [("codec", .obj [("level", .str "2")])])]) = .ok observed ∧
      changes? desired observed true = .ok true ∧
      ["index", "codec", "level"] ∈ observed.leafPaths ∧
      desired.canonical? ["index", "codec", "level"] = some "1" ∧
      observed.canonical? ["index", "codec", "level"] = some "2" ∧
      desired.withoutFixed.canonical? ["index", "codec", "level"] = none := by
  refine ⟨⟨[("index", .obj [("codec", .obj [("level", .ofInt 1)])])]⟩,
    ⟨[("index", .obj [("codec", .obj [("level", .str "2")])])]⟩, ?_, ?_, ?_, ?_, ?_, ?_, ?_⟩
  · cbv
  · cbv
  · rfl
  · decide
  · rfl
  · rfl
  · rfl

end IndexKeeper.Tree
