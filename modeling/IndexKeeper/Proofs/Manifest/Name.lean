import IndexKeeper.Manifest.Spec

/-!
# Names that a declaration may have

A name is checked by its length and by its form, and the form has two rules for characters: one for
the first and one for all that follow.  `acceptsName_iff` says which names pass.  The server
reserves some characters at every place; the rule for the first character keeps out what a name may
not start with and the capitals, and says nothing of the reserved ones.  So an accepted name is one
that the server allows exactly if its first character is not reserved
(`isAllowedName_iff_of_acceptsName`).
-/

namespace IndexKeeper

/-! ## Where a violation is -/

namespace Form

mutual

/-- What an entry breaks is at its path or below. -/
theorem path_prefix_of_mem_check {path : List String} {v : Violation} :
    ∀ {form : Form} {entry : Entry}, v ∈ check path form entry → path <+: v.path
  | integer _ none, _, h => by simp [check] at h
  | integer _ (some range), .integer i, h => by
    rw [check] at h
    split at h
    · cases h
    · obtain rfl := List.mem_singleton.mp h
      exact List.prefix_rfl
  | integer _ (some _), .text _, h | integer _ (some _), .group _, h => by simp [check] at h
  | text none, _, h => by simp [check] at h
  | text (some choice), .text s, h => by
    rw [check] at h
    split at h
    · cases h
    · obtain rfl := List.mem_singleton.mp h
      exact List.prefix_rfl
  | text (some _), .integer _, h | text (some _), .group _, h => by simp [check] at h
  | group _ fields, .group entries, h => by
    rw [check] at h
    exact path_prefix_of_mem_checkFields h
  | group _ _, .integer _, h | group _ _, .text _, h => by simp [check] at h

theorem path_prefix_of_mem_checkFields {path : List String} {v : Violation} :
    ∀ {fields : List (String × Form)} {entries : List (String × Entry)},
      v ∈ checkFields path fields entries → path <+: v.path
  | [], _, h => by simp [checkFields] at h
  | (name, form) :: rest, entries, h => by
    rw [checkFields] at h
    rcases List.mem_append.mp h with hfirst | hrest
    · split at hfirst
      · cases hfirst
      · exact (List.prefix_append path [name]).trans (path_prefix_of_mem_check hfirst)
    · exact path_prefix_of_mem_checkFields hrest

end

end Form

namespace Spec

/-- Nothing is said of the name when the declaration is checked. -/
def AcceptsName (s : Spec) : Prop := ∀ v ∈ s.check, v.path ≠ ["name"]

instance (s : Spec) : Decidable s.AcceptsName :=
  inferInstanceAs (Decidable (∀ v ∈ s.check, v.path ≠ ["name"]))

theorem path_of_mem_checkName {name : String} {v : Violation} (h : v ∈ checkName name) :
    v.path = ["name"] := by
  rw [checkName] at h
  rcases List.mem_append.mp h with hlength | hform
  · split at hlength
    · cases hlength
    · rw [List.mem_singleton.mp hlength]
  · split at hform
    · cases hform
    · rw [List.mem_singleton.mp hform]

theorem path_of_mem_checkTemplate {t : TemplatePart} {v : Violation} (h : v ∈ checkTemplate t) :
    v.path ≠ ["name"] := by
  simp only [checkTemplate, List.mem_append] at h
  rcases h with (hnone | hblank) | hversion
  · split at hnone
    · rw [List.mem_singleton.mp hnone]
      decide
    · cases hnone
  · split at hblank
    · rw [List.mem_singleton.mp hblank]
      decide
    · cases hblank
  · split at hversion
    · rw [List.mem_singleton.mp hversion]
      decide
    · cases hversion

/-- The name alone decides whether anything is said of it. -/
theorem acceptsName_iff_checkName {s : Spec} : s.AcceptsName ↔ checkName s.name = [] := by
  constructor
  · intro h
    rw [List.eq_nil_iff_forall_not_mem]
    intro v hv
    refine h v ?_ (path_of_mem_checkName hv)
    rw [check]
    exact List.mem_append_left _ (List.mem_append_left _ hv)
  · intro h v hv
    rw [check, h, List.nil_append] at hv
    rcases List.mem_append.mp hv with htemplate | hsettings
    · cases hpart : s.template with
      | none => simp [hpart] at htemplate
      | some t =>
        rw [hpart] at htemplate
        exact path_of_mem_checkTemplate htemplate
    · intro hname
      have hbelow := Form.path_prefix_of_mem_checkFields hsettings
      rw [hname] at hbelow
      exact absurd hbelow (by decide)

/-! ## Characters of a name -/

theorem isUpper_eq (c : Char) : c.isUpper = (decide ('A' ≤ c) && decide (c ≤ 'Z')) :=
  Bool.decide_and _ _

/-- The characters that the server takes at no place of a name. -/
def reservedCharacters : List Char := ['\\', '/', '*', '?', '"', '<', '>', ' ', ',', '|', '#']

/-- The characters that the server takes anywhere but at the start of a name. -/
def reservedStarts : List Char := ['-', '_', '+']

theorem startsName_iff {c : Char} :
    startsName c = true ↔ c ∉ reservedStarts ∧ c.isUpper = false := by
  rw [isUpper_eq, startsName, Bool.not_eq_true', Bool.or_eq_false_iff,
    ← Bool.not_eq_true (List.contains _ _), List.contains_iff_mem]
  rfl

theorem continuesName_iff {c : Char} :
    continuesName c = true ↔ c ∉ reservedCharacters ∧ c.isUpper = false := by
  rw [isUpper_eq, continuesName, Bool.not_eq_true', Bool.or_eq_false_iff,
    ← Bool.not_eq_true (List.contains _ _), List.contains_iff_mem]
  rfl

/-- A name that the server allows. -/
structure IsAllowedName (name : String) : Prop where
  one_le_length : 1 ≤ name.length
  length_le : name.length ≤ 255
  start : ∀ c ∈ name.toList.head?, c ∉ reservedStarts
  unreserved : ∀ c ∈ name.toList, c ∉ reservedCharacters
  lower : ∀ c ∈ name.toList, c.isUpper = false

/-! ## Accepted names -/

theorem isResourceName_iff {name : String} :
    isResourceName name = true ↔ ∃ c rest, name.toList = c :: rest ∧
      1 ≤ rest.length ∧ rest.length ≤ 254 ∧ startsName c = true ∧
      ∀ d ∈ rest, continuesName d = true := by
  rw [isResourceName]
  split
  · next hnil => simp [hnil]
  · next c rest hlist =>
    simp only [hlist, Bool.and_eq_true, decide_eq_true_eq, List.all_eq_true, List.cons.injEq]
    constructor
    · rintro ⟨⟨⟨hstart, hlow⟩, hhigh⟩, hrest⟩
      exact ⟨c, rest, ⟨rfl, rfl⟩, hlow, hhigh, hstart, hrest⟩
    · rintro ⟨_, _, ⟨rfl, rfl⟩, hlow, hhigh, hstart, hrest⟩
      exact ⟨⟨⟨hstart, hlow⟩, hhigh⟩, hrest⟩

/-- The form settles the length. -/
theorem checkName_eq_nil_iff {name : String} :
    checkName name = [] ↔ isResourceName name = true := by
  constructor
  · intro h
    have hform := (List.append_eq_nil_iff.mp h).2
    split at hform
    · assumption
    · cases hform
  · intro h
    obtain ⟨c, rest, hlist, hlow, hhigh, _⟩ := isResourceName_iff.mp h
    have hlength : name.length = rest.length + 1 := by
      rw [← String.length_toList, hlist, List.length_cons]
    have hbounds : (decide (1 ≤ name.length) && decide (name.length ≤ 255)) = true := by
      simp only [Bool.and_eq_true, decide_eq_true_eq]
      omega
    rw [checkName, h, hbounds]
    rfl

/-- The names that are accepted: two to 255 characters without capitals, the first none that a name
may not start with, the others none of the reserved ones. -/
theorem acceptsName_iff {s : Spec} :
    s.AcceptsName ↔ ∃ c rest, s.name.toList = c :: rest ∧ 1 ≤ rest.length ∧ rest.length ≤ 254 ∧
      c ∉ reservedStarts ∧ (∀ d ∈ rest, d ∉ reservedCharacters) ∧
      ∀ d ∈ c :: rest, d.isUpper = false := by
  rw [acceptsName_iff_checkName, checkName_eq_nil_iff, isResourceName_iff]
  constructor
  · rintro ⟨c, rest, hlist, hlow, hhigh, hstart, hrest⟩
    obtain ⟨hfirst, hlower⟩ := startsName_iff.mp hstart
    refine ⟨c, rest, hlist, hlow, hhigh, hfirst, ?_, ?_⟩
    · intro d hd
      exact (continuesName_iff.mp (hrest d hd)).1
    · intro d hd
      rcases List.mem_cons.mp hd with rfl | hd
      · exact hlower
      · exact (continuesName_iff.mp (hrest d hd)).2
  · rintro ⟨c, rest, hlist, hlow, hhigh, hfirst, hunreserved, hlower⟩
    refine ⟨c, rest, hlist, hlow, hhigh, ?_, ?_⟩
    · exact startsName_iff.mpr ⟨hfirst, hlower c List.mem_cons_self⟩
    · intro d hd
      exact continuesName_iff.mpr ⟨hunreserved d hd, hlower d (List.mem_cons_of_mem c hd)⟩

/-- The name of a declaration that breaks no rule has no capitals. -/
theorem isUpper_eq_false_of_check {s : Spec} (h : s.check = []) :
    ∀ c ∈ s.name.toList, c.isUpper = false := by
  have haccepts : s.AcceptsName := by
    intro v hv
    rw [h] at hv
    cases hv
  obtain ⟨c, rest, hlist, _, _, _, _, hlower⟩ := acceptsName_iff.mp haccepts
  rw [hlist]
  exact hlower

/-- An accepted name keeps the rules of the server at every place but the first, and is allowed
exactly if its first character is not reserved. -/
theorem isAllowedName_iff_of_acceptsName {s : Spec} (h : s.AcceptsName) :
    (1 ≤ s.name.length ∧ s.name.length ≤ 255) ∧
      (∀ c ∈ s.name.toList.head?, c ∉ reservedStarts) ∧
      (∀ c ∈ s.name.toList.tail, c ∉ reservedCharacters) ∧
      (∀ c ∈ s.name.toList, c.isUpper = false) ∧
      (IsAllowedName s.name ↔ ∀ c ∈ s.name.toList.head?, c ∉ reservedCharacters) := by
  obtain ⟨c, rest, hlist, hlow, hhigh, hfirst, hrest, hlower⟩ := acceptsName_iff.mp h
  have hlength : s.name.length = rest.length + 1 := by
    rw [← String.length_toList, hlist, List.length_cons]
  have hstart : ∀ d ∈ s.name.toList.head?, d ∉ reservedStarts := by
    intro d hd
    rw [hlist, List.head?_cons, Option.mem_some] at hd
    exact hd ▸ hfirst
  rw [← hlist] at hlower
  refine ⟨⟨by omega, by omega⟩, hstart, by rwa [hlist], hlower, ?_⟩
  constructor
  · intro hallowed d hd
    exact hallowed.unreserved d (List.mem_of_mem_head? hd)
  · intro hhead
    refine ⟨by omega, by omega, hstart, ?_, hlower⟩
    intro d hd
    rw [hlist] at hd hhead
    rcases List.mem_cons.mp hd with rfl | hd
    · exact hhead d (by simp)
    · exact hrest d hd

theorem isAllowedName_iff_of_acceptsName_logs :
    AcceptsName { name := "logs-2024" } ∧
      (IsAllowedName "logs-2024" ↔ ∀ c ∈ "logs-2024".toList.head?, c ∉ reservedCharacters) := by
  have h : AcceptsName { name := "logs-2024" } := by decide
  exact ⟨h, (isAllowedName_iff_of_acceptsName h).2.2.2.2⟩

/-- A wildcard is accepted where it starts a name, for an index and for a template. -/
theorem leading_wildcard_accepted :
    AcceptsName { name := "*a" } ∧
      AcceptsName { name := "*a", template := some { indexPatterns := ["logs-*"] } } ∧
      ¬ IsAllowedName "*a" := by
  refine ⟨by decide, by decide, ?_⟩
  intro h
  exact h.unreserved '*' (by decide) (by decide)

end Spec

end IndexKeeper
