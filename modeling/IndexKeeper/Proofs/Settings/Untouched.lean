import IndexKeeper.Proofs.Settings.Removal

/-!
# What a removal leaves untouched

A removal leaves a value as it is exactly if the value is clear of the removed path: nothing is at
the path, and no map on the way is empty, since an empty map goes even when nothing was found in
it.  Otherwise the value goes or is written with fewer characters, so it can not be mistaken for
what it was: `canonical?_without_iff` says so for a list of paths taken out one after the other.
-/

namespace IndexKeeper

/-! ## Measures of entries -/

namespace Keyed

variable {α : Type}

/-- What a measure gives for all entries together. -/
def total (f : String × α → Nat) : List (String × α) → Nat
  | [] => 0
  | e :: rest => f e + total f rest

theorem total_erase (f : String × α → Nat) {key : String} {value : α}
    {entries : List (String × α)} (h : get? key entries = some value) :
    total f entries = f (key, value) + total f (erase key entries) := by
  induction entries with
  | nil => simp at h
  | cons e rest ih =>
    obtain ⟨k, v⟩ := e
    rw [get?_cons] at h
    split at h
    · next hk =>
      cases h
      rw [erase, if_pos hk, hk, total]
    · next hk =>
      rw [erase, if_neg hk, total, total, ih h]
      omega

theorem total_insert (f : String × α → Nat) {key : String} {old : α} (new : α)
    {entries : List (String × α)} (hord : Ordered entries) (h : get? key entries = some old) :
    total f (insert key new entries) + f (key, old) = total f entries + f (key, new) := by
  induction entries with
  | nil => simp at h
  | cons e rest ih =>
    obtain ⟨k, v⟩ := e
    obtain ⟨hhead, htail⟩ := List.pairwise_cons.1 hord
    rw [get?_cons] at h
    rw [insert]
    split at h
    · next hk =>
      cases h
      rw [if_pos hk, hk, total, total]
      omega
    · next hk =>
      have hlt : k < key := hhead (key, old) (mem_of_get? h)
      -- the keys are in order, so the member lies further on
      have hnlt : ¬ key < k := fun hgt => String.lt_irrefl key (String.lt_trans hgt hlt)
      have hrest := ih htail h
      rw [if_neg hk, if_neg hnlt, total, total]
      omega

end Keyed

namespace Json

/-! ## The length of a written map -/

/-- The characters of a member with its colon and a comma. -/
def width (member : String × Json) : Nat :=
  (quoted member.1).length + (chars member.2).length + 2

theorem length_memberChars {ms : List (String × Json)} (h : ms ≠ []) :
    (memberChars ms).length + 1 = Keyed.total width ms := by
  induction ms with
  | nil => exact absurd rfl h
  | cons e rest ih =>
    obtain ⟨k, v⟩ := e
    cases rest with
    | nil =>
      simp [memberChars, width, Keyed.total]
      omega
    | cons next more =>
      have hrest := ih (by simp)
      rw [Keyed.total, ← hrest]
      simp [memberChars, width]
      omega

theorem length_chars_obj (ms : List (String × Json)) :
    (obj ms).chars.length = (memberChars ms).length + 2 := by
  simp [chars]

/-- A map with members left is written with fewer characters when one is dropped. -/
theorem length_chars_erase {key : String} {v : Json} {ms : List (String × Json)}
    (hv : Keyed.get? key ms = some v) (hleft : Keyed.erase key ms ≠ []) :
    (obj (Keyed.erase key ms)).chars.length < (obj ms).chars.length := by
  have hms : ms ≠ [] := by
    rintro rfl
    cases hv
  have htotal := Keyed.total_erase width hv
  have hbefore := length_memberChars hms
  have hafter := length_memberChars hleft
  rw [length_chars_obj, length_chars_obj]
  simp only [width] at htotal
  omega

/-- A map is written with fewer characters when one of its members is. -/
theorem length_chars_insert {key : String} {v w : Json} {ms : List (String × Json)}
    (hord : Keyed.Ordered ms) (hv : Keyed.get? key ms = some v)
    (hw : w.chars.length < v.chars.length) :
    (obj (Keyed.insert key w ms)).chars.length < (obj ms).chars.length := by
  have hms : ms ≠ [] := by
    rintro rfl
    cases hv
  have hins : Keyed.insert key w ms ≠ [] := by
    intro hnil
    have hget := Keyed.get?_insert_self key w ms
    rw [hnil] at hget
    cases hget
  have htotal := Keyed.total_insert width w hord hv
  have hbefore := length_memberChars hms
  have hafter := length_memberChars hins
  rw [length_chars_obj, length_chars_obj]
  simp only [width] at htotal
  omega

/-! ## Values clear of a path -/

/-- Nothing is at the path, and no map on the way, the value itself included, is empty. -/
def ClearOf (v : Json) (p : Path) : Prop :=
  v.lookup p = none ∧ ∀ q, q <+: p → v.lookup q ≠ some (obj [])

theorem clearOf_of_leaf {v : Json} (h : v.isObject = false) {p : Path} (hp : p ≠ []) :
    v.ClearOf p := by
  obtain ⟨key, rest, rfl⟩ := List.exists_cons_of_ne_nil hp
  refine ⟨lookup_cons_of_leaf h key rest, ?_⟩
  intro q _ hq
  cases q with
  | nil =>
    rw [lookup_nil] at hq
    cases hq
    cases h
  | cons k tail =>
    rw [lookup_cons_of_leaf h] at hq
    cases hq

theorem not_clearOf_nil (v : Json) : ¬ v.ClearOf [] := by
  intro h
  have hnone := h.1
  rw [lookup_nil] at hnone
  cases hnone

/-- A map is clear of a path if it has members and the member on the way is clear of the rest. -/
theorem clearOf_obj_cons_iff {key : String} {rest : Path} {ms : List (String × Json)} :
    (obj ms).ClearOf (key :: rest) ↔
      ms ≠ [] ∧ ∀ v, Keyed.get? key ms = some v → v.ClearOf rest := by
  constructor
  · rintro ⟨hnone, hmaps⟩
    constructor
    · rintro rfl
      exact hmaps [] List.nil_prefix (lookup_nil _)
    · intro v hv
      rw [lookup_obj_cons, hv] at hnone
      refine ⟨hnone, ?_⟩
      intro q hq hempty
      refine hmaps (key :: q) (List.cons_prefix_cons.mpr ⟨rfl, hq⟩) ?_
      rw [lookup_obj_cons, hv]
      exact hempty
  · rintro ⟨hne, hmember⟩
    constructor
    · rw [lookup_obj_cons]
      cases hv : Keyed.get? key ms with
      | none => rfl
      | some v => exact (hmember v hv).1
    · intro q hq hempty
      cases q with
      | nil =>
        rw [lookup_nil] at hempty
        cases hempty
        exact hne rfl
      | cons k tail =>
        obtain ⟨rfl, htail⟩ := List.cons_prefix_cons.mp hq
        rw [lookup_obj_cons, Option.bind_eq_some_iff] at hempty
        obtain ⟨v, hv, hlook⟩ := hempty
        exact (hmember v hv).2 tail htail hlook

theorem pruned_obj_of_ne_nil {rest : Path} {ms : List (String × Json)}
    (h : (removeAt rest ms).2 ≠ []) : pruned rest (obj ms) = some (obj (removeAt rest ms).2) := by
  rw [pruned, if_neg]
  simpa using h

/-- A removal leaves a value that is clear of the path as it is. -/
theorem pruned_of_clearOf {v : Json} (hv : v.MapsOrdered) {p : Path} (h : v.ClearOf p) :
    pruned p v = some v := by
  induction p generalizing v with
  | nil => exact absurd h (not_clearOf_nil v)
  | cons key rest ih =>
    cases hobj : v.isObject with
    | false => exact pruned_of_leaf hobj _
    | true =>
      obtain ⟨ms, rfl⟩ := eq_obj_of_isObject hobj
      obtain ⟨hne, hmember⟩ := clearOf_obj_cons_iff.mp h
      -- the member on the way stays as it is, so the map does, and it is not empty
      have hsame : (removeAt (key :: rest) ms).2 = ms := by
        cases hget : Keyed.get? key ms with
        | none => exact removeAt_of_none hget
        | some w =>
          have hclear : w.ClearOf rest := hmember w hget
          have hrest : rest ≠ [] := by
            rintro rfl
            exact not_clearOf_nil w hclear
          rw [removeAt_cons hrest hv.keys hget, ih (hv.of_get? hget) hclear]
          exact Keyed.insert_eq_self hv.keys hget
      have hleft : (removeAt (key :: rest) ms).2 ≠ [] := by
        rw [hsame]
        exact hne
      rw [pruned_obj_of_ne_nil hleft, hsame]

/-- A removal that touches a value makes it go or shortens its text. -/
theorem pruned_of_not_clearOf {v : Json} (hv : v.MapsOrdered) {p : Path} (hp : p ≠ [])
    (h : ¬ v.ClearOf p) {w : Json} (hw : pruned p v = some w) :
    w.chars.length < v.chars.length := by
  induction p generalizing v w with
  | nil => exact absurd rfl hp
  | cons key rest ih =>
    cases hobj : v.isObject with
    | false => exact absurd (clearOf_of_leaf hobj hp) h
    | true =>
      obtain ⟨ms, rfl⟩ := eq_obj_of_isObject hobj
      have hleft : (removeAt (key :: rest) ms).2 ≠ [] := by
        intro hnil
        rw [pruned, hnil] at hw
        cases hw
      rw [pruned_obj_of_ne_nil hleft] at hw
      cases hw
      cases hget : Keyed.get? key ms with
      | none =>
        -- nothing under the key: only an empty map is touched, and it goes
        rw [removeAt_of_none hget] at hleft
        have hclear : (obj ms).ClearOf (key :: rest) := by
          rw [clearOf_obj_cons_iff]
          refine ⟨hleft, ?_⟩
          intro u hu
          rw [hget] at hu
          cases hu
        exact absurd hclear h
      | some u =>
        have hu : ¬ u.ClearOf rest := by
          intro hclear
          apply h
          rw [clearOf_obj_cons_iff]
          constructor
          · rintro rfl
            cases hget
          · intro u' hu'
            rw [hget] at hu'
            cases hu'
            exact hclear
        by_cases hrest : rest = []
        · rw [hrest, removeAt_singleton] at hleft ⊢
          exact length_chars_erase hget hleft
        · rw [removeAt_cons hrest hv.keys hget] at hleft ⊢
          -- the member goes, or is put back with fewer characters
          cases hprune : pruned rest u with
          | none =>
            rw [hprune] at hleft
            exact length_chars_erase hget hleft
          | some u' => exact length_chars_insert hv.keys hget (ih (hv.of_get? hget) hrest hu hprune)

theorem isObject_of_pruned {v w : Json} {p : Path} (hobj : v.isObject = true)
    (hw : pruned p v = some w) : w.isObject = true := by
  rcases pruned_le hw with rfl | ⟨_, hwobj⟩
  · exact hobj
  · exact hwobj

/-- Maps are compared by the text they are written as. -/
theorem chars_eq_of_canonicalText {v w : Json} (hv : v.isObject = true)
    (hw : w.isObject = true) (h : v.canonicalText = w.canonicalText) : v.chars = w.chars := by
  obtain ⟨ms, rfl⟩ := eq_obj_of_isObject hv
  obtain ⟨ms', rfl⟩ := eq_obj_of_isObject hw
  exact String.ofList_injective h

end Json

/-! ## Several removals -/

namespace Tree

/-- The tree with the settings of the given names taken out, one after the other. -/
def without (keys : List String) (t : Tree) : Tree :=
  keys.foldl (fun t key => (t.remove (Path.ofDotted key)).2) t

@[simp] theorem without_nil (t : Tree) : t.without [] = t := rfl

theorem without_cons (key : String) (keys : List String) (t : Tree) :
    t.without (key :: keys) = (t.remove (Path.ofDotted key)).2.without keys := rfl

theorem MapsOrdered.without {t : Tree} (h : t.MapsOrdered) (keys : List String) :
    (t.without keys).MapsOrdered := by
  induction keys generalizing t with
  | nil => exact h
  | cons key rest ih => exact ih (h.remove _)

theorem lookup_without_eq_none {t : Tree} (h : t.MapsOrdered) {p : Path}
    (hp : t.lookup p = none) (keys : List String) : (t.without keys).lookup p = none := by
  induction keys generalizing t with
  | nil => exact hp
  | cons key rest ih => exact ih (h.remove _) (lookup_remove_eq_none h hp)

/-- Nothing is left at a name that was taken out, or beyond it. -/
theorem lookup_without_beyond {t : Tree} (h : t.MapsOrdered) {keys : List String}
    {key : String} (hkey : key ∈ keys) {p : Path} (hp : Path.ofDotted key <+: p) :
    (t.without keys).lookup p = none := by
  induction keys generalizing t with
  | nil => cases hkey
  | cons first rest ih =>
    rw [without_cons]
    rcases List.mem_cons.mp hkey with rfl | hrest
    · have hgone := lookup_remove_beyond h (Path.ofDotted_ne_nil key) hp
      exact lookup_without_eq_none (h.remove _) hgone rest
    · exact ih (h.remove _) hrest

/-- A leaf stays unless its path is a name that was taken out or leads beyond one. -/
theorem lookup_without_of_leaf {t : Tree} (h : t.MapsOrdered) {keys : List String} {p : Path}
    {v : Json} (hv : t.lookup p = some v) (hleaf : v.isObject = false)
    (hkeys : ∀ key ∈ keys, ¬ Path.ofDotted key <+: p) : (t.without keys).lookup p = some v := by
  induction keys generalizing t with
  | nil => exact hv
  | cons key rest ih =>
    have hstay := lookup_remove_of_leaf h hv hleaf (hkeys key List.mem_cons_self)
    exact ih (h.remove _) hstay fun k hk => hkeys k (List.mem_cons_of_mem _ hk)

/-- Taking out makes nothing appear, and a map stays a map where it stays. -/
theorem lookup_without_le {t : Tree} (h : t.MapsOrdered) {keys : List String} {p : Path}
    {w : Json} (hw : (t.without keys).lookup p = some w) :
    t.lookup p = some w ∨ ∃ v, t.lookup p = some v ∧ v.isObject = true ∧ w.isObject = true := by
  induction keys generalizing t with
  | nil => exact Or.inl hw
  | cons key rest ih =>
    rcases ih (h.remove _) hw with hsame | ⟨v, hv, hvobj, hwobj⟩
    · exact lookup_remove_le h hsame
    · rcases lookup_remove_le h hv with hv | ⟨u, hu, huobj, _⟩
      · exact Or.inr ⟨v, hv, hvobj, hwobj⟩
      · exact Or.inr ⟨u, hu, huobj, hwobj⟩

/-- A tree is clear of a setting as seen from a path: the setting is not at the path or above it,
and what is at the path is clear of it. -/
def ClearAt (t : Tree) (p : Path) (key : String) : Prop :=
  ¬ Path.ofDotted key <+: p ∧
    ∀ rest v, Path.ofDotted key = p ++ rest → t.lookup p = some v → v.ClearOf rest

/-- Only what is at the path counts. -/
theorem clearAt_congr {t t' : Tree} {p : Path} (h : t.lookup p = t'.lookup p) (key : String) :
    t.ClearAt p key ↔ t'.ClearAt p key := by
  rw [ClearAt, ClearAt, h]

theorem lookup_remove_of_clearAt {t : Tree} (h : t.MapsOrdered) {p : Path} {v : Json}
    (hv : t.lookup p = some v) {key : String} (hclear : t.ClearAt p key) :
    (t.remove (Path.ofDotted key)).2.lookup p = some v := by
  rcases lookup_remove_cases h (Path.ofDotted_ne_nil key) p with
    ⟨hbeyond, _⟩ | ⟨rest, _, hrest, hway⟩ | ⟨_, _, hsame⟩
  · exact absurd hbeyond hclear.1
  · have hv' : v.MapsOrdered := by
      have hroot := hv
      rw [t.lookup_of_ne_nil (ne_nil_of_lookup hv)] at hroot
      exact Json.MapsOrdered.of_lookup h hroot
    rw [hway, hv, Option.bind_some]
    exact Json.pruned_of_clearOf hv' (hclear.2 rest v hrest.symm hv)
  · rw [hsame, hv]

/-- What a removal leaves at a path of a tree that is not clear of the setting is a shorter map. -/
theorem length_lookup_remove {t : Tree} (h : t.MapsOrdered) {p : Path} {v w : Json}
    {key : String} (hv : t.lookup p = some v) (hclear : ¬ t.ClearAt p key)
    (hw : (t.remove (Path.ofDotted key)).2.lookup p = some w) :
    v.isObject = true ∧ w.isObject = true ∧ w.chars.length < v.chars.length := by
  have hp : p ≠ [] := ne_nil_of_lookup hv
  have hkp : ¬ Path.ofDotted key <+: p := by
    intro hpre
    rw [lookup_remove_beyond h (Path.ofDotted_ne_nil key) hpre] at hw
    cases hw
  have hv' : v.MapsOrdered := by
    rw [t.lookup_of_ne_nil hp] at hv
    exact Json.MapsOrdered.of_lookup h hv
  -- the setting is below the path, and what is at the path is not clear of it
  have hbelow : ∃ rest, Path.ofDotted key = p ++ rest ∧ ¬ v.ClearOf rest := by
    apply Classical.byContradiction
    intro hno
    refine hclear ⟨hkp, ?_⟩
    intro rest u hrest hu
    rw [hv] at hu
    cases hu
    apply Classical.byContradiction
    intro hu
    exact hno ⟨rest, hrest, hu⟩
  obtain ⟨rest, hrest, hnot⟩ := hbelow
  have hne : rest ≠ [] := by
    rintro rfl
    rw [List.append_nil] at hrest
    exact hkp (hrest ▸ List.prefix_refl p)
  rw [hrest, lookup_remove_append h hp hne, hv, Option.bind_some] at hw
  have hobj : v.isObject = true := by
    cases hobj : v.isObject with
    | true => rfl
    | false => exact absurd (Json.clearOf_of_leaf hobj hne) hnot
  refine ⟨hobj, ?_, Json.pruned_of_not_clearOf hv' hne hnot hw⟩
  exact Json.isObject_of_pruned hobj hw

/-- Something that is left at a path comes from something that was there. -/
theorem exists_lookup_of_without {t : Tree} (h : t.MapsOrdered) {keys : List String} {p : Path}
    {w : Json} (hw : (t.without keys).lookup p = some w) : ∃ v, t.lookup p = some v := by
  rcases lookup_without_le h hw with hsame | ⟨v, hv, _, _⟩
  · exact ⟨w, hsame⟩
  · exact ⟨v, hv⟩

/-- What is left at a path after all removals is what was there, or a shorter map. -/
theorem length_lookup_without {t : Tree} (h : t.MapsOrdered) {keys : List String} {p : Path}
    {v w : Json} (hv : t.lookup p = some v) (hw : (t.without keys).lookup p = some w) :
    w = v ∨ (v.isObject = true ∧ w.isObject = true ∧ w.chars.length < v.chars.length) := by
  induction keys generalizing t v with
  | nil =>
    rw [without_nil, hv] at hw
    cases hw
    exact Or.inl rfl
  | cons key rest ih =>
    rw [without_cons] at hw
    obtain ⟨u, hu⟩ := exists_lookup_of_without (h.remove _) hw
    by_cases hclear : t.ClearAt p key
    · have hkeep := lookup_remove_of_clearAt h hv hclear
      exact ih (h.remove _) hkeep hw
    · obtain ⟨hvobj, huobj, hshort⟩ := length_lookup_remove h hv hclear hu
      rcases ih (h.remove _) hu hw with rfl | ⟨_, hwobj, hshorter⟩
      · exact Or.inr ⟨hvobj, huobj, hshort⟩
      · exact Or.inr ⟨hvobj, hwobj, Nat.lt_trans hshorter hshort⟩

/-- Taking settings out keeps the text at a path exactly if the tree is clear of all of them as
seen from there. -/
theorem canonical?_without_iff {t : Tree} (h : t.MapsOrdered) {keys : List String} {p : Path}
    {v : Json} (hv : t.lookup p = some v) :
    (t.without keys).canonical? p = some v.canonicalText ↔ ∀ key ∈ keys, t.ClearAt p key := by
  induction keys generalizing t with
  | nil =>
    rw [without_nil, canonical?, hv]
    simp
  | cons key rest ih =>
    rw [without_cons]
    by_cases hfirst : t.ClearAt p key
    · have hkeep := lookup_remove_of_clearAt h hv hfirst
      rw [ih (h.remove _) hkeep, List.forall_mem_cons]
      have hsame : ∀ k, (t.remove (Path.ofDotted key)).2.ClearAt p k ↔ t.ClearAt p k := by
        intro k
        exact clearAt_congr (hkeep.trans hv.symm) k
      simp only [hsame, hfirst, true_and]
    · constructor
      · intro hkept
        obtain ⟨w, hw, htext⟩ := canonical?_eq_some_iff.mp hkept
        obtain ⟨u, hu⟩ := exists_lookup_of_without (h.remove _) hw
        obtain ⟨hvobj, huobj, hshort⟩ := length_lookup_remove h hv hfirst hu
        -- what is left is a map that is shorter than the one that was there, so its text differs
        have hle : w.isObject = true ∧ w.chars.length ≤ u.chars.length := by
          rcases length_lookup_without (h.remove _) hu hw with rfl | ⟨_, hwobj, hlt⟩
          · exact ⟨huobj, Nat.le_refl _⟩
          · exact ⟨hwobj, Nat.le_of_lt hlt⟩
        have hsame := Json.chars_eq_of_canonicalText hle.1 hvobj htext
        rw [hsame] at hle
        omega
      · intro hall
        exact absurd (hall key List.mem_cons_self) hfirst

end Tree

end IndexKeeper
