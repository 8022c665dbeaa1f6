import IndexKeeper.Proofs.Keyed
import IndexKeeper.Settings.Tree

/-!
# Looking up and listing leaves

A value is seen through `lookup`.  `MapsOrdered` is all that the view needs of the order of keys:
every map that a path leads to has its keys in order, whatever stands inside the arrays.  For such
values `mem_leafPaths_iff` says that the enumeration of leaves and the look-up agree: a path is
listed exactly if it leads to something that is no map.
-/

namespace IndexKeeper

namespace Json

/-! ## Look-up along a path -/

@[simp] theorem lookup_nil (v : Json) : v.lookup [] = some v := by
  cases v <;> rfl

@[simp] theorem lookup_obj_cons (key : String) (rest : Path) (ms : List (String × Json)) :
    (obj ms).lookup (key :: rest) = (Keyed.get? key ms).bind (lookup rest) := rfl

/-- Nothing is below a leaf. -/
theorem lookup_cons_of_leaf {v : Json} (h : v.isObject = false) (key : String) (rest : Path) :
    v.lookup (key :: rest) = none := by
  cases v with
  | obj ms => simp [isObject] at h
  | _ => rfl

theorem eq_obj_of_isObject {v : Json} (h : v.isObject = true) : ∃ ms, v = obj ms := by
  cases v with
  | obj ms => exact ⟨ms, rfl⟩
  | _ => simp [isObject] at h

/-- A path in two parts is followed part by part. -/
theorem lookup_append (p q : Path) (v : Json) :
    v.lookup (p ++ q) = (v.lookup p).bind (lookup q) := by
  induction p generalizing v with
  | nil => simp
  | cons key rest ih =>
    cases v with
    | obj ms =>
      rw [List.cons_append, lookup_obj_cons, lookup_obj_cons, Option.bind_assoc]
      exact congrArg _ (funext ih)
    | _ => rfl

/-! ## Order of the maps on the paths -/

/-- Every map that a path leads to has its keys in order. -/
def MapsOrdered (v : Json) : Prop :=
  ∀ p ms, v.lookup p = some (obj ms) → Keyed.Ordered ms

theorem MapsOrdered.keys {ms : List (String × Json)} (h : (obj ms).MapsOrdered) :
    Keyed.Ordered ms :=
  h [] ms (lookup_nil _)

theorem MapsOrdered.of_lookup {v w : Json} {p : Path} (h : v.MapsOrdered)
    (hw : v.lookup p = some w) : w.MapsOrdered := by
  intro q ms hq
  refine h (p ++ q) ms ?_
  rw [lookup_append, hw]
  exact hq

theorem MapsOrdered.of_get? {ms : List (String × Json)} {key : String} {v : Json}
    (h : (obj ms).MapsOrdered) (hv : Keyed.get? key ms = some v) : v.MapsOrdered :=
  h.of_lookup (p := [key]) (by simp [hv])

theorem mapsOrdered_of_leaf {v : Json} (h : v.isObject = false) : v.MapsOrdered := by
  intro p ms hp
  cases p with
  | nil =>
    rw [lookup_nil] at hp
    cases hp
    simp [isObject] at h
  | cons key rest =>
    rw [lookup_cons_of_leaf h] at hp
    cases hp

theorem mapsOrdered_obj_iff {ms : List (String × Json)} :
    (obj ms).MapsOrdered ↔
      Keyed.Ordered ms ∧ ∀ key v, Keyed.get? key ms = some v → v.MapsOrdered := by
  constructor
  · intro h
    exact ⟨h.keys, fun key v hv => h.of_get? hv⟩
  · rintro ⟨hkeys, hbelow⟩ p found hp
    cases p with
    | nil =>
      rw [lookup_nil] at hp
      cases hp
      exact hkeys
    | cons key rest =>
      rw [lookup_obj_cons, Option.bind_eq_some_iff] at hp
      obtain ⟨v, hv, hrest⟩ := hp
      exact hbelow key v hv rest found hrest

theorem MapsOrdered.tail {e : String × Json} {ms : List (String × Json)}
    (h : (obj (e :: ms)).MapsOrdered) : (obj ms).MapsOrdered := by
  rw [mapsOrdered_obj_iff]
  refine ⟨(List.pairwise_cons.1 h.keys).2, ?_⟩
  intro key v hv
  exact h.of_get? (h.keys.get?_of_mem (List.mem_cons_of_mem e (Keyed.mem_of_get? hv)))

theorem MapsOrdered.insert {ms : List (String × Json)} {v : Json} (h : (obj ms).MapsOrdered)
    (hv : v.MapsOrdered) (key : String) : (obj (Keyed.insert key v ms)).MapsOrdered := by
  rw [mapsOrdered_obj_iff]
  refine ⟨h.keys.insert key v, ?_⟩
  intro other w hw
  rw [Keyed.get?_insert] at hw
  split at hw
  · cases hw
    exact hv
  · exact h.of_get? hw

theorem MapsOrdered.erase {ms : List (String × Json)} (h : (obj ms).MapsOrdered)
    (key : String) : (obj (Keyed.erase key ms)).MapsOrdered := by
  rw [mapsOrdered_obj_iff]
  refine ⟨h.keys.erase key, ?_⟩
  intro other w hw
  rw [h.keys.get?_erase] at hw
  split at hw
  · cases hw
  · exact h.of_get? hw

theorem mapsOrdered_empty : (obj []).MapsOrdered :=
  mapsOrdered_obj_iff.mpr ⟨.nil, fun _ _ h => by cases h⟩

theorem ordered_of_mem {ms : List (String × Json)} (h : OrderedMembers ms) {key : String}
    {v : Json} (hv : (key, v) ∈ ms) : v.Ordered := by
  induction ms with
  | nil => simp at hv
  | cons e rest ih =>
    obtain ⟨k, w⟩ := e
    rw [OrderedMembers] at h
    rcases List.mem_cons.mp hv with heq | hrest
    · cases heq
      exact h.1
    · exact ih h.2 hrest

/-- A value whose objects are all in order has the maps on its paths in order. -/
theorem Ordered.mapsOrdered {v : Json} (h : v.Ordered) : v.MapsOrdered := by
  intro p
  induction p generalizing v with
  | nil =>
    intro ms hp
    rw [lookup_nil] at hp
    cases hp
    rw [Ordered] at h
    exact h.1
  | cons key rest ih =>
    intro ms hp
    cases v with
    | obj members =>
      rw [Ordered] at h
      rw [lookup_obj_cons, Option.bind_eq_some_iff] at hp
      obtain ⟨w, hw, hrest⟩ := hp
      exact ih (ordered_of_mem h.2 (Keyed.mem_of_get? hw)) ms hrest
    | _ => cases hp

/-! ## The enumeration of leaves -/

theorem mem_memberLeafPaths_iff {ms : List (String × Json)} {p : Path} :
    p ∈ memberLeafPaths ms ↔ ∃ key v rest, (key, v) ∈ ms ∧ rest ∈ v.leafPaths ∧
      p = key :: rest := by
  induction ms with
  | nil => simp [memberLeafPaths]
  | cons e tail ih =>
    obtain ⟨k, w⟩ := e
    rw [memberLeafPaths, List.mem_append, List.mem_map, ih]
    constructor
    · rintro (⟨rest, hrest, rfl⟩ | ⟨key, v, rest, hmem, hrest, rfl⟩)
      · exact ⟨k, w, rest, List.mem_cons_self, hrest, rfl⟩
      · exact ⟨key, v, rest, List.mem_cons_of_mem _ hmem, hrest, rfl⟩
    · rintro ⟨key, v, rest, hmem, hrest, rfl⟩
      rcases List.mem_cons.mp hmem with heq | htail
      · cases heq
        exact Or.inl ⟨rest, hrest, rfl⟩
      · exact Or.inr ⟨key, v, rest, htail, hrest, rfl⟩

theorem leafPaths_of_leaf {v : Json} (h : v.isObject = false) : v.leafPaths = [[]] := by
  cases v with
  | obj ms => simp [isObject] at h
  | _ => simp [leafPaths]

/-- A path that leads to something that is no map is listed. -/
theorem mem_leafPaths_of_lookup {v w : Json} {p : Path} (hw : v.lookup p = some w)
    (hleaf : w.isObject = false) : p ∈ v.leafPaths := by
  induction p generalizing v with
  | nil =>
    rw [lookup_nil] at hw
    cases hw
    rw [leafPaths_of_leaf hleaf]
    exact List.mem_cons_self
  | cons key rest ih =>
    cases v with
    | obj ms =>
      obtain ⟨u, hget, hrest⟩ := Option.bind_eq_some_iff.mp hw
      rw [leafPaths, mem_memberLeafPaths_iff]
      exact ⟨key, u, rest, Keyed.mem_of_get? hget, ih hrest, rfl⟩
    | _ => cases hw

/-- The enumeration lists exactly the paths that lead to something that is no map.  The induction
is on the path: the enumeration has no other data in common with the look-up. -/
theorem mem_leafPaths_iff {v : Json} (h : v.MapsOrdered) {p : Path} :
    p ∈ v.leafPaths ↔ ∃ w, v.lookup p = some w ∧ w.isObject = false := by
  refine ⟨?_, fun ⟨w, hw, hleaf⟩ => mem_leafPaths_of_lookup hw hleaf⟩
  intro hp
  induction p generalizing v with
  | nil =>
    cases hv : v.isObject with
    | false => exact ⟨v, lookup_nil v, hv⟩
    | true =>
      obtain ⟨ms, rfl⟩ := eq_obj_of_isObject hv
      rw [leafPaths, mem_memberLeafPaths_iff] at hp
      obtain ⟨_, _, _, _, _, heq⟩ := hp
      cases heq
  | cons key rest ih =>
    cases hv : v.isObject with
    | false =>
      rw [leafPaths_of_leaf hv] at hp
      cases List.mem_singleton.mp hp
    | true =>
      obtain ⟨ms, rfl⟩ := eq_obj_of_isObject hv
      rw [leafPaths, mem_memberLeafPaths_iff] at hp
      obtain ⟨k, u, tail, hmem, htail, heq⟩ := hp
      cases heq
      -- in ordered members the entry that was listed is the one that is looked up
      have hget : Keyed.get? key ms = some u := h.keys.get?_of_mem hmem
      obtain ⟨w, hw, hleaf⟩ := ih (h.of_get? hget) htail
      exact ⟨w, by simp [hget, hw], hleaf⟩

end Json

/-! ## Trees -/

namespace Tree

/-- Every map of the tree has its keys in order. -/
def MapsOrdered (t : Tree) : Prop := t.toJson.MapsOrdered

theorem Ordered.mapsOrdered {t : Tree} (h : t.Ordered) : t.MapsOrdered :=
  Json.Ordered.mapsOrdered h

@[simp] theorem lookup_nil (t : Tree) : t.lookup [] = none := rfl

@[simp] theorem lookup_cons (t : Tree) (key : String) (rest : Path) :
    t.lookup (key :: rest) = t.toJson.lookup (key :: rest) := rfl

theorem lookup_of_ne_nil (t : Tree) {p : Path} (h : p ≠ []) : t.lookup p = t.toJson.lookup p := by
  cases p with
  | nil => exact absurd rfl h
  | cons key rest => rfl

theorem ne_nil_of_lookup {t : Tree} {p : Path} {v : Json} (h : t.lookup p = some v) : p ≠ [] := by
  rintro rfl
  cases h

/-- A leaf of the tree is a leaf of the root. -/
theorem lookup_eq_some_leaf_iff {t : Tree} {p : Path} {v : Json} (hleaf : v.isObject = false) :
    t.lookup p = some v ↔ t.toJson.lookup p = some v := by
  cases p with
  | nil =>
    constructor
    · intro hv
      cases hv
    · intro hv
      cases hv
      cases hleaf
  | cons key rest => rw [lookup_cons]

/-- Below what is at a path, the look-up goes on from there. -/
theorem lookup_append (t : Tree) {p : Path} (h : p ≠ []) (q : Path) :
    t.lookup (p ++ q) = (t.lookup p).bind (Json.lookup q) := by
  rw [t.lookup_of_ne_nil h, t.lookup_of_ne_nil (List.append_ne_nil_of_left_ne_nil h q)]
  exact Json.lookup_append p q t.toJson

/-- Nothing is beyond a leaf. -/
theorem eq_of_leaf_prefix {t : Tree} {p q : Path} {v w : Json} (hv : t.lookup p = some v)
    (hleaf : v.isObject = false) (hw : t.lookup q = some w) (hpq : p <+: q) : p = q := by
  obtain ⟨rest, rfl⟩ := hpq
  rw [t.lookup_append (ne_nil_of_lookup hv), hv, Option.bind_some] at hw
  cases rest with
  | nil => rw [List.append_nil]
  | cons key more =>
    rw [Json.lookup_cons_of_leaf hleaf] at hw
    cases hw

theorem leafPaths_eq (t : Tree) : t.leafPaths = t.toJson.leafPaths := by
  rw [leafPaths, toJson, Json.leafPaths]

theorem mem_leafPaths_of_lookup {t : Tree} {p : Path} {v : Json} (hv : t.lookup p = some v)
    (hleaf : v.isObject = false) : p ∈ t.leafPaths := by
  rw [t.lookup_of_ne_nil (ne_nil_of_lookup hv)] at hv
  rw [leafPaths_eq]
  exact Json.mem_leafPaths_of_lookup hv hleaf

theorem mem_leafPaths_iff {t : Tree} (h : t.MapsOrdered) {p : Path} :
    p ∈ t.leafPaths ↔ ∃ v, t.lookup p = some v ∧ v.isObject = false := by
  rw [leafPaths_eq, Json.mem_leafPaths_iff h]
  exact exists_congr fun v => and_congr_left fun hleaf => (lookup_eq_some_leaf_iff hleaf).symm

theorem canonical?_eq_some_iff {t : Tree} {p : Path} {text : String} :
    t.canonical? p = some text ↔ ∃ v, t.lookup p = some v ∧ v.canonicalText = text := by
  simp [canonical?, Option.map_eq_some_iff]

end Tree

end IndexKeeper
