import IndexKeeper.Proofs.Manifest.Typed
import IndexKeeper.Proofs.Settings.Stripping
import Mathlib.Data.List.Perm.Basic

/-!
# Sparse trees of declared settings

The tree of declared settings has one leaf for each field that is set, at the names of the groups
around it and its own, and no other leaf (`toTree_sparse`).  Unset fields are not written and empty
groups are empty maps, so neither shows.

The fixed settings are listed apart from the table of fields, by their dotted names.  The two agree
on what is fixed (`awayFrom_fixed_iff`), so stripping a tree is the same as not setting the fixed
fields.
-/

namespace IndexKeeper

/-! ## What is set -/

mutual

/-- The paths of the fields of a form that are not groups. -/
def Form.paths : Form → List Path
  | .integer _ _ => [[]]
  | .text _ => [[]]
  | .group _ fields => Form.fieldPaths fields

/-- The paths below fields, each behind the name of its field. -/
def Form.fieldPaths : List (String × Form) → List Path
  | [] => []
  | (name, form) :: rest => (Form.paths form).map (name :: ·) ++ Form.fieldPaths rest

end

mutual

/-- The integers and texts that are set in an entry, each with the names on the way to it and as
text. -/
def Entry.leaves : Entry → List (Path × String)
  | .integer i => [([], toString i)]
  | .text s => [([], s)]
  | .group fields => Entry.fieldLeaves fields

/-- What is set in fields, each behind the name of its field. -/
def Entry.fieldLeaves : List (String × Entry) → List (Path × String)
  | [] => []
  | (name, entry) :: rest =>
    (Entry.leaves entry).map (fun leaf => (name :: leaf.1, leaf.2)) ++ Entry.fieldLeaves rest

end

namespace Entry

theorem fieldLeaves_eq_flatMap (entries : List (String × Entry)) :
    fieldLeaves entries = entries.flatMap fun field =>
      field.2.leaves.map fun leaf => (field.1 :: leaf.1, leaf.2) := by
  induction entries with
  | nil => rw [fieldLeaves, List.flatMap_nil]
  | cons field rest ih => rw [fieldLeaves, List.flatMap_cons, ih]

theorem mem_fieldLeaves_iff {entries : List (String × Entry)} {leaf : Path × String} :
    leaf ∈ fieldLeaves entries ↔ ∃ field ∈ entries, ∃ below ∈ field.2.leaves,
      leaf = (field.1 :: below.1, below.2) := by
  simp only [fieldLeaves_eq_flatMap, List.mem_flatMap, List.mem_map, eq_comm]

end Entry

namespace Form

theorem mem_fieldPaths {fields : List (String × Form)} {name : String} {form : Form}
    (h : (name, form) ∈ fields) {p : Path} (hp : p ∈ form.paths) :
    name :: p ∈ fieldPaths fields := by
  induction fields with
  | nil => cases h
  | cons field rest ih =>
    obtain ⟨first, firstForm⟩ := field
    rw [fieldPaths, List.mem_append]
    rcases List.mem_cons.mp h with heq | hrest
    · cases heq
      exact Or.inl (List.mem_map.mpr ⟨p, hp, rfl⟩)
    · exact Or.inr (ih hrest)

/-- What is set stands where the form has a field. -/
theorem Fits.mem_paths {form : Form} {entry : Entry} (h : form.Fits entry)
    {leaf : Path × String} (hleaf : leaf ∈ entry.leaves) : leaf.1 ∈ form.paths := by
  induction h generalizing leaf with
  | integer _ _ =>
    rw [Entry.leaves, List.mem_singleton] at hleaf
    rw [hleaf, paths]
    exact List.mem_singleton_self _
  | text =>
    rw [Entry.leaves, List.mem_singleton] at hleaf
    rw [hleaf, paths]
    exact List.mem_singleton_self _
  | @group name fields entries names _ ih =>
    rw [Entry.leaves, Entry.mem_fieldLeaves_iff] at hleaf
    obtain ⟨field, hfield, below, hbelow, rfl⟩ := hleaf
    obtain ⟨form, hform⟩ := exists_form names hfield
    rw [paths]
    exact mem_fieldPaths hform (ih field.1 form field.2 hform hfield hbelow)

end Form

/-! ## Entries as values -/

namespace Json

theorem memberLeafPaths_eq_flatMap (ms : List (String × Json)) :
    memberLeafPaths ms = ms.flatMap fun m => m.2.leafPaths.map (m.1 :: ·) := by
  induction ms with
  | nil => rw [memberLeafPaths, List.flatMap_nil]
  | cons m rest ih => rw [memberLeafPaths, List.flatMap_cons, ih]

theorem memberLeafPaths_perm {ms ns : List (String × Json)} (h : ms.Perm ns) :
    (memberLeafPaths ms).Perm (memberLeafPaths ns) := by
  rw [memberLeafPaths_eq_flatMap, memberLeafPaths_eq_flatMap]
  exact h.flatMap_right _

end Json

namespace Entry

variable {entry : Entry}

theorem WellNamed.expanded_toJson (h : entry.WellNamed) : entry.toJson.Expanded := by
  induction h with
  | integer i => exact Json.expanded_of_leaf (by rw [toJson]; rfl)
  | text s => exact Json.expanded_of_leaf (by rw [toJson]; rfl)
  | group names undotted _ ih =>
    rw [toJson, Json.ofMembers, Json.expanded_obj_iff]
    refine ⟨.ofList _, ?_⟩
    intro key v hv
    obtain ⟨entry, hmem, rfl⟩ := mem_of_mem_toMembers (Keyed.mem_ofList (Keyed.mem_of_get? hv))
    exact ⟨undotted _ hmem, ih _ hmem⟩

theorem WellNamed.leafPaths_toJson (h : entry.WellNamed) :
    entry.toJson.leafPaths.Perm (entry.leaves.map Prod.fst) := by
  induction h with
  | integer i =>
    rw [toJson, leaves, Json.leafPaths_of_leaf rfl]
    rfl
  | text s =>
    rw [toJson, leaves, Json.leafPaths_of_leaf rfl]
    rfl
  | @group entries names _ _ ih =>
    rw [toJson, Json.ofMembers, Json.leafPaths, leaves]
    refine (Json.memberLeafPaths_perm (Keyed.ofList_perm (nodup_keys_toMembers names))).trans ?_
    rw [Json.memberLeafPaths_eq_flatMap, toMembers_eq_map, List.flatMap_map,
      fieldLeaves_eq_flatMap, List.map_flatMap]
    refine List.Perm.flatMap_left _ fun field hfield => ?_
    rw [List.map_map]
    simpa [Function.comp_def] using (ih field hfield).map (field.1 :: ·)

/-- A path through a group goes on in the field that it names. -/
theorem lookup_toJson_cons {entries : List (String × Entry)} (names : (Keyed.keys entries).Nodup)
    (name : String) (rest : Path) :
    (Entry.group entries).toJson.lookup (name :: rest) =
      (Keyed.get? name entries).bind fun entry => entry.toJson.lookup rest := by
  rw [toJson, Json.ofMembers, Json.lookup_obj_cons, Keyed.get?_ofList (nodup_keys_toMembers names),
    get?_toMembers, Option.bind_map]
  rfl

theorem WellNamed.canonicalText_leaf (h : entry.WellNamed) {leaf : Path × String}
    (hleaf : leaf ∈ entry.leaves) :
    (entry.toJson.lookup leaf.1).map Json.canonicalText = some leaf.2 := by
  induction h generalizing leaf with
  | integer i =>
    rw [leaves, List.mem_singleton] at hleaf
    rw [hleaf, toJson, Json.lookup_nil]
    rfl
  | text s =>
    rw [leaves, List.mem_singleton] at hleaf
    rw [hleaf, toJson, Json.lookup_nil]
    rfl
  | group names _ _ ih =>
    rw [leaves, mem_fieldLeaves_iff] at hleaf
    obtain ⟨field, hfield, below, hbelow, rfl⟩ := hleaf
    rw [lookup_toJson_cons names, Keyed.get?_of_mem names hfield, Option.bind_some]
    exact ih field hfield hbelow

end Entry

/-! ## Declared settings -/

namespace IndexSettings

/-- The fields that are set, each with its path and its value as text. -/
def leaves (s : IndexSettings) : List (Path × String) := Entry.fieldLeaves s.entries

/-- The settings without the fields of the given names. -/
def unset (names : List String) (s : IndexSettings) : IndexSettings :=
  ⟨s.entries.filter fun field => field.1 ∉ names⟩

/-- The fields that are fixed when an index is created, by their own names. -/
def fixedFields : List String :=
  ["number_of_shards", "shard", "codec", "routing_partition_size",
    "load_fixed_bitset_filters_eagerly", "hidden"]

/-- The dotted names of the fixed settings and the fields that are fixed are the same part of the
table. -/
theorem awayFrom_fixed_iff :
    ∀ p ∈ Form.fieldPaths fields, Path.AwayFrom Tree.fixedSettings ("index" :: p) ↔
      ∀ name ∈ p.head?, name ∉ fixedFields := by
  decide

/-- The tree of settings with nothing in them to expand. -/
def tree (s : IndexSettings) : Tree := ⟨[("index", s.toJson)]⟩

section WellNamed

variable {s : IndexSettings} (h : Entry.WellNamed (.group s.entries))
include h

theorem expanded_tree : s.tree.Expanded := by
  rw [Tree.Expanded, Tree.toJson, tree, Json.expanded_obj_iff]
  refine ⟨List.pairwise_singleton _ _, ?_⟩
  intro key v hv
  rw [Keyed.get?_cons] at hv
  split at hv
  · next hkey =>
    cases hv
    subst hkey
    exact ⟨by decide, h.expanded_toJson⟩
  · cases hv

theorem toTree_eq : s.toTree = .ok s.tree :=
  Tree.ofSettings?_toJson (expanded_tree h)

theorem mapsOrdered_tree : s.tree.MapsOrdered :=
  (expanded_tree h).mapsOrdered

/-- A setting is looked up in the field that its first name names. -/
theorem lookup_tree (name : String) (rest : Path) :
    s.tree.lookup ("index" :: name :: rest) =
      (Keyed.get? name s.entries).bind fun entry => entry.toJson.lookup rest :=
  Entry.lookup_toJson_cons h.fields.1 name rest

theorem leafPaths_tree :
    s.tree.leafPaths.Perm (s.leaves.map fun leaf => "index" :: leaf.1) := by
  have hvalue := h.leafPaths_toJson.map ("index" :: ·)
  rw [List.map_map] at hvalue
  have hpaths : s.tree.leafPaths = s.toJson.leafPaths.map ("index" :: ·) := by
    rw [Tree.leafPaths, tree, Json.memberLeafPaths, Json.memberLeafPaths, List.append_nil]
  rw [hpaths]
  exact hvalue

/-- The leaves of the tree are the fields that are set. -/
theorem leaves_tree :
    (s.tree.leafPaths.map fun p => (p, s.tree.canonical? p)).Perm
      (s.leaves.map fun leaf => ("index" :: leaf.1, some leaf.2)) := by
  refine ((leafPaths_tree h).map fun p => (p, s.tree.canonical? p)).trans (.of_eq ?_)
  rw [List.map_map]
  refine List.map_congr_left fun leaf hleaf => ?_
  have htext : s.tree.canonical? ("index" :: leaf.1) = some leaf.2 := by
    rw [← h.canonicalText_leaf hleaf]
    rfl
  rw [Function.comp_apply, htext]

theorem wellNamed_unset (names : List String) :
    Entry.WellNamed (.group (s.unset names).entries) := by
  obtain ⟨hnodup, hfields⟩ := h.fields
  have hsub : (s.unset names).entries.Sublist s.entries := List.filter_sublist
  refine .group (hnodup.sublist (hsub.map Prod.fst)) ?_ ?_
  · exact fun field hfield => (hfields field (hsub.subset hfield)).1
  · exact fun field hfield => (hfields field (hsub.subset hfield)).2

theorem mem_leafPaths_tree_iff {p : Path} :
    p ∈ s.tree.leafPaths ↔ ∃ leaf ∈ s.leaves, "index" :: leaf.1 = p := by
  rw [(leafPaths_tree h).mem_iff, List.mem_map]

end WellNamed

/-! ## Stripping -/

section Unset

variable {s : IndexSettings} {names : List String} {leaf : Path × String}

theorem mem_leaves_unset_iff :
    leaf ∈ (s.unset names).leaves ↔
      leaf ∈ s.leaves ∧ ∀ name ∈ leaf.1.head?, name ∉ names := by
  simp only [leaves, unset, Entry.mem_fieldLeaves_iff, List.mem_filter, decide_eq_true_eq]
  constructor
  · rintro ⟨field, ⟨hfield, hname⟩, below, hbelow, rfl⟩
    exact ⟨⟨field, hfield, below, hbelow, rfl⟩, by simpa using hname⟩
  · rintro ⟨⟨field, hfield, below, hbelow, rfl⟩, hname⟩
    exact ⟨field, ⟨hfield, by simpa using hname⟩, below, hbelow, rfl⟩

/-- A setting has its value also where others are not set. -/
theorem lookup_tree_unset (h : Entry.WellNamed (.group s.entries))
    (hleaf : leaf ∈ (s.unset names).leaves) :
    (s.unset names).tree.lookup ("index" :: leaf.1) = s.tree.lookup ("index" :: leaf.1) := by
  have hname := (mem_leaves_unset_iff.mp hleaf).2
  obtain ⟨⟨name, entry⟩, _, below, _, rfl⟩ := Entry.mem_fieldLeaves_iff.mp hleaf
  have hkept : decide (name ∉ names) = true := by simpa using hname
  have hget : Keyed.get? name (s.unset names).entries = Keyed.get? name s.entries :=
    Keyed.get?_filter (p := fun name => decide (name ∉ names)) hkept s.entries
  rw [lookup_tree (wellNamed_unset h names), lookup_tree h, hget]

end Unset

end IndexSettings

/-- Two trees have the same leaves, with the same values. -/
structure Tree.SameLeaves (t u : Tree) : Prop where
  paths : t.leafPaths = u.leafPaths
  values : ∀ p ∈ u.leafPaths, t.lookup p = u.lookup p

namespace IndexSettings

variable {s : IndexSettings}

/-- A field that is set stands in the table. -/
theorem Typed.mem_fieldPaths (h : s.Typed) {leaf : Path × String} (hleaf : leaf ∈ s.leaves) :
    leaf.1 ∈ Form.fieldPaths fields := by
  have hmem : leaf.1 ∈ Form.paths (.group "IndexSettings" fields) := by
    refine Form.Fits.mem_paths h ?_
    rw [Entry.leaves]
    exact hleaf
  rwa [Form.paths] at hmem

/-- What is away from the fixed settings is what is set without the fixed fields. -/
theorem Typed.mem_leafPaths_unset_iff (h : s.Typed) {p : Path} :
    p ∈ (s.unset fixedFields).tree.leafPaths ↔
      p ∈ s.tree.leafPaths ∧ p.AwayFrom Tree.fixedSettings := by
  rw [mem_leafPaths_tree_iff h.wellNamed,
    mem_leafPaths_tree_iff (wellNamed_unset h.wellNamed fixedFields)]
  constructor
  · rintro ⟨leaf, hunset, rfl⟩
    obtain ⟨hleaf, hname⟩ := mem_leaves_unset_iff.mp hunset
    exact ⟨⟨leaf, hleaf, rfl⟩, (awayFrom_fixed_iff leaf.1 (h.mem_fieldPaths hleaf)).mpr hname⟩
  · rintro ⟨⟨leaf, hleaf, rfl⟩, haway⟩
    have hname := (awayFrom_fixed_iff leaf.1 (h.mem_fieldPaths hleaf)).mp haway
    exact ⟨leaf, mem_leaves_unset_iff.mpr ⟨hleaf, hname⟩, rfl⟩

/-- Stripping the tree leaves what it would have without the fixed fields. -/
theorem Typed.withoutFixed_tree (h : s.Typed) :
    s.tree.withoutFixed.SameLeaves (s.unset fixedFields).tree := by
  have hord := mapsOrdered_tree h.wellNamed
  have hunset := wellNamed_unset h.wellNamed fixedFields
  have hstripped := Tree.strippedOf_without hord Tree.fixedSettings
  rw [← Tree.withoutFixed_eq] at hstripped
  have hpaths : s.tree.withoutFixed.leafPaths = (s.unset fixedFields).tree.leafPaths := by
    rw [hstripped.leaves]
    refine Path.eq_of_pairwise ((Tree.pairwise_leafPaths hord).filter _)
      (Tree.pairwise_leafPaths (mapsOrdered_tree hunset)) fun p => ?_
    rw [List.mem_filter, decide_eq_true_iff, h.mem_leafPaths_unset_iff]
  refine ⟨hpaths, ?_⟩
  intro p hp
  have hkept : p ∈ s.tree.withoutFixed.leafPaths := by
    rw [hpaths]
    exact hp
  obtain ⟨leaf, hleaf, rfl⟩ := (mem_leafPaths_tree_iff hunset).mp hp
  rw [hstripped.values _ hkept, lookup_tree_unset h.wellNamed hleaf]

/-- Typed settings always have a tree.  Its leaves are the fields that are set, at the path of the
field below `index` and with its value as text; unset fields and empty groups have none.  Stripping
takes out the fixed fields and no others. -/
theorem toTree_sparse (h : s.Typed) :
    ∃ t u, s.toTree = .ok t ∧ (s.unset fixedFields).toTree = .ok u ∧
      (t.leafPaths.map fun p => (p, t.canonical? p)).Perm
        (s.leaves.map fun leaf => ("index" :: leaf.1, some leaf.2)) ∧
      t.withoutFixed.SameLeaves u :=
  ⟨s.tree, (s.unset fixedFields).tree, toTree_eq h.wellNamed,
    toTree_eq (wellNamed_unset h.wellNamed fixedFields), leaves_tree h.wellNamed,
    h.withoutFixed_tree⟩

/-- An empty group leaves nothing in the tree, and the shards are fixed. -/
theorem toTree_sparse_shards :
    Typed ⟨[("number_of_shards", .integer 3), ("search", .group []),
        ("routing", .group [("allocation", .group [("enable", .text "none")])])]⟩ ∧
      ∃ t, toTree ⟨[("number_of_shards", .integer 3), ("search", .group []),
          ("routing", .group [("allocation", .group [("enable", .text "none")])])]⟩ = .ok t ∧
        (t.leafPaths.map fun p => (p, t.canonical? p)).Perm
          [(["index", "number_of_shards"], some "3"),
            (["index", "routing", "allocation", "enable"], some "none")] ∧
        t.withoutFixed.leafPaths = [["index", "routing", "allocation", "enable"]] := by
  have h : Typed ⟨[("number_of_shards", .integer 3), ("search", .group []),
      ("routing", .group [("allocation", .group [("enable", .text "none")])])]⟩ :=
    typed_iff.mpr ⟨.obj [("number_of_shards", .ofInt 3),
      ("routing", .obj [("allocation", .obj [("enable", .str "none")])]), ("search", .obj [])],
      by rfl⟩
  obtain ⟨t, u, ht, hu, hleaves, hstripped⟩ := toTree_sparse h
  refine ⟨h, t, ht, hleaves, ?_⟩
  rw [toTree_eq (wellNamed_unset h.wellNamed fixedFields)] at hu
  cases hu
  exact hstripped.paths

end IndexSettings

end IndexKeeper
