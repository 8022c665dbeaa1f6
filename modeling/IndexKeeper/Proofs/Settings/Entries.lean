import IndexKeeper.Proofs.Settings.Merging

/-!
# Entries

The entries of a value are its leaves and its empty maps, each at the path that the keys on the way
to it name when they are split at their dots.  How the keys were spelled is not in them.

An entry alone is a value with a map for each key of its path.  A value is `MadeOf` entries if its
nodes are those of the entries alone, together; such a value has the leaves among the entries and no
maps but those on the way to an entry (`MadeOf.lookup_leaf_iff`, `MadeOf.lookup_map_iff`).  Entries
are `Consistent` if any two of them go together, that is, if no leaf stands where another entry
stands or on the way to it (`consistent_iff`).
-/

namespace IndexKeeper

namespace Json

/-! ## Entries -/

/-- A leaf or an empty map, and the path it stands at.  Two equal leaves that are written at one
path are two entries. -/
structure Entry where
  path : Path
  value : Json
  bare_value : value.bare = value

namespace Entry

/-- What stands at the root of a value: a leaf as it is, a map as an empty one. -/
def root (v : Json) : Entry := ⟨[], v.bare, v.bare_bare⟩

/-- The entry below a path. -/
def under (p : Path) (e : Entry) : Entry := ⟨p ++ e.path, e.value, e.bare_value⟩

/-- Whether the entry is a leaf and not an empty map. -/
def isLeaf (e : Entry) : Bool := !e.value.isObject

/-- The entry as a value, with a map for each key of its path. -/
def alone (e : Entry) : Json := nested e.value e.path

/-- A leaf stands where the other entry stands or on the way to it. -/
def Blocks (e f : Entry) : Prop := e.isLeaf = true ∧ e.path <+: f.path

instance (e f : Entry) : Decidable (e.Blocks f) :=
  inferInstanceAs (Decidable (_ ∧ _))

theorem isLeaf_iff {e : Entry} : e.isLeaf = true ↔ e.value.isObject = false := by
  simp [isLeaf]

theorem isLeaf_eq_false_iff {e : Entry} : e.isLeaf = false ↔ e.value = obj [] := by
  rw [isLeaf, Bool.not_eq_false']
  constructor
  · intro hobj
    obtain ⟨ms, hms⟩ := eq_obj_of_isObject hobj
    rw [← e.bare_value, hms]
    rfl
  · intro hempty
    rw [hempty]
    rfl

end Entry

mutual

/-- The leaves and the empty maps of a value, with the keys on the way split at their dots. -/
def entries : Json → List Entry
  | obj ms => if ms.isEmpty then [.root (obj [])] else memberEntries ms
  | leaf => [.root leaf]

/-- The entries of members, each below the path that its key names. -/
def memberEntries : List (String × Json) → List Entry
  | [] => []
  | (key, v) :: rest => (entries v).map (Entry.under (Path.ofDotted key)) ++ memberEntries rest

end

theorem entries_of_leaf {v : Json} (h : v.isObject = false) : v.entries = [.root v] := by
  cases v with
  | obj ms => simp [isObject] at h
  | _ => simp [entries]

theorem entries_empty : (obj []).entries = [.root (obj [])] := by
  simp [entries]

theorem entries_obj_cons (m : String × Json) (ms : List (String × Json)) :
    (obj (m :: ms)).entries = memberEntries (m :: ms) := by
  simp [entries]

theorem memberEntries_eq_flatMap (ms : List (String × Json)) :
    memberEntries ms = ms.flatMap fun m => m.2.entries.map (Entry.under (Path.ofDotted m.1)) := by
  induction ms with
  | nil => rw [memberEntries, List.flatMap_nil]
  | cons m rest ih => rw [memberEntries, List.flatMap_cons, ih]

/-- Every entry of a member is below its key. -/
theorem path_ne_nil_of_mem_memberEntries {ms : List (String × Json)} {e : Entry}
    (h : e ∈ memberEntries ms) : e.path ≠ [] := by
  rw [memberEntries_eq_flatMap, List.mem_flatMap] at h
  obtain ⟨m, _, hm⟩ := h
  obtain ⟨f, _, rfl⟩ := List.mem_map.mp hm
  exact List.append_ne_nil_of_left_ne_nil (Path.ofDotted_ne_nil m.1) f.path

/-- The members of an object have their entries in whatever order they come. -/
theorem entries_perm {ms ns : List (String × Json)} (h : ms.Perm ns) :
    (obj ms).entries.Perm (obj ns).entries := by
  cases ms with
  | nil => rw [h.nil_eq]
  | cons m rest =>
    cases ns with
    | nil => exact absurd h.eq_nil (List.cons_ne_nil m rest)
    | cons n others =>
      rw [entries_obj_cons, entries_obj_cons, memberEntries_eq_flatMap, memberEntries_eq_flatMap]
      exact h.flatMap_right _

mutual

/-- Whatever a value is, something is written in it. -/
theorem entries_ne_nil : ∀ (v : Json), v.entries ≠ []
  | obj [] => by simp [entries]
  | obj (m :: ms) => by
    rw [entries_obj_cons]
    exact memberEntries_cons_ne_nil (m :: ms) (List.cons_ne_nil m ms)
  | null | bool _ | num _ | str _ | arr _ => by simp [entries]

theorem memberEntries_cons_ne_nil : ∀ (ms : List (String × Json)), ms ≠ [] → memberEntries ms ≠ []
  | [], h => absurd rfl h
  | (key, v) :: rest, _ => by
    rw [memberEntries]
    refine List.append_ne_nil_of_left_ne_nil ?_ _
    rw [Ne, List.map_eq_nil_iff]
    exact entries_ne_nil v

end

/-! ## One entry -/

theorem nested_append (v : Json) (p q : Path) : nested v (p ++ q) = nested (nested v q) p := by
  induction p with
  | nil => rfl
  | cons key rest ih => rw [List.cons_append, nested, nested, ih]

/-- A leaf or an empty map at a path has maps on the way to it, and nothing else. -/
theorem nodeAt_nested_iff {v : Json} (h : v.bare = v) {p q : Path} {x : Json} :
    (nested v q).nodeAt p = some x ↔
      (p = q ∧ x = v) ∨ (p <+: q ∧ p ≠ q ∧ x = obj []) := by
  induction q generalizing p with
  | nil =>
    cases p with
    | nil => simp [nested, nodeAt_nil, h, eq_comm]
    | cons key rest =>
      have hnone : v.nodeAt (key :: rest) = none := by
        cases v with
        | obj ms =>
          cases h
          rfl
        | _ => exact nodeAt_cons_of_leaf rfl key rest
      simp [nested, hnone]
  | cons head tail ih =>
    cases p with
    | nil => simp [nested, nodeAt_obj_nil, eq_comm]
    | cons key rest =>
      rw [nested, nodeAt_member_cons]
      split
      · next hkey =>
        subst hkey
        rw [ih]
        simp
      · next hkey =>
        simp [Ne.symm hkey]

namespace Entry

theorem alone_under (p : Path) (e : Entry) : (e.under p).alone = nested e.alone p :=
  nested_append e.value p e.path

/-- An entry that is not at the root is in a map there. -/
theorem alone_eq_obj {e : Entry} (h : e.path ≠ []) : ∃ ms, e.alone = obj ms := by
  obtain ⟨key, rest, hcons⟩ := List.exists_cons_of_ne_nil h
  exact ⟨[(key, nested e.value rest)], by rw [alone, hcons, nested]⟩

theorem nodeAt_alone_iff {e : Entry} {p : Path} {x : Json} :
    e.alone.nodeAt p = some x ↔
      (p = e.path ∧ x = e.value) ∨ (p <+: e.path ∧ p ≠ e.path ∧ x = obj []) :=
  nodeAt_nested_iff e.bare_value

/-- An entry has nodes on the way to it and nowhere else. -/
theorem exists_nodeAt_alone_iff {e : Entry} {p : Path} :
    (∃ x, e.alone.nodeAt p = some x) ↔ p <+: e.path := by
  constructor
  · rintro ⟨x, hx⟩
    rcases nodeAt_alone_iff.mp hx with ⟨rfl, _⟩ | ⟨hpre, _⟩
    · exact List.prefix_refl _
    · exact hpre
  · intro hpre
    by_cases heq : p = e.path
    · exact ⟨e.value, nodeAt_alone_iff.mpr (Or.inl ⟨heq, rfl⟩)⟩
    · exact ⟨obj [], nodeAt_alone_iff.mpr (Or.inr ⟨hpre, heq, rfl⟩)⟩

variable {e f : Entry}

/-- An entry that goes together with another one does not block it. -/
theorem not_blocks_of_compatible (h : e.alone.Compatible f.alone) : ¬ e.Blocks f := by
  rintro ⟨hleaf, hpre⟩
  obtain ⟨y, hy⟩ := exists_nodeAt_alone_iff.mpr hpre
  have hmap := (h e.path e.value y (nodeAt_alone_iff.mpr (Or.inl ⟨rfl, rfl⟩)) hy).1
  rw [isLeaf_iff, hmap] at hleaf
  cases hleaf

/-- Where an entry that does not block another one has a node that the other one has too, it has a
map. -/
theorem eq_map_of_not_blocks (h : ¬ e.Blocks f) {p : Path} {x y : Json}
    (hx : e.alone.nodeAt p = some x) (hy : f.alone.nodeAt p = some y) : x = obj [] := by
  rcases nodeAt_alone_iff.mp hx with ⟨rfl, rfl⟩ | ⟨_, _, hmap⟩
  · have hpre : e.path <+: f.path := exists_nodeAt_alone_iff.mp ⟨y, hy⟩
    rw [← isLeaf_eq_false_iff, ← Bool.not_eq_true]
    exact fun hleaf => h ⟨hleaf, hpre⟩
  · exact hmap

/-- Two entries go together if neither blocks the other. -/
theorem compatible_alone_iff : e.alone.Compatible f.alone ↔ ¬ e.Blocks f ∧ ¬ f.Blocks e := by
  constructor
  · intro h
    exact ⟨not_blocks_of_compatible h, not_blocks_of_compatible h.symm⟩
  · rintro ⟨hef, hfe⟩ p x y hx hy
    exact ⟨eq_map_of_not_blocks hef hx hy, eq_map_of_not_blocks hfe hy hx⟩

end Entry

/-! ## Entries together -/

/-- The nodes of a value are those of the entries alone, together. -/
def MadeOf (v : Json) (es : List Entry) : Prop :=
  ∀ p x, v.nodeAt p = some x ↔ ∃ e ∈ es, e.alone.nodeAt p = some x

/-- Any two of the entries go together. -/
def Consistent (es : List Entry) : Prop :=
  es.Pairwise fun e f => e.alone.Compatible f.alone

section MadeOf

variable {u v r : Json} {es fs : List Entry}

theorem MadeOf.compatible_iff (hu : u.MadeOf es) (hv : v.MadeOf fs) :
    u.Compatible v ↔ ∀ e ∈ es, ∀ f ∈ fs, e.alone.Compatible f.alone := by
  constructor
  · intro h e he f hf p x y hx hy
    exact h p x y ((hu p x).mpr ⟨e, he, hx⟩) ((hv p y).mpr ⟨f, hf, hy⟩)
  · intro h p x y hx hy
    obtain ⟨e, he, hx⟩ := (hu p x).mp hx
    obtain ⟨f, hf, hy⟩ := (hv p y).mp hy
    exact h e he f hf p x y hx hy

theorem MadeOf.append (hu : u.MadeOf es) (hv : v.MadeOf fs) (hr : Joins u v r) :
    r.MadeOf (es ++ fs) := by
  intro p x
  rw [hr p x, hu p x, hv p x]
  simp [or_and_right, exists_or]

/-- What is made of entries is made of them in any order. -/
theorem MadeOf.of_mem_iff (h : v.MadeOf es) (hmem : ∀ e, e ∈ es ↔ e ∈ fs) : v.MadeOf fs := by
  intro p x
  simp only [h p x, hmem]

/-- Below a path a value is made of the entries below that path. -/
theorem MadeOf.nested (h : v.MadeOf es) (hne : es ≠ []) (p : Path) :
    (nested v p).MadeOf (es.map (Entry.under p)) := by
  intro q x
  simp only [List.mem_map, exists_exists_and_eq_and, Entry.alone_under]
  induction p generalizing q with
  | nil => exact h q x
  | cons key rest ih =>
    cases q with
    | nil =>
      -- the map around the entries is the map around each of them
      obtain ⟨e, he⟩ := List.exists_mem_of_ne_nil es hne
      simp only [Json.nested, nodeAt_obj_nil]
      constructor
      · exact fun hx => ⟨e, he, hx⟩
      · rintro ⟨_, _, hx⟩
        exact hx
    | cons k q =>
      simp only [Json.nested, nodeAt_member_cons]
      split
      · exact ih q
      · simp

theorem compatible_nested_iff (p : Path) :
    (nested u p).Compatible (nested v p) ↔ u.Compatible v := by
  induction p with
  | nil => rfl
  | cons key rest ih =>
    have hget : Keyed.get? key [(key, nested v rest)] = some (nested v rest) := by
      rw [get?_member, if_pos rfl]
    rw [nested, nested, compatible_member_iff hget, ih]

theorem consistent_map_under_iff (p : Path) :
    Consistent (es.map (Entry.under p)) ↔ Consistent es := by
  rw [Consistent, List.pairwise_map]
  simp only [Entry.alone_under, compatible_nested_iff]
  rfl

/-- Entries are consistent in whatever order they are listed. -/
theorem Consistent.perm (h : Consistent es) (hperm : es.Perm fs) : Consistent fs :=
  List.Pairwise.perm h hperm fun hc => hc.symm

/-- Entries are consistent if none of them blocks another one. -/
theorem consistent_iff :
    Consistent es ↔ ¬ ∃ i j : Fin es.length, i ≠ j ∧ (es.get i).Blocks (es.get j) := by
  rw [Consistent, List.pairwise_iff_getElem]
  constructor
  · rintro h ⟨i, j, hne, hblocks⟩
    rcases Nat.lt_or_gt_of_ne (Fin.val_ne_of_ne hne) with hlt | hgt
    · exact (Entry.compatible_alone_iff.mp (h i j i.isLt j.isLt hlt)).1 hblocks
    · exact (Entry.compatible_alone_iff.mp (h j i j.isLt i.isLt hgt)).2 hblocks
  · intro h i j hi hj hlt
    have hne : (⟨i, hi⟩ : Fin es.length) ≠ ⟨j, hj⟩ := by simpa using Nat.ne_of_lt hlt
    rw [Entry.compatible_alone_iff]
    exact ⟨fun hblocks => h ⟨⟨i, hi⟩, ⟨j, hj⟩, hne, hblocks⟩,
      fun hblocks => h ⟨⟨j, hj⟩, ⟨i, hi⟩, hne.symm, hblocks⟩⟩

/-- Of consistent entries no two leaves stand at one path. -/
theorem Consistent.nodup_leaves (h : Consistent es) :
    ((es.filter Entry.isLeaf).map fun e => (e.path, some e.value)).Nodup := by
  refine List.pairwise_map.mpr (List.pairwise_filter.mpr (h.imp ?_))
  intro e f hc hleaf _ heq
  have hpath : e.path = f.path := congrArg Prod.fst heq
  have hpre : e.path <+: f.path := hpath ▸ List.prefix_refl _
  exact Entry.not_blocks_of_compatible hc ⟨hleaf, hpre⟩

end MadeOf

/-! ## What stands where -/

section Standing

variable {v w : Json} {es : List Entry}

/-- A leaf stands at a path exactly if it is an entry there. -/
theorem MadeOf.lookup_leaf_iff (h : v.MadeOf es) {p : Path} (hleaf : w.isObject = false) :
    v.lookup p = some w ↔ ∃ e ∈ es, e.path = p ∧ e.value = w := by
  rw [← nodeAt_eq_some_leaf_iff hleaf, h p w]
  refine exists_congr fun e => and_congr_right fun _ => ?_
  rw [Entry.nodeAt_alone_iff]
  constructor
  · rintro (⟨rfl, rfl⟩ | ⟨_, _, rfl⟩)
    · exact ⟨rfl, rfl⟩
    · cases hleaf
  · rintro ⟨rfl, rfl⟩
    exact Or.inl ⟨rfl, rfl⟩

/-- A map stands on the way to every entry and where an empty map is an entry. -/
theorem MadeOf.lookup_map_iff (h : v.MadeOf es) {p : Path} :
    (∃ ms, v.lookup p = some (obj ms)) ↔
      ∃ e ∈ es, (p <+: e.path ∧ p ≠ e.path) ∨ (p = e.path ∧ e.isLeaf = false) := by
  rw [← nodeAt_eq_some_map_iff, h p]
  refine exists_congr fun e => and_congr_right fun _ => ?_
  rw [Entry.nodeAt_alone_iff, Entry.isLeaf_eq_false_iff, or_comm, eq_comm (a := e.value)]
  simp

/-- There is one value in order that is made of given entries. -/
theorem MadeOf.unique (hv : v.MadeOf es) (hw : w.MadeOf es) (hvOrd : v.MapsOrdered)
    (hwOrd : w.MapsOrdered) : v = w := by
  refine eq_of_nodeAt hvOrd hwOrd fun p => Option.ext fun x => ?_
  rw [hv p x, hw p x]

end Standing

end Json

end IndexKeeper
