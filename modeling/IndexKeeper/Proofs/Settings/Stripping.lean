import IndexKeeper.Proofs.Settings.Difference
import IndexKeeper.Proofs.Settings.Order

/-!
# What stripping leaves

Stripping takes the fixed settings out of a tree one after the other, and each removal prunes the
maps above it.  What is left are the leaves away from the fixed settings, with their values, and no
map that was emptied on the way (`withoutFixed_exact`).

The order of the removals does not show.  A removal changes one member of each map it goes through,
to what `left` says; two removals that go through the same member commute because pruning looks only
at whether anything is left in the end (`bind_left_obj`), so an emptied map goes with whichever
removal comes last.  That stripping twice is stripping once follows in the same way.
-/

namespace IndexKeeper

namespace Json

/-! ## One member under two removals -/

/-- What is left of a value when what is at a path is taken out: at the value itself nothing. -/
def left : Path → Json → Option Json
  | [], _ => none
  | key :: rest, v => pruned (key :: rest) v

theorem left_of_ne_nil {p : Path} (h : p ≠ []) (v : Json) : left p v = pruned p v := by
  cases p with
  | nil => exact absurd rfl h
  | cons key rest => rfl

theorem left_of_leaf {v : Json} (h : v.isObject = false) {p : Path} (hp : p ≠ []) :
    left p v = some v := by
  rw [left_of_ne_nil hp, pruned_of_leaf h]

/-- A removal changes the member under its first key, and no other. -/
theorem get?_removeAt {key : String} (rest : Path) {ms : List (String × Json)}
    (hord : Keyed.Ordered ms) (other : String) :
    Keyed.get? other (removeAt (key :: rest) ms).2 =
      if other = key then (Keyed.get? key ms).bind (left rest) else Keyed.get? other ms := by
  by_cases h : other = key
  · subst h
    rw [if_pos rfl]
    cases rest with
    | nil =>
      rw [removeAt_singleton, hord.get?_erase_self]
      cases Keyed.get? other ms <;> rfl
    | cons next more => exact get?_removeAt_self (List.cons_ne_nil next more) hord
  · rw [if_neg h, get?_removeAt_of_ne h rest hord]

theorem removeAt_empty (p : Path) : (removeAt p []).2 = [] := by
  cases p with
  | nil => rfl
  | cons key rest => exact removeAt_of_none rfl

/-- After two removals a map goes exactly if nothing is left in it, whichever of them emptied it. -/
theorem bind_left_obj {p q : Path} (hp : p ≠ []) (hq : q ≠ []) (ms : List (String × Json)) :
    (left p (obj ms)).bind (left q) =
      if (removeAt q (removeAt p ms).2).2.isEmpty then none
      else some (obj (removeAt q (removeAt p ms).2).2) := by
  rw [left_of_ne_nil hp, pruned]
  split
  · next hempty =>
    rw [List.isEmpty_iff.mp hempty, removeAt_empty]
    rfl
  · rw [Option.bind_some, left_of_ne_nil hq, pruned]

theorem bind_left_nil (o : Option Json) : o.bind (left []) = none := by
  cases o <;> rfl

/-! ## Removals commute -/

/-- Removals below one member commute if they do in the map that it is. -/
theorem bind_left_comm {p q : Path} {v : Json}
    (h : ∀ children, v = obj children →
      (removeAt q (removeAt p children).2).2 = (removeAt p (removeAt q children).2).2) :
    (left p v).bind (left q) = (left q v).bind (left p) := by
  by_cases hp : p = []
  · rw [hp, bind_left_nil]
    rfl
  · by_cases hq : q = []
    · rw [hq, bind_left_nil]
      rfl
    · cases hobj : v.isObject with
      | false =>
        rw [left_of_leaf hobj hp, left_of_leaf hobj hq, Option.bind_some, Option.bind_some,
          left_of_leaf hobj hp, left_of_leaf hobj hq]
      | true =>
        obtain ⟨children, rfl⟩ := eq_obj_of_isObject hobj
        rw [bind_left_obj hp hq, bind_left_obj hq hp, h children rfl]

/-- Two removals leave the same in either order.  The induction is on the first path: where the
second one goes through the same member, both go on below it. -/
theorem removeAt_comm (p q : Path) {ms : List (String × Json)} (h : (obj ms).MapsOrdered) :
    (removeAt q (removeAt p ms).2).2 = (removeAt p (removeAt q ms).2).2 := by
  induction p generalizing q ms with
  | nil => rfl
  | cons key rest ih =>
    cases q with
    | nil => rfl
    | cons key' rest' =>
      have hp := mapsOrdered_removeAt h (key :: rest)
      have hq := mapsOrdered_removeAt h (key' :: rest')
      have hpq := mapsOrdered_removeAt hp (key' :: rest')
      have hqp := mapsOrdered_removeAt hq (key :: rest)
      refine hpq.keys.ext hqp.keys fun other => ?_
      simp only [get?_removeAt rest' hp.keys, get?_removeAt rest hq.keys,
        get?_removeAt rest h.keys, get?_removeAt rest' h.keys]
      by_cases hkey : key = key'
      · subst hkey
        simp only [if_true]
        split
        · cases hget : Keyed.get? key ms with
          | none => rfl
          | some v =>
            refine bind_left_comm fun children hv => ?_
            subst hv
            exact ih rest' (h.of_get? hget)
        · rfl
      · rw [if_neg (Ne.symm hkey), if_neg hkey]
        by_cases hother : other = key
        · rw [if_pos hother, if_pos hother, if_neg (hother ▸ hkey)]
        · rw [if_neg hother, if_neg hother]

/-- A removal below one member has nothing to do where it was done, if it has not in the map. -/
theorem bind_left_idem {p : Path} {v : Json}
    (h : ∀ children, v = obj children →
      (removeAt p (removeAt p children).2).2 = (removeAt p children).2) :
    (left p v).bind (left p) = left p v := by
  by_cases hp : p = []
  · rw [hp, bind_left_nil]
    rfl
  · cases hobj : v.isObject with
    | false => rw [left_of_leaf hobj hp, Option.bind_some, left_of_leaf hobj hp]
    | true =>
      obtain ⟨children, rfl⟩ := eq_obj_of_isObject hobj
      rw [bind_left_obj hp hp, h children rfl, left_of_ne_nil hp, pruned]

/-- A removal has nothing to do where it was done. -/
theorem removeAt_idem (p : Path) {ms : List (String × Json)} (h : (obj ms).MapsOrdered) :
    (removeAt p (removeAt p ms).2).2 = (removeAt p ms).2 := by
  induction p generalizing ms with
  | nil => rfl
  | cons key rest ih =>
    have hp := mapsOrdered_removeAt h (key :: rest)
    refine (mapsOrdered_removeAt hp (key :: rest)).keys.ext hp.keys fun other => ?_
    simp only [get?_removeAt rest hp.keys, get?_removeAt rest h.keys]
    split
    · rw [if_true]
      cases hget : Keyed.get? key ms with
      | none => rfl
      | some v =>
        refine bind_left_idem fun children hv => ?_
        subst hv
        exact ih (h.of_get? hget)
    · rfl

end Json

namespace Tree

variable {t : Tree}

theorem remove_comm (h : t.MapsOrdered) (p q : Path) :
    ((t.remove p).2.remove q).2 = ((t.remove q).2.remove p).2 :=
  congrArg Tree.mk (Json.removeAt_comm p q h)

theorem remove_idem (h : t.MapsOrdered) (p : Path) :
    ((t.remove p).2.remove p).2 = (t.remove p).2 :=
  congrArg Tree.mk (Json.removeAt_idem p h)

/-! ## Several removals -/

theorem remove_without_comm (h : t.MapsOrdered) (keys : List String) (p : Path) :
    ((t.without keys).remove p).2 = (t.remove p).2.without keys := by
  induction keys generalizing t with
  | nil => rfl
  | cons key rest ih => rw [without_cons, without_cons, ih (h.remove _), remove_comm h]

/-- Settings may be taken out in any order. -/
theorem without_perm {keys keys' : List String} (hperm : keys.Perm keys') (h : t.MapsOrdered) :
    t.without keys = t.without keys' := by
  induction hperm generalizing t with
  | nil => rfl
  | cons key _ ih => exact ih (h.remove _)
  | swap key key' rest => rw [without_cons, without_cons, without_cons, without_cons, remove_comm h]
  | trans _ _ ih ih' => rw [ih h, ih' h]

/-- A setting that was taken out is not there to be taken out. -/
theorem remove_without_of_mem (h : t.MapsOrdered) {keys : List String} {key : String}
    (hkey : key ∈ keys) :
    ((t.without keys).remove (Path.ofDotted key)).2 = t.without keys := by
  induction keys generalizing t with
  | nil => cases hkey
  | cons first rest ih =>
    rw [without_cons]
    rcases List.mem_cons.mp hkey with rfl | hrest
    · rw [remove_without_comm (h.remove _), remove_idem h]
    · exact ih (h.remove _) hrest

theorem without_of_subset (h : t.MapsOrdered) {keys keys' : List String}
    (hsub : ∀ key ∈ keys', key ∈ keys) : (t.without keys).without keys' = t.without keys := by
  induction keys' with
  | nil => rfl
  | cons key rest ih =>
    rw [without_cons, remove_without_of_mem h (hsub key List.mem_cons_self)]
    exact ih fun k hk => hsub k (List.mem_cons_of_mem _ hk)

/-! ## Leaves and maps that are left -/

theorem lookup_without_empty (h : t.MapsOrdered) {keys : List String} {p : Path}
    (hempty : (t.without keys).lookup p = some (.obj [])) : t.lookup p = some (.obj []) := by
  induction keys generalizing t with
  | nil => exact hempty
  | cons key rest ih => exact lookup_remove_empty h (ih (h.remove _) hempty)

end Tree

/-- The path is none of the settings with the given names, and leads beyond none of them. -/
def Path.AwayFrom (keys : List String) (p : Path) : Prop :=
  ∀ key ∈ keys, ¬ Path.ofDotted key <+: p

instance (keys : List String) (p : Path) : Decidable (p.AwayFrom keys) :=
  inferInstanceAs (Decidable (∀ key ∈ keys, ¬ Path.ofDotted key <+: p))

namespace Tree

variable {t : Tree}

/-- The leaves that are left are those away from the settings that were taken out. -/
theorem lookup_without_leaf_iff (h : t.MapsOrdered) {keys : List String} {p : Path} {v : Json}
    (hleaf : v.isObject = false) :
    (t.without keys).lookup p = some v ↔ t.lookup p = some v ∧ p.AwayFrom keys := by
  induction keys generalizing t with
  | nil => simp [Path.AwayFrom]
  | cons key rest ih =>
    rw [without_cons, ih (h.remove _),
      lookup_remove_leaf_iff h (Path.ofDotted_ne_nil key) hleaf, and_assoc]
    simp [Path.AwayFrom]

theorem leafPaths_without (h : t.MapsOrdered) (keys : List String) :
    (t.without keys).leafPaths = t.leafPaths.filter (·.AwayFrom keys) :=
  leafPaths_eq_filter h (h.without keys) fun _ _ hleaf => lookup_without_leaf_iff h hleaf

/-- A tree has what another one has away from the settings of the given names. -/
structure StrippedOf (s t : Tree) (keys : List String) : Prop where
  leaves : s.leafPaths = t.leafPaths.filter (·.AwayFrom keys)
  values : ∀ p ∈ s.leafPaths, s.lookup p = t.lookup p
  gone : ∀ key ∈ keys, s.lookup (Path.ofDotted key) = none
  /-- A map is left empty only if it was. -/
  maps : ∀ p, s.lookup p = some (.obj []) → t.lookup p = some (.obj [])

theorem strippedOf_without (h : t.MapsOrdered) (keys : List String) :
    (t.without keys).StrippedOf t keys where
  leaves := leafPaths_without h keys
  values := by
    intro p hp
    obtain ⟨v, hv, hleaf⟩ := (mem_leafPaths_iff (h.without keys)).mp hp
    rw [hv, ((lookup_without_leaf_iff h hleaf).mp hv).1]
  gone := fun _ hkey => lookup_without_beyond h hkey (List.prefix_refl _)
  maps := fun _ hempty => lookup_without_empty h hempty

/-- Stripping takes out the fixed settings and what is below them, with the maps that this empties,
and nothing else.  Once is enough, and the order of the fixed settings has no part in it. -/
theorem withoutFixed_exact (h : t.MapsOrdered) :
    t.withoutFixed.StrippedOf t fixedSettings ∧
      t.withoutFixed.withoutFixed = t.withoutFixed ∧
      ∀ keys, keys.Perm fixedSettings → t.without keys = t.withoutFixed := by
  rw [withoutFixed_eq, withoutFixed_eq]
  refine ⟨strippedOf_without h fixedSettings, ?_, ?_⟩
  · exact without_of_subset h fun _ hkey => hkey
  · exact fun _ hperm => without_perm hperm h

/-- An empty map on the way to a fixed setting goes, one beside it stays. -/
theorem withoutFixed_exact_shard :
    MapsOrdered ⟨[("index", .obj [("blocks", .obj []), ("codec", .str "default"),
        ("shard", .obj [])])]⟩ ∧
      (without fixedSettings.reverse ⟨[("index", .obj [("blocks", .obj []),
        ("codec", .str "default"), ("shard", .obj [])])]⟩).members =
          [("index", .obj [("blocks", .obj [])])] := by
  have h : MapsOrdered ⟨[("index", .obj [("blocks", .obj []), ("codec", .str "default"),
      ("shard", .obj [])])]⟩ := by
    refine Ordered.mapsOrdered ?_
    simp only [Ordered, toJson, Json.Ordered, Json.OrderedMembers, Keyed.Ordered]
    decide
  refine ⟨h, ?_⟩
  rw [(withoutFixed_exact h).2.2 _ (List.reverse_perm fixedSettings)]
  rfl

end Tree

end IndexKeeper
