import IndexKeeper.Proofs.Settings.Expansion

/-!
# What a merge puts together

At a path stands nothing, a leaf, or a map; `nodeAt` says which, and leaves out what a map has below
it.  Two values with their maps in order and the same nodes are the same (`eq_of_nodeAt`).

Two values are `Compatible` if wherever both have a node, both have a map.  Then their nodes
together are those of one value, and merging members gives it; otherwise merging fails.  Both halves
are in `IsJoin`, which is what `mergeAll` is shown to give (`isJoin_mergeAll`); a value that is put
at a path is a merge of the maps on the way to it (`mergeAtPath_eq`).
-/

namespace IndexKeeper.Json

/-! ## Nodes -/

/-- A leaf as it is, a map without its entries. -/
def bare : Json → Json
  | obj _ => obj []
  | leaf => leaf

theorem bare_of_leaf {v : Json} (h : v.isObject = false) : v.bare = v := by
  cases v with
  | obj ms => simp [isObject] at h
  | _ => rfl

theorem isObject_bare (v : Json) : v.bare.isObject = v.isObject := by
  cases v <;> rfl

theorem bare_bare (v : Json) : v.bare.bare = v.bare := by
  cases v <;> rfl

/-- What stands at a path. -/
def nodeAt (v : Json) (p : Path) : Option Json := (v.lookup p).map bare

theorem nodeAt_nil (v : Json) : v.nodeAt [] = some v.bare := by
  rw [nodeAt, lookup_nil, Option.map_some]

theorem nodeAt_obj_nil (ms : List (String × Json)) : (obj ms).nodeAt [] = some (obj []) :=
  nodeAt_nil _

theorem nodeAt_obj_cons (ms : List (String × Json)) (key : String) (rest : Path) :
    (obj ms).nodeAt (key :: rest) = (Keyed.get? key ms).bind fun v => v.nodeAt rest := by
  rw [nodeAt, lookup_obj_cons, Option.map_bind]
  rfl

theorem nodeAt_cons_of_leaf {v : Json} (h : v.isObject = false) (key : String) (rest : Path) :
    v.nodeAt (key :: rest) = none := by
  rw [nodeAt, lookup_cons_of_leaf h, Option.map_none]

/-- The node at a path is a leaf exactly if the path leads to that leaf. -/
theorem nodeAt_eq_some_leaf_iff {v w : Json} {p : Path} (hleaf : w.isObject = false) :
    v.nodeAt p = some w ↔ v.lookup p = some w := by
  rw [nodeAt, Option.map_eq_some_iff]
  constructor
  · rintro ⟨u, hu, rfl⟩
    rw [isObject_bare] at hleaf
    rw [hu, bare_of_leaf hleaf]
  · intro hw
    exact ⟨w, hw, bare_of_leaf hleaf⟩

/-- The node at a path is a map exactly if the path leads to one. -/
theorem nodeAt_eq_some_map_iff {v : Json} {p : Path} :
    v.nodeAt p = some (obj []) ↔ ∃ ms, v.lookup p = some (obj ms) := by
  rw [nodeAt, Option.map_eq_some_iff]
  constructor
  · rintro ⟨u, hu, hbare⟩
    have hobj : u.isObject = true := by rw [← isObject_bare, hbare]; rfl
    obtain ⟨ms, rfl⟩ := eq_obj_of_isObject hobj
    exact ⟨ms, hu⟩
  · rintro ⟨ms, hms⟩
    exact ⟨obj ms, hms, rfl⟩

mutual

/-- Two values with their maps in order and the same nodes are the same. -/
theorem eq_of_nodeAt : ∀ {v w : Json}, v.MapsOrdered → w.MapsOrdered →
    (∀ p, v.nodeAt p = w.nodeAt p) → v = w
  | obj ms, w, hv, hw, hnodes => by
    have hroot := hnodes []
    rw [nodeAt_obj_nil, nodeAt_nil, Option.some.injEq] at hroot
    have hobj : w.isObject = true := by rw [← isObject_bare, ← hroot]; rfl
    obtain ⟨ns, rfl⟩ := eq_obj_of_isObject hobj
    have hbelow : ∀ key p, ((Keyed.get? key ms).bind fun v => v.nodeAt p) =
        (Keyed.get? key ns).bind fun v => v.nodeAt p := by
      intro key p
      rw [← nodeAt_obj_cons, ← nodeAt_obj_cons]
      exact hnodes (key :: p)
    refine congrArg obj (hv.keys.ext hw.keys ?_)
    intro key
    have hstart := hbelow key []
    cases hms : Keyed.get? key ms with
    | none =>
      cases hns : Keyed.get? key ns with
      | none => rfl
      | some b => simp [hms, hns, nodeAt_nil] at hstart
    | some a =>
      cases hns : Keyed.get? key ns with
      | none => simp [hms, hns, nodeAt_nil] at hstart
      | some b =>
        refine congrArg some (eq_of_nodeAt_of_mem ms (Keyed.mem_of_get? hms) (hv.of_get? hms)
          (hw.of_get? hns) ?_)
        intro p
        have hp := hbelow key p
        rwa [hms, hns] at hp
  | null, w, _, _, hnodes | bool _, w, _, _, hnodes | num _, w, _, _, hnodes
  | str _, w, _, _, hnodes | arr _, w, _, _, hnodes => by
    have hroot := hnodes []
    rw [nodeAt_nil, nodeAt_nil, Option.some.injEq] at hroot
    have hleaf : w.isObject = false := by rw [← isObject_bare, ← hroot]; rfl
    rwa [bare_of_leaf hleaf, bare_of_leaf rfl] at hroot

theorem eq_of_nodeAt_of_mem : ∀ (ms : List (String × Json)) {key : String} {v w : Json},
    (key, v) ∈ ms → v.MapsOrdered → w.MapsOrdered → (∀ p, v.nodeAt p = w.nodeAt p) → v = w
  | [], _, _, _, hmem, _, _, _ => by cases hmem
  | (k, u) :: rest, key, v, w, hmem, hv, hw, hnodes => by
    rcases List.mem_cons.mp hmem with heq | hrest
    · cases heq
      exact eq_of_nodeAt hv hw hnodes
    · exact eq_of_nodeAt_of_mem rest hrest hv hw hnodes

end

/-! ## Values that go together -/

/-- Wherever both values have a node, both have a map. -/
def Compatible (u v : Json) : Prop :=
  ∀ p x y, u.nodeAt p = some x → v.nodeAt p = some y → x = obj [] ∧ y = obj []

/-- The nodes of a value are those of two others together. -/
def Joins (u v r : Json) : Prop :=
  ∀ p x, r.nodeAt p = some x ↔ u.nodeAt p = some x ∨ v.nodeAt p = some x

theorem Compatible.symm {u v : Json} (h : u.Compatible v) : v.Compatible u :=
  fun p x y hx hy => (h p y x hy hx).symm

theorem Joins.compatible_iff {u v r : Json} (h : Joins u v r) (w : Json) :
    r.Compatible w ↔ u.Compatible w ∧ v.Compatible w := by
  constructor
  · intro hr
    exact ⟨fun p x y hx => hr p x y ((h p x).mpr (Or.inl hx)),
      fun p x y hx => hr p x y ((h p x).mpr (Or.inr hx))⟩
  · rintro ⟨hu, hv⟩ p x y hx
    exact ((h p x).mp hx).elim (hu p x y) (hv p x y)

/-- A leaf goes together with nothing. -/
theorem not_compatible_of_leaf {u : Json} (h : u.isObject = false) (v : Json) :
    ¬ u.Compatible v := by
  intro hc
  have hobj := (hc [] u.bare v.bare (nodeAt_nil u) (nodeAt_nil v)).1
  rw [← isObject_bare, hobj] at h
  cases h

/-- Maps go together if the values under their common keys do. -/
theorem compatible_obj_iff {ms ns : List (String × Json)} :
    (obj ms).Compatible (obj ns) ↔
      ∀ key u v, Keyed.get? key ms = some u → Keyed.get? key ns = some v → u.Compatible v := by
  constructor
  · intro h key u v hu hv p x y hx hy
    refine h (key :: p) x y ?_ ?_
    · rw [nodeAt_obj_cons, hu]
      exact hx
    · rw [nodeAt_obj_cons, hv]
      exact hy
  · intro h p x y hx hy
    cases p with
    | nil =>
      rw [nodeAt_obj_nil, Option.some.injEq] at hx hy
      exact ⟨hx.symm, hy.symm⟩
    | cons key p =>
      rw [nodeAt_obj_cons, Option.bind_eq_some_iff] at hx hy
      obtain ⟨u, hu, hx⟩ := hx
      obtain ⟨v, hv, hy⟩ := hy
      exact h key u v hu hv p x y hx hy

/-- The nodes of maps are together those of another map if they are below every key. -/
theorem joins_obj {ms ns rs : List (String × Json)}
    (h : ∀ key p x, ((Keyed.get? key rs).bind fun v => v.nodeAt p) = some x ↔
      ((Keyed.get? key ms).bind fun v => v.nodeAt p) = some x ∨
        ((Keyed.get? key ns).bind fun v => v.nodeAt p) = some x) :
    Joins (obj ms) (obj ns) (obj rs) := by
  intro p x
  cases p with
  | nil => simp [nodeAt_obj_nil]
  | cons key p => simpa only [nodeAt_obj_cons] using h key p x

theorem compatible_empty (ms : List (String × Json)) : (obj []).Compatible (obj ms) :=
  compatible_obj_iff.mpr fun _ _ _ hu => by cases hu

theorem joins_empty (ms : List (String × Json)) : Joins (obj []) (obj ms) (obj ms) :=
  joins_obj fun _ _ _ => by simp

section Member

variable {key : String} {v old r : Json} {ms : List (String × Json)}

theorem get?_member (k : String) :
    Keyed.get? k [(key, v)] = if key = k then some v else none := by
  rw [Keyed.get?_cons, Keyed.get?_nil]

theorem nodeAt_member_cons (k : String) (p : Path) :
    (obj [(key, v)]).nodeAt (k :: p) = if key = k then v.nodeAt p else none := by
  rw [nodeAt_obj_cons, get?_member]
  split <;> rfl

/-- A member goes together with members that do not have its key. -/
theorem compatible_member_of_none (h : Keyed.get? key ms = none) :
    (obj [(key, v)]).Compatible (obj ms) := by
  rw [compatible_obj_iff]
  intro k u w hu hw
  rw [get?_member] at hu
  split at hu
  · next hk =>
    rw [← hk, h] at hw
    cases hw
  · cases hu

/-- A member goes together with members that have its key if the values there do. -/
theorem compatible_member_iff (h : Keyed.get? key ms = some old) :
    (obj [(key, v)]).Compatible (obj ms) ↔ v.Compatible old := by
  rw [compatible_obj_iff]
  constructor
  · intro hc
    exact hc key v old (by rw [get?_member, if_pos rfl]) h
  · intro hc k u w hu hw
    rw [get?_member] at hu
    split at hu
    · next hk =>
      rw [← hk, h] at hw
      cases hu
      cases hw
      exact hc
    · cases hu

/-- Members with a value put under a key that none of them had. -/
theorem joins_insert_of_none (h : Keyed.get? key ms = none) :
    Joins (obj [(key, v)]) (obj ms) (obj (Keyed.insert key v ms)) := by
  refine joins_obj fun k p x => ?_
  rw [get?_member, Keyed.get?_insert]
  by_cases hk : k = key
  · subst hk
    simp [h]
  · simp [hk, Ne.symm hk]

/-- Members with two values joined under a key. -/
theorem joins_insert_of_some (h : Keyed.get? key ms = some old) (hr : Joins v old r) :
    Joins (obj [(key, v)]) (obj ms) (obj (Keyed.insert key r ms)) := by
  refine joins_obj fun k p x => ?_
  rw [get?_member, Keyed.get?_insert]
  by_cases hk : k = key
  · subst hk
    simpa [h] using hr p x
  · simp [hk, Ne.symm hk]

/-- The first member and the others. -/
theorem joins_cons (h : Keyed.get? key ms = none) :
    Joins (obj [(key, v)]) (obj ms) (obj ((key, v) :: ms)) := by
  refine joins_obj fun k p x => ?_
  rw [get?_member, Keyed.get?_cons]
  by_cases hk : key = k
  · subst hk
    simp [h]
  · simp [hk]

end Member

/-! ## Merging -/

/-- Members with the nodes of two values together, or nothing if the two do not go together. -/
def IsJoin (u v : Json) : Option (List (String × Json)) → Prop
  | some ms => u.Compatible v ∧ Joins u v (obj ms) ∧ (obj ms).MapsOrdered
  | none => ¬ u.Compatible v

/-- Two maps under a key are joined there. -/
theorem IsJoin.insert {key : String} {v old : Json} {ms : List (String × Json)}
    {below : Option (List (String × Json))} (h : IsJoin v old below)
    (hms : (obj ms).MapsOrdered) (hold : Keyed.get? key ms = some old) :
    IsJoin (obj [(key, v)]) (obj ms)
      (below.map fun merged => Keyed.insert key (obj merged) ms) := by
  cases below with
  | none => exact fun hc => h ((compatible_member_iff hold).mp hc)
  | some merged =>
    obtain ⟨hc, hjoins, hord⟩ := h
    exact ⟨(compatible_member_iff hold).mpr hc, joins_insert_of_some hold hjoins,
      hms.insert hord key⟩

theorem isJoin_insert_of_none {key : String} {v : Json} {ms : List (String × Json)}
    (hv : v.MapsOrdered) (hms : (obj ms).MapsOrdered) (hnone : Keyed.get? key ms = none) :
    IsJoin (obj [(key, v)]) (obj ms) (some (Keyed.insert key v ms)) :=
  ⟨compatible_member_of_none hnone, joins_insert_of_none hnone, hms.insert hv key⟩

mutual

/-- A value put under a key is joined with what is there. -/
theorem isJoin_mergeAt (key : String) : ∀ (v : Json) {ms : List (String × Json)},
    v.MapsOrdered → (obj ms).MapsOrdered → IsJoin (obj [(key, v)]) (obj ms) (mergeAt key v ms)
  | obj incoming, ms, hv, hms => by
    rw [mergeAt]
    split
    · next hnone => exact isJoin_insert_of_none hv hms hnone
    · next existing hget =>
      have hjoin := isJoin_mergeAll incoming hv (hms.of_get? hget)
      exact hjoin.insert hms hget
    · next old hmap hget =>
      -- what is there is a leaf
      intro hc
      have hleaf : old.isObject = false := by
        cases old with
        | obj existing => exact (hmap existing rfl).elim
        | _ => rfl
      exact not_compatible_of_leaf hleaf _ ((compatible_member_iff hget).mp hc).symm
  | null, ms, hv, hms | bool _, ms, hv, hms | num _, ms, hv, hms
  | str _, ms, hv, hms | arr _, ms, hv, hms => by
    rw [mergeAt]
    · split
      · next hnone => exact isJoin_insert_of_none hv hms hnone
      · next old hget =>
        exact fun hc => not_compatible_of_leaf rfl _ ((compatible_member_iff hget).mp hc)
    · intro incoming hobj
      cases hobj

/-- Members put into members are joined with them. -/
theorem isJoin_mergeAll : ∀ (incoming : List (String × Json)) {ms : List (String × Json)},
    (obj incoming).MapsOrdered → (obj ms).MapsOrdered →
      IsJoin (obj incoming) (obj ms) (mergeAll incoming ms)
  | [], ms, _, hms => by
    rw [mergeAll]
    exact ⟨compatible_empty ms, joins_empty ms, hms⟩
  | (key, v) :: rest, ms, hincoming, hms => by
    obtain ⟨hhead, _⟩ := List.pairwise_cons.1 hincoming.keys
    have hnone : Keyed.get? key rest = none := Keyed.Ordered.get?_eq_none_of_forall hhead
    have hcons : Joins (obj [(key, v)]) (obj rest) (obj ((key, v) :: rest)) := joins_cons hnone
    have hv : v.MapsOrdered := hincoming.of_get? (hincoming.keys.get?_of_mem List.mem_cons_self)
    have hfirst := isJoin_mergeAt key v hv hms
    rw [mergeAll]
    cases hm : mergeAt key v ms with
    | none =>
      rw [hm] at hfirst
      exact fun hc => hfirst ((hcons.compatible_iff _).mp hc).1
    | some first =>
      rw [hm] at hfirst
      obtain ⟨hc, hjoins, hord⟩ := hfirst
      have hrest := isJoin_mergeAll rest hincoming.tail hord
      -- the other members are joined with the members that the first one is already in
      have hsplit := hjoins.compatible_iff (obj rest)
      rw [Option.bind_some]
      cases hr : mergeAll rest first with
      | none =>
        rw [hr] at hrest
        intro hall
        have hlater : (obj rest).Compatible (obj ms) := ((hcons.compatible_iff _).mp hall).2
        exact hrest (hsplit.mpr ⟨compatible_member_of_none hnone, hlater.symm⟩).symm
      | some merged =>
        rw [hr] at hrest
        obtain ⟨hc', hjoins', hord'⟩ := hrest
        have hlater : (obj rest).Compatible (obj ms) := (hsplit.mp hc'.symm).2.symm
        refine ⟨(hcons.compatible_iff _).mpr ⟨hc, hlater⟩, ?_, hord'⟩
        intro p x
        rw [hjoins' p x, hjoins p x, hcons p x, or_left_comm, or_assoc]

end

/-! ## Values at paths -/

/-- To put a value at a path is to merge the maps on the way to it. -/
theorem mergeAtPath_eq (v : Json) (key : String) (rest : Path) (ms : List (String × Json)) :
    mergeAtPath v (key :: rest) ms = mergeAt key (nested v rest) ms := by
  induction rest generalizing key ms with
  | nil => rw [mergeAtPath, nested]
  | cons next more ih =>
    rw [nested, mergeAt, mergeAtPath]
    · cases Keyed.get? key ms with
      | none => rw [mergeAtPath_nil, Option.map_some]
      | some old =>
        cases old with
        | obj existing =>
          have hone : mergeAll [(next, nested v more)] existing =
              mergeAt next (nested v more) existing := by
            rw [mergeAll]
            cases mergeAt next (nested v more) existing <;> simp [mergeAll]
          simp only [hone, ih]
        | _ => rfl
    · simp

/-- A value put at a path is joined with what is there. -/
theorem isJoin_mergeAtPath {v : Json} {key : String} {rest : Path} {ms : List (String × Json)}
    (hv : (nested v rest).MapsOrdered) (hms : (obj ms).MapsOrdered) :
    IsJoin (nested v (key :: rest)) (obj ms) (mergeAtPath v (key :: rest) ms) := by
  rw [mergeAtPath_eq, nested]
  exact isJoin_mergeAt key _ hv hms

theorem mapsOrdered_nested {v : Json} (h : v.MapsOrdered) (p : Path) :
    (nested v p).MapsOrdered := by
  induction p with
  | nil => exact h
  | cons key rest ih => exact mapsOrdered_empty.insert ih key

end IndexKeeper.Json
