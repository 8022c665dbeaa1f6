import IndexKeeper.Proofs.Settings.Merging
import IndexKeeper.Proofs.Settings.Order
import IndexKeeper.Proofs.Settings.Removal

/-!
# What a removal comes to

A removal hands out what is at a path and leaves the tree without it.  The leaves that are left are
those that are neither at the path nor beyond it, and what leads elsewhere stays as it is.  A map on
the way goes if nothing is left in it: afterwards nothing is at a path exactly if all that the tree
had there and below was at the removed path or beyond it, or a map on the way to it
(`lookup_remove_eq_none_iff`).

`IsRemoval` collects these facts.  They leave nothing open: `remove_exact` says that a removal is the
one pair of a value and a tree that has them, since they tell the node at every path.
-/

namespace IndexKeeper

namespace Json

/-- What is taken out is what was there. -/
theorem fst_removeAt {p : Path} (hp : p ≠ []) (ms : List (String × Json)) :
    (removeAt p ms).1 = (obj ms).lookup p := by
  induction p generalizing ms with
  | nil => exact absurd rfl hp
  | cons key rest ih =>
    rw [lookup_obj_cons]
    cases rest with
    | nil =>
      rw [removeAt]
      cases Keyed.get? key ms with
      | none => rfl
      | some v => rw [Option.bind_some, lookup_nil]
    | cons next more =>
      cases hget : Keyed.get? key ms with
      | none => simp [removeAt, hget]
      | some v =>
        cases v with
        | obj children => simpa [removeAt, hget] using ih (List.cons_ne_nil next more) children
        | _ => simp [removeAt, hget, lookup]

/-- Whatever a value is, it ends somewhere: in a leaf or in an empty map. -/
theorem exists_end : ∀ (v : Json), ∃ p w, v.lookup p = some w ∧ (w.isObject = false ∨ w = obj [])
  | obj [] => ⟨[], obj [], lookup_nil _, Or.inr rfl⟩
  | obj ((key, v) :: rest) => by
    obtain ⟨p, w, hw, hend⟩ := exists_end v
    exact ⟨key :: p, w, by simp [Keyed.get?_cons, hw], hend⟩
  | null | bool _ | num _ | str _ | arr _ => ⟨[], _, lookup_nil _, Or.inl rfl⟩

end Json

namespace Tree

variable {t : Tree} {p q : Path}

/-! ## What is taken out, and the leaves that are left -/

theorem fst_remove (t : Tree) (p : Path) : (t.remove p).1 = t.lookup p := by
  cases p with
  | nil => rfl
  | cons key rest => exact Json.fst_removeAt (List.cons_ne_nil key rest) t.members

theorem leafPaths_remove (h : t.MapsOrdered) (hp : p ≠ []) :
    (t.remove p).2.leafPaths = t.leafPaths.filter (¬ p <+: ·) :=
  leafPaths_eq_filter h (h.remove p) fun _ _ hleaf => lookup_remove_leaf_iff h hp hleaf

/-! ## Maps that go -/

/-- All that a tree has at a path and below is at another path or beyond that, or is a map on the
way to it. -/
def HoldsOnly (t : Tree) (q p : Path) : Prop :=
  ∀ r v, q <+: r → t.lookup r = some v → p <+: r ∨ (r <+: p ∧ v.isObject = true)

theorem holdsOnly_of_beyond (hpq : p <+: q) : t.HoldsOnly q p :=
  fun _ _ hqr _ => Or.inl (hpq.trans hqr)

theorem holdsOnly_of_lookup_eq_none (hq : q ≠ []) (hnone : t.lookup q = none) :
    t.HoldsOnly q p := by
  rintro r v ⟨below, rfl⟩ hv
  rw [t.lookup_append hq, hnone] at hv
  cases hv

/-- A map that has nothing but the removed path goes: what is left would end in a leaf or an empty
map, and either is away from the way to the removed path. -/
theorem lookup_remove_of_holdsOnly (h : t.MapsOrdered) (hp : p ≠ []) (honly : t.HoldsOnly q p) :
    (t.remove p).2.lookup q = none := by
  cases hleft : (t.remove p).2.lookup q with
  | none => rfl
  | some w =>
    obtain ⟨r, e, he, hend⟩ := w.exists_end
    have hfound : (t.remove p).2.lookup (q ++ r) = some e := by
      rw [lookup_append _ (ne_nil_of_lookup hleft), hleft]
      exact he
    have hbefore : t.lookup (q ++ r) = some e := by
      rcases hend with hleaf | rfl
      · exact ((lookup_remove_leaf_iff h hp hleaf).mp hfound).1
      · exact lookup_remove_empty h hfound
    rcases honly (q ++ r) e (List.prefix_append q r) hbefore with hbeyond | ⟨hway, hobj⟩
    · rw [lookup_remove_beyond h hp hbeyond] at hfound
      cases hfound
    · rcases hend with hleaf | rfl
      · rw [hleaf] at hobj
        cases hobj
      · exact absurd hfound (lookup_remove_ne_empty h hway)

theorem holdsOnly_of_lookup_remove (h : t.MapsOrdered) (hp : p ≠ []) (hq : q ≠ [])
    (hgone : (t.remove p).2.lookup q = none) : t.HoldsOnly q p := by
  rintro r v ⟨below, rfl⟩ hv
  have hnone : (t.remove p).2.lookup (q ++ below) = none := by
    rw [lookup_append _ hq, hgone, Option.bind_none]
  rcases lookup_remove_cases h hp (q ++ below) with
    ⟨hbeyond, _⟩ | ⟨rest, _, hrest, hway⟩ | ⟨_, _, hsame⟩
  · exact Or.inl hbeyond
  · right
    refine ⟨⟨rest, hrest⟩, ?_⟩
    cases hobj : v.isObject with
    | true => rfl
    | false =>
      -- a leaf on the way would have stayed
      rw [hway, hv, Option.bind_some, Json.pruned_of_leaf hobj] at hnone
      cases hnone
  · rw [hsame, hv] at hnone
    cases hnone

/-- Afterwards nothing is at a path exactly if the tree had nothing there but what was removed and
maps on the way to it. -/
theorem lookup_remove_eq_none_iff (h : t.MapsOrdered) (hp : p ≠ []) (hq : q ≠ []) :
    (t.remove p).2.lookup q = none ↔ t.HoldsOnly q p :=
  ⟨holdsOnly_of_lookup_remove h hp hq, lookup_remove_of_holdsOnly h hp⟩

/-! ## Removals -/

/-- What is taken out of a tree at a path, and the tree that is left. -/
structure IsRemoval (t : Tree) (p : Path) (taken : Option Json) (left : Tree) : Prop where
  ordered : left.MapsOrdered
  taken : taken = t.lookup p
  absent : left.lookup p = none
  leaves : left.leafPaths = t.leafPaths.filter (¬ p <+: ·)
  values : ∀ q ∈ left.leafPaths, left.lookup q = t.lookup q
  /-- What leads elsewhere is as it was, maps included. -/
  elsewhere : ∀ q, ¬ p <+: q → ¬ q <+: p → left.lookup q = t.lookup q
  /-- A map is left empty only if it was. -/
  maps : ∀ q, left.lookup q = some (.obj []) → t.lookup q = some (.obj [])
  /-- No map on the way to the path is left empty, whether or not it was. -/
  way : ∀ q, q <+: p → left.lookup q ≠ some (.obj [])
  /-- What goes is what has nothing but the path in it. -/
  gone : ∀ q, q ≠ [] → (left.lookup q = none ↔ t.HoldsOnly q p)

theorem isRemoval_remove (h : t.MapsOrdered) (hp : p ≠ []) :
    t.IsRemoval p (t.remove p).1 (t.remove p).2 where
  ordered := h.remove p
  taken := fst_remove t p
  absent := lookup_remove_beyond h hp (List.prefix_refl p)
  leaves := leafPaths_remove h hp
  values := by
    intro q hq
    obtain ⟨v, hv, hleaf⟩ := (mem_leafPaths_iff (h.remove p)).mp hq
    rw [hv, ((lookup_remove_leaf_iff h hp hleaf).mp hv).1]
  elsewhere := fun _ hpq hqp => lookup_remove_of_diverge h hpq hqp
  maps := fun _ hempty => lookup_remove_empty h hempty
  way := fun _ hqp => lookup_remove_ne_empty h hqp
  gone := fun _ hq => lookup_remove_eq_none_iff h hp hq

namespace IsRemoval

variable {taken taken' : Option Json} {left left' : Tree}

/-- A leaf that is neither at the path nor beyond it is left. -/
theorem lookup_of_leaf (hrem : t.IsRemoval p taken left) {v : Json} (hv : t.lookup q = some v)
    (hleaf : v.isObject = false) (hpq : ¬ p <+: q) : left.lookup q = some v := by
  have hq : q ∈ left.leafPaths := by
    rw [hrem.leaves, List.mem_filter, decide_eq_true_iff]
    exact ⟨mem_leafPaths_of_lookup hv hleaf, hpq⟩
  rw [hrem.values q hq, hv]

/-- What is left at a path is the leaf that was there, or a map where a map was. -/
theorem nodeAt_of_lookup (hrem : t.IsRemoval p taken left) {w : Json}
    (hw : left.lookup q = some w) : t.toJson.nodeAt q = some w.bare := by
  have hq : q ≠ [] := ne_nil_of_lookup hw
  have hnot : ¬ t.HoldsOnly q p := by
    intro honly
    rw [(hrem.gone q hq).mpr honly] at hw
    cases hw
  rw [Json.nodeAt, ← t.lookup_of_ne_nil hq]
  cases hobj : w.isObject with
  | false => rw [← hrem.values q (mem_leafPaths_of_lookup hw hobj), hw, Option.map_some]
  | true =>
    cases hv : t.lookup q with
    | none => exact absurd (holdsOnly_of_lookup_eq_none hq hv) hnot
    | some v =>
      cases hleaf : v.isObject with
      | false =>
        -- the leaf would be left, and not a map in its place
        have hpq : ¬ p <+: q := fun hbeyond => hnot (holdsOnly_of_beyond hbeyond)
        rw [hrem.lookup_of_leaf hv hleaf hpq, Option.some.injEq] at hw
        rw [← hw, hleaf] at hobj
        cases hobj
      | true =>
        obtain ⟨ms, rfl⟩ := Json.eq_obj_of_isObject hobj
        obtain ⟨ns, rfl⟩ := Json.eq_obj_of_isObject hleaf
        rfl

theorem nodeAt_of_holdsOnly (hrem : t.IsRemoval p taken left) (hq : q ≠ [])
    (honly : t.HoldsOnly q p) : left.toJson.nodeAt q = none := by
  rw [Json.nodeAt, ← left.lookup_of_ne_nil hq, (hrem.gone q hq).mpr honly, Option.map_none]

theorem nodeAt_of_not_holdsOnly (hrem : t.IsRemoval p taken left) (hq : q ≠ [])
    (hnot : ¬ t.HoldsOnly q p) : left.toJson.nodeAt q = t.toJson.nodeAt q := by
  cases hw : left.lookup q with
  | none => exact absurd ((hrem.gone q hq).mp hw) hnot
  | some w =>
    rw [hrem.nodeAt_of_lookup hw, Json.nodeAt, ← left.lookup_of_ne_nil hq, hw, Option.map_some]

/-- The node at every path is told, so there is only one tree that is left. -/
theorem unique (hrem : t.IsRemoval p taken left) (hrem' : t.IsRemoval p taken' left') :
    (taken, left) = (taken', left') := by
  have hnodes : left.toJson = left'.toJson := by
    refine Json.eq_of_nodeAt hrem.ordered hrem'.ordered fun q => ?_
    by_cases hq : q = []
    · rw [hq, Json.nodeAt_nil, Json.nodeAt_nil]
      rfl
    · by_cases honly : t.HoldsOnly q p
      · rw [hrem.nodeAt_of_holdsOnly hq honly, hrem'.nodeAt_of_holdsOnly hq honly]
      · rw [hrem.nodeAt_of_not_holdsOnly hq honly, hrem'.nodeAt_of_not_holdsOnly hq honly]
  rw [hrem.taken, hrem'.taken]
  cases left
  cases left'
  cases hnodes
  rfl

end IsRemoval

/-- A removal hands out what was at the path and leaves the tree without it, without what is beyond
it, and without the maps on the way that have nothing else; all the rest stays. -/
theorem remove_exact (h : t.MapsOrdered) (hp : p ≠ []) (taken : Option Json) (left : Tree) :
    t.remove p = (taken, left) ↔ t.IsRemoval p taken left := by
  constructor
  · intro hremove
    have hrem := isRemoval_remove h hp
    rwa [hremove] at hrem
  · exact (isRemoval_remove h hp).unique

/-- Two maps on the way go with a leaf, an empty map beside the way stays. -/
theorem remove_exact_shard :
    MapsOrdered ⟨[("index", .obj [("blocks", .obj []),
        ("shard", .obj [("check", .obj [("on", .str "true")])])])]⟩ ∧
      ["index", "shard", "check", "on"] ≠ [] ∧
      IsRemoval ⟨[("index", .obj [("blocks", .obj []),
          ("shard", .obj [("check", .obj [("on", .str "true")])])])]⟩
        ["index", "shard", "check", "on"] (some (.str "true"))
        ⟨[("index", .obj [("blocks", .obj [])])]⟩ := by
  have h : MapsOrdered ⟨[("index", .obj [("blocks", .obj []),
      ("shard", .obj [("check", .obj [("on", .str "true")])])])]⟩ := by
    refine Ordered.mapsOrdered ?_
    simp only [Ordered, toJson, Json.Ordered, Json.OrderedMembers, Keyed.Ordered]
    decide
  have hp : ["index", "shard", "check", "on"] ≠ [] := List.cons_ne_nil _ _
  exact ⟨h, hp, (remove_exact h hp _ _).mp rfl⟩

/-- An empty map on the way goes also where nothing was found in it. -/
example : remove ⟨[("a", .obj []), ("b", .obj [])]⟩ ["a", "key"] =
    (none, ⟨[("b", .obj [])]⟩) := rfl

end Tree

end IndexKeeper
