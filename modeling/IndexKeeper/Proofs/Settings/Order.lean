import IndexKeeper.Proofs.Settings.Lookup

/-!
# Leaves in the order of their paths

The enumeration of leaves goes through every map in the order of its keys, so the paths come in
their order and each of them once (`pairwise_leafPaths`).  A list in that order is determined by
what is in it (`eq_of_pairwise_precedes`), and the first of its paths with some property is the
smallest one.  `leafPaths_exact` puts this together with the look-up: the enumeration is the one
list of the paths of leaves in their order.
-/

namespace IndexKeeper

namespace Path

/-! ## The order of paths -/

/-- One path comes before another. -/
def Precedes (p q : Path) : Prop := order p q = .lt

instance (p q : Path) : Decidable (p.Precedes q) :=
  inferInstanceAs (Decidable (order p q = .lt))

theorem precedes_cons_iff {key other : String} {p q : Path} :
    Precedes (key :: p) (other :: q) ↔ key < other ∨ (key = other ∧ p.Precedes q) := by
  rw [Precedes, order]
  split
  · next hlt => simp [hlt]
  · next hnlt =>
    split
    · next hgt =>
      have hne : key ≠ other := fun heq => String.lt_irrefl other (heq ▸ hgt)
      simp [hnlt, hne]
    · next hngt =>
      have heq : key = other := String.le_antisymm (Std.not_lt.1 hngt) (Std.not_lt.1 hnlt)
      constructor
      · exact fun hrest => Or.inr ⟨heq, hrest⟩
      · rintro (hlt | ⟨_, hrest⟩)
        · exact absurd hlt hnlt
        · exact hrest

/-- Of two paths at most one comes before the other. -/
theorem Precedes.asymm {p q : Path} (h : p.Precedes q) : ¬ q.Precedes p := by
  induction p generalizing q with
  | nil =>
    cases q with
    | nil => cases h
    | cons other rest => intro hback; cases hback
  | cons key tail ih =>
    cases q with
    | nil => cases h
    | cons other rest =>
      intro hback
      rcases precedes_cons_iff.mp h with hlt | ⟨rfl, hrest⟩
      · rcases precedes_cons_iff.mp hback with hgt | ⟨rfl, _⟩
        · exact String.lt_irrefl key (String.lt_trans hlt hgt)
        · exact String.lt_irrefl _ hlt
      · rcases precedes_cons_iff.mp hback with hgt | ⟨_, hrest'⟩
        · exact String.lt_irrefl key hgt
        · exact ih hrest hrest'

theorem not_precedes_self (p : Path) : ¬ p.Precedes p :=
  fun h => h.asymm h

end Path

/-- Entries in the order of their paths come once each. -/
theorem nodup_of_pairwise_precedes {α : Type} {path : α → Path} {l : List α}
    (h : l.Pairwise fun a b => (path a).Precedes (path b)) : l.Nodup := by
  refine h.imp ?_
  rintro a _ hab rfl
  exact Path.not_precedes_self _ hab

/-- Entries in the order of their paths are determined by what is among them. -/
theorem eq_of_pairwise_precedes {α : Type} {path : α → Path} {l l' : List α}
    (h : l.Pairwise fun a b => (path a).Precedes (path b))
    (h' : l'.Pairwise fun a b => (path a).Precedes (path b)) (hmem : ∀ a, a ∈ l ↔ a ∈ l') :
    l = l' := by
  have hperm : l.Perm l' := (List.perm_ext_iff_of_nodup (nodup_of_pairwise_precedes h)
    (nodup_of_pairwise_precedes h')).mpr hmem
  exact hperm.eq_of_pairwise (fun a b _ _ hab hba => absurd hba hab.asymm) h h'

/-- Paths in their order are determined by what is among them. -/
theorem Path.eq_of_pairwise {l l' : List Path} (h : l.Pairwise Precedes)
    (h' : l'.Pairwise Precedes) (hmem : ∀ p, p ∈ l ↔ p ∈ l') : l = l' :=
  @eq_of_pairwise_precedes Path id l l' h h' hmem

namespace Json

/-! ## The enumeration -/

mutual

/-- The paths of the leaves of a value come in their order. -/
theorem pairwise_leafPaths : ∀ {v : Json}, v.MapsOrdered → v.leafPaths.Pairwise Path.Precedes
  | obj ms, h => by
    rw [leafPaths]
    exact pairwise_memberLeafPaths ms h.keys fun e he => h.of_get? (h.keys.get?_of_mem he)
  | null, _ | bool _, _ | num _, _ | str _, _ | arr _, _ => by
    rw [leafPaths_of_leaf rfl]
    exact List.pairwise_singleton _ _

theorem pairwise_memberLeafPaths : ∀ (ms : List (String × Json)), Keyed.Ordered ms →
    (∀ e ∈ ms, e.2.MapsOrdered) → (memberLeafPaths ms).Pairwise Path.Precedes
  | [], _, _ => by
    rw [memberLeafPaths]
    exact .nil
  | (key, v) :: rest, hord, hbelow => by
    obtain ⟨hhead, htail⟩ := List.pairwise_cons.1 hord
    have hv : v.leafPaths.Pairwise Path.Precedes :=
      pairwise_leafPaths (hbelow (key, v) List.mem_cons_self)
    have hrest : (memberLeafPaths rest).Pairwise Path.Precedes :=
      pairwise_memberLeafPaths rest htail fun e he => hbelow e (List.mem_cons_of_mem _ he)
    rw [memberLeafPaths, List.pairwise_append, List.pairwise_map]
    refine ⟨?_, hrest, ?_⟩
    · exact hv.imp fun hpq => Path.precedes_cons_iff.mpr (Or.inr ⟨rfl, hpq⟩)
    · intro p hp q hq
      obtain ⟨tail, _, rfl⟩ := List.mem_map.mp hp
      obtain ⟨other, w, below, hmem, _, rfl⟩ := mem_memberLeafPaths_iff.mp hq
      exact Path.precedes_cons_iff.mpr (Or.inl (hhead (other, w) hmem))

end

end Json

namespace Tree

/-- The paths of the leaves of a tree come in their order. -/
theorem pairwise_leafPaths {t : Tree} (h : t.MapsOrdered) :
    t.leafPaths.Pairwise Path.Precedes := by
  rw [leafPaths_eq]
  exact Json.pairwise_leafPaths h

variable {t u : Tree}

/-- A tree that has the leaves of another one at the paths with some property lists those of its
paths that have the property. -/
theorem leafPaths_eq_filter {P : Path → Prop} [DecidablePred P] (ht : t.MapsOrdered)
    (hu : u.MapsOrdered) (hleaves : ∀ p v, v.isObject = false →
      (u.lookup p = some v ↔ t.lookup p = some v ∧ P p)) :
    u.leafPaths = t.leafPaths.filter (P ·) := by
  refine Path.eq_of_pairwise (pairwise_leafPaths hu) ((pairwise_leafPaths ht).filter _)
    fun p => ?_
  rw [mem_leafPaths_iff hu, List.mem_filter, mem_leafPaths_iff ht, decide_eq_true_iff]
  constructor
  · rintro ⟨v, hv, hleaf⟩
    obtain ⟨hsame, hp⟩ := (hleaves p v hleaf).mp hv
    exact ⟨⟨v, hsame, hleaf⟩, hp⟩
  · rintro ⟨⟨v, hv, hleaf⟩, hp⟩
    exact ⟨v, (hleaves p v hleaf).mpr ⟨hv, hp⟩, hleaf⟩

/-! ## What the enumeration lists -/

/-- Paths that are those of the leaves of a tree, in their order. -/
structure ListsLeaves (t : Tree) (paths : List Path) : Prop where
  increasing : paths.Pairwise Path.Precedes
  nodup : paths.Nodup
  /-- No leaf is on the way to another one. -/
  prefixFree : ∀ p ∈ paths, ∀ q ∈ paths, p <+: q → p = q
  mem_iff : ∀ p, p ∈ paths ↔ ∃ v, t.lookup p = some v ∧ v.isObject = false

theorem listsLeaves_leafPaths (h : t.MapsOrdered) : t.ListsLeaves t.leafPaths where
  increasing := pairwise_leafPaths h
  nodup := nodup_of_pairwise_precedes (pairwise_leafPaths h)
  prefixFree := by
    intro p hp q hq hpq
    obtain ⟨v, hv, hleaf⟩ := (mem_leafPaths_iff h).mp hp
    obtain ⟨w, hw, _⟩ := (mem_leafPaths_iff h).mp hq
    exact eq_of_leaf_prefix hv hleaf hw hpq
  mem_iff := fun _ => mem_leafPaths_iff h

/-- A tree enumerates the paths that lead to something that is no map, each of them once and in
their order, and no other list of paths is such an enumeration. -/
theorem leafPaths_exact (h : t.MapsOrdered) (paths : List Path) :
    t.leafPaths = paths ↔ t.ListsLeaves paths := by
  constructor
  · rintro rfl
    exact listsLeaves_leafPaths h
  · intro hlists
    refine Path.eq_of_pairwise (pairwise_leafPaths h) hlists.increasing fun p => ?_
    rw [mem_leafPaths_iff h, hlists.mem_iff]

/-- A dot in a key is no step of a path, an array is a leaf, and an empty map has none. -/
theorem leafPaths_exact_dotted :
    MapsOrdered ⟨[("a", .obj [("b", .str "1"), ("c", .null)]), ("a.b", .arr [.obj []]),
        ("meta", .obj [])]⟩ ∧
      ListsLeaves ⟨[("a", .obj [("b", .str "1"), ("c", .null)]), ("a.b", .arr [.obj []]),
        ("meta", .obj [])]⟩ [["a", "b"], ["a", "c"], ["a.b"]] := by
  have h : MapsOrdered ⟨[("a", .obj [("b", .str "1"), ("c", .null)]), ("a.b", .arr [.obj []]),
      ("meta", .obj [])]⟩ := by
    refine Ordered.mapsOrdered ?_
    simp only [Ordered, toJson, Json.Ordered, Json.OrderedMembers, Json.OrderedItems,
      Keyed.Ordered]
    decide
  exact ⟨h, (leafPaths_exact h _).mp (by decide)⟩

end Tree

end IndexKeeper
