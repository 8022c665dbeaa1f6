import IndexKeeper.Proofs.Settings.Lookup

/-!
# Removal

What a removal leaves at a path depends on how the path stands to the removed one.  At the removed
path and beyond it there is nothing; at a path that leads elsewhere everything is as before; and a
map on the way loses what was taken out below it, and goes itself if that leaves it empty.  `pruned`
is that last effect on a single value.

A removal therefore never makes anything appear.  The other modules use this through
`lookup_remove_cases`, and where they do not ask for the position of the path, `lookup_remove_le`.
-/

namespace IndexKeeper

namespace Json

/-- What is left of a value when something is taken out below it: a map that is left empty goes,
anything but a map stays as it is. -/
def pruned (rest : Path) : Json → Option Json
  | obj children =>
    if (removeAt rest children).2.isEmpty then none else some (obj (removeAt rest children).2)
  | leaf => some leaf

theorem pruned_of_leaf {v : Json} (h : v.isObject = false) (rest : Path) :
    pruned rest v = some v := by
  cases v with
  | obj ms => simp [isObject] at h
  | _ => rfl

/-- Pruning keeps a map only with something in it. -/
theorem pruned_ne_empty (rest : Path) (v : Json) : pruned rest v ≠ some (obj []) := by
  cases v with
  | obj children =>
    rw [pruned]
    split
    · simp
    · next hleft =>
      intro hempty
      simp only [Option.some.injEq, obj.injEq] at hempty
      exact hleft (hempty ▸ rfl)
  | _ => simp [pruned]

/-- What is left of a value where something is left is the value, or a map where a map was. -/
theorem pruned_le {rest : Path} {v w : Json} (h : pruned rest v = some w) :
    v = w ∨ (v.isObject = true ∧ w.isObject = true) := by
  cases v with
  | obj children =>
    rw [pruned] at h
    split at h
    · cases h
    · cases h
      exact Or.inr ⟨rfl, rfl⟩
  | _ =>
    cases h
    exact Or.inl rfl

/-! ## One step of a removal -/

theorem removeAt_singleton (key : String) (ms : List (String × Json)) :
    (removeAt [key] ms).2 = Keyed.erase key ms := by
  simp [removeAt]

theorem removeAt_of_none {key : String} {rest : Path} {ms : List (String × Json)}
    (h : Keyed.get? key ms = none) : (removeAt (key :: rest) ms).2 = ms := by
  cases rest with
  | nil => rw [removeAt_singleton, Keyed.erase_eq_self h]
  | cons next more => simp [removeAt, h]

/-- A removal further down changes one member: to what is left of it, or to nothing. -/
theorem removeAt_cons {key : String} {rest : Path} (hrest : rest ≠ [])
    {ms : List (String × Json)} (hord : Keyed.Ordered ms) {v : Json}
    (hv : Keyed.get? key ms = some v) :
    (removeAt (key :: rest) ms).2 =
      match pruned rest v with
      | none => Keyed.erase key ms
      | some w => Keyed.insert key w ms := by
  obtain ⟨next, more, rfl⟩ := List.exists_cons_of_ne_nil hrest
  cases v with
  | obj children =>
    simp only [removeAt, hv, pruned]
    split
    · simp
    · simp
  | _ => simp [removeAt, hv, pruned, Keyed.insert_eq_self hord hv]

theorem get?_removeAt_of_ne {key other : String} (h : other ≠ key) (rest : Path)
    {ms : List (String × Json)} (hord : Keyed.Ordered ms) :
    Keyed.get? other (removeAt (key :: rest) ms).2 = Keyed.get? other ms := by
  cases hget : Keyed.get? key ms with
  | none => rw [removeAt_of_none hget]
  | some v =>
    by_cases hrest : rest = []
    · rw [hrest, removeAt_singleton, Keyed.get?_erase_of_ne h]
    · rw [removeAt_cons hrest hord hget]
      split
      · rw [Keyed.get?_erase_of_ne h]
      · rw [Keyed.get?_insert_of_ne h]

theorem get?_removeAt_self {key : String} {rest : Path} (hrest : rest ≠ [])
    {ms : List (String × Json)} (hord : Keyed.Ordered ms) :
    Keyed.get? key (removeAt (key :: rest) ms).2 = (Keyed.get? key ms).bind (pruned rest) := by
  cases hget : Keyed.get? key ms with
  | none => rw [removeAt_of_none hget, hget, Option.bind_none]
  | some v =>
    rw [removeAt_cons hrest hord hget, Option.bind_some]
    split
    · next hnone => rw [hord.get?_erase_self, hnone]
    · next w hw => rw [Keyed.get?_insert_self, hw]

/-- Past its root a pruned map is the map with the path taken out: a map that goes because it is
empty leads nowhere anyway. -/
theorem bind_pruned_lookup {p : Path} (hp : p ≠ []) (rest : Path)
    (children : List (String × Json)) :
    (pruned rest (obj children)).bind (lookup p) =
      (obj (removeAt rest children).2).lookup p := by
  obtain ⟨key, tail, rfl⟩ := List.exists_cons_of_ne_nil hp
  rw [pruned]
  split
  · next hempty =>
    rw [List.isEmpty_iff.mp hempty]
    rfl
  · rfl

theorem mapsOrdered_removeAt {ms : List (String × Json)} (h : (obj ms).MapsOrdered) (p : Path) :
    (obj (removeAt p ms).2).MapsOrdered := by
  induction p generalizing ms with
  | nil => simpa [removeAt] using h
  | cons key rest ih =>
    cases hget : Keyed.get? key ms with
    | none =>
      rw [removeAt_of_none hget]
      exact h
    | some v =>
      have hv : v.MapsOrdered := h.of_get? hget
      by_cases hrest : rest = []
      · rw [hrest, removeAt_singleton]
        exact h.erase key
      · rw [removeAt_cons hrest h.keys hget]
        split
        · exact h.erase key
        · next w hw =>
          -- what is left of the member is in order: it is the leaf it was, or a map by induction
          refine h.insert ?_ key
          cases hobj : v.isObject with
          | false =>
            rw [pruned_of_leaf hobj] at hw
            cases hw
            exact hv
          | true =>
            obtain ⟨children, rfl⟩ := eq_obj_of_isObject hobj
            rw [pruned] at hw
            split at hw
            · cases hw
            · cases hw
              exact ih hv

/-! ## The three positions of a path to the removed one -/

/-- Nothing is left at the removed path or beyond it. -/
theorem lookup_removeAt_beyond {q p : Path} (hq : q ≠ []) (hqp : q <+: p)
    {ms : List (String × Json)} (h : (obj ms).MapsOrdered) :
    (obj (removeAt q ms).2).lookup p = none := by
  induction q generalizing p ms with
  | nil => exact absurd rfl hq
  | cons key rest ih =>
    obtain ⟨tail, rfl⟩ := hqp
    rw [List.cons_append, lookup_obj_cons]
    by_cases hrest : rest = []
    · rw [hrest, removeAt_singleton, h.keys.get?_erase_self, Option.bind_none]
    · have hne : rest ++ tail ≠ [] := List.append_ne_nil_of_left_ne_nil hrest tail
      rw [get?_removeAt_self hrest h.keys]
      cases hget : Keyed.get? key ms with
      | none => rfl
      | some v =>
        rw [Option.bind_some]
        cases hobj : v.isObject with
        | false =>
          obtain ⟨next, more, hcons⟩ := List.exists_cons_of_ne_nil hne
          rw [pruned_of_leaf hobj, Option.bind_some, hcons, lookup_cons_of_leaf hobj]
        | true =>
          obtain ⟨children, rfl⟩ := eq_obj_of_isObject hobj
          rw [bind_pruned_lookup hne]
          exact ih hrest (List.prefix_append _ _) (h.of_get? hget)

/-- A path that leads elsewhere leads to the same as before. -/
theorem lookup_removeAt_of_diverge {q p : Path} (hqp : ¬ q <+: p) (hpq : ¬ p <+: q)
    {ms : List (String × Json)} (h : (obj ms).MapsOrdered) :
    (obj (removeAt q ms).2).lookup p = (obj ms).lookup p := by
  induction q generalizing p ms with
  | nil => exact absurd List.nil_prefix hqp
  | cons key rest ih =>
    cases p with
    | nil => exact absurd List.nil_prefix hpq
    | cons k tail =>
      rw [lookup_obj_cons, lookup_obj_cons]
      by_cases hk : k = key
      · subst hk
        -- the paths part further down, so both go on past this key
        have hrt : ¬ rest <+: tail := fun hpre => hqp (List.cons_prefix_cons.mpr ⟨rfl, hpre⟩)
        have htr : ¬ tail <+: rest := fun hpre => hpq (List.cons_prefix_cons.mpr ⟨rfl, hpre⟩)
        have hrest : rest ≠ [] := by
          rintro rfl
          exact hrt List.nil_prefix
        have htail : tail ≠ [] := by
          rintro rfl
          exact htr List.nil_prefix
        rw [get?_removeAt_self hrest h.keys]
        cases hget : Keyed.get? k ms with
        | none => rfl
        | some v =>
          rw [Option.bind_some]
          cases hobj : v.isObject with
          | false => rw [pruned_of_leaf hobj]
          | true =>
            obtain ⟨children, rfl⟩ := eq_obj_of_isObject hobj
            rw [bind_pruned_lookup htail]
            exact ih hrt htr (h.of_get? hget)
      · rw [get?_removeAt_of_ne hk rest h.keys]

/-- A map on the way to the removed path loses what was taken out below it. -/
theorem lookup_removeAt_append {p rest : Path} (hp : p ≠ []) (hrest : rest ≠ [])
    {ms : List (String × Json)} (h : (obj ms).MapsOrdered) :
    (obj (removeAt (p ++ rest) ms).2).lookup p = ((obj ms).lookup p).bind (pruned rest) := by
  induction p generalizing ms with
  | nil => exact absurd rfl hp
  | cons key tail ih =>
    -- the member on the way is pruned, and the path goes on in it only if it is a map
    have hne : tail ++ rest ≠ [] := List.append_ne_nil_of_right_ne_nil tail hrest
    rw [List.cons_append, lookup_obj_cons, lookup_obj_cons, get?_removeAt_self hne h.keys]
    cases hget : Keyed.get? key ms with
    | none => rfl
    | some v =>
      rw [Option.bind_some, Option.bind_some]
      by_cases htail : tail = []
      · subst htail
        rw [List.nil_append, lookup_nil, Option.bind_some]
        cases pruned rest v with
        | none => rfl
        | some w => rw [Option.bind_some, lookup_nil]
      · cases hobj : v.isObject with
        | false =>
          obtain ⟨next, more, rfl⟩ := List.exists_cons_of_ne_nil htail
          rw [pruned_of_leaf hobj, Option.bind_some, lookup_cons_of_leaf hobj, Option.bind_none]
        | true =>
          obtain ⟨children, rfl⟩ := eq_obj_of_isObject hobj
          rw [bind_pruned_lookup htail]
          exact ih htail (h.of_get? hget)

end Json

/-! ## Removal from a tree -/

namespace Tree

theorem toJson_remove (t : Tree) (p : Path) :
    (t.remove p).2.toJson = .obj (Json.removeAt p t.members).2 := rfl

theorem MapsOrdered.remove {t : Tree} (h : t.MapsOrdered) (p : Path) :
    (t.remove p).2.MapsOrdered :=
  Json.mapsOrdered_removeAt h p

theorem lookup_remove_beyond {t : Tree} (h : t.MapsOrdered) {q p : Path} (hq : q ≠ [])
    (hqp : q <+: p) : (t.remove q).2.lookup p = none := by
  have hp : p ≠ [] := by
    rintro rfl
    exact hq (List.prefix_nil.mp hqp)
  rw [lookup_of_ne_nil _ hp, toJson_remove]
  exact Json.lookup_removeAt_beyond hq hqp h

theorem lookup_remove_of_diverge {t : Tree} (h : t.MapsOrdered) {q p : Path} (hqp : ¬ q <+: p)
    (hpq : ¬ p <+: q) : (t.remove q).2.lookup p = t.lookup p := by
  have hp : p ≠ [] := by
    rintro rfl
    exact hpq List.nil_prefix
  rw [lookup_of_ne_nil _ hp, lookup_of_ne_nil _ hp, toJson_remove]
  exact Json.lookup_removeAt_of_diverge hqp hpq h

theorem lookup_remove_append {t : Tree} (h : t.MapsOrdered) {p rest : Path} (hp : p ≠ [])
    (hrest : rest ≠ []) :
    (t.remove (p ++ rest)).2.lookup p = (t.lookup p).bind (Json.pruned rest) := by
  rw [lookup_of_ne_nil _ hp, lookup_of_ne_nil _ hp, toJson_remove]
  exact Json.lookup_removeAt_append hp hrest h

/-- A path is the removed one or leads beyond it, or is on the way to it, or leads elsewhere. -/
theorem lookup_remove_cases {t : Tree} (h : t.MapsOrdered) {q : Path} (hq : q ≠ []) (p : Path) :
    (q <+: p ∧ (t.remove q).2.lookup p = none) ∨
      (∃ rest, rest ≠ [] ∧ p ++ rest = q ∧
        (t.remove q).2.lookup p = (t.lookup p).bind (Json.pruned rest)) ∨
      (¬ q <+: p ∧ ¬ p <+: q ∧ (t.remove q).2.lookup p = t.lookup p) := by
  by_cases hqp : q <+: p
  · exact Or.inl ⟨hqp, lookup_remove_beyond h hq hqp⟩
  · right
    by_cases hpq : p <+: q
    · left
      obtain ⟨rest, rfl⟩ := hpq
      have hrest : rest ≠ [] := by
        rintro rfl
        exact hqp (by simp)
      refine ⟨rest, hrest, rfl, ?_⟩
      by_cases hp : p = []
      · rw [hp, lookup_nil, lookup_nil, Option.bind_none]
      · exact lookup_remove_append h hp hrest
    · exact Or.inr ⟨hqp, hpq, lookup_remove_of_diverge h hqp hpq⟩

/-- A leaf away from the removed path stays. -/
theorem lookup_remove_of_leaf {t : Tree} (h : t.MapsOrdered) {q p : Path} {v : Json}
    (hv : t.lookup p = some v) (hleaf : v.isObject = false) (hqp : ¬ q <+: p) :
    (t.remove q).2.lookup p = some v := by
  have hq : q ≠ [] := by
    rintro rfl
    exact hqp List.nil_prefix
  rcases lookup_remove_cases h hq p with ⟨hbeyond, _⟩ | ⟨rest, _, _, hway⟩ | ⟨_, _, hsame⟩
  · exact absurd hbeyond hqp
  · rw [hway, hv, Option.bind_some, Json.pruned_of_leaf hleaf]
  · rw [hsame, hv]

/-- A removal makes nothing appear: what is there afterwards was there, unless it is a map, and
then a map was there. -/
theorem lookup_remove_le {t : Tree} (h : t.MapsOrdered) {q p : Path} {w : Json}
    (hw : (t.remove q).2.lookup p = some w) :
    t.lookup p = some w ∨ ∃ v, t.lookup p = some v ∧ v.isObject = true ∧ w.isObject = true := by
  by_cases hq : q = []
  · subst hq
    left
    simpa [remove, Json.removeAt] using hw
  · rcases lookup_remove_cases h hq p with ⟨_, hgone⟩ | ⟨rest, _, _, hway⟩ | ⟨_, _, hsame⟩
    · rw [hgone] at hw
      cases hw
    · rw [hway, Option.bind_eq_some_iff] at hw
      obtain ⟨v, hv, hpruned⟩ := hw
      rcases Json.pruned_le hpruned with rfl | hmaps
      · exact Or.inl hv
      · exact Or.inr ⟨v, hv, hmaps⟩
    · rw [hsame] at hw
      exact Or.inl hw

/-- The leaves that are left are those that are not at the removed path or beyond it. -/
theorem lookup_remove_leaf_iff {t : Tree} (h : t.MapsOrdered) {q p : Path} (hq : q ≠ [])
    {v : Json} (hleaf : v.isObject = false) :
    (t.remove q).2.lookup p = some v ↔ t.lookup p = some v ∧ ¬ q <+: p := by
  constructor
  · intro hv
    have hqp : ¬ q <+: p := by
      intro hbeyond
      rw [lookup_remove_beyond h hq hbeyond] at hv
      cases hv
    rcases lookup_remove_le h hv with hsame | ⟨_, _, _, hobj⟩
    · exact ⟨hsame, hqp⟩
    · rw [hleaf] at hobj
      cases hobj
  · rintro ⟨hv, hqp⟩
    exact lookup_remove_of_leaf h hv hleaf hqp

/-- On the way to the removed path no empty map is left. -/
theorem lookup_remove_ne_empty {t : Tree} (h : t.MapsOrdered) {q p : Path} (hpq : p <+: q) :
    (t.remove q).2.lookup p ≠ some (.obj []) := by
  intro hempty
  have hq : q ≠ [] := by
    rintro rfl
    exact ne_nil_of_lookup hempty (List.prefix_nil.mp hpq)
  rcases lookup_remove_cases h hq p with ⟨_, hgone⟩ | ⟨rest, _, _, hway⟩ | ⟨_, hnot, _⟩
  · rw [hgone] at hempty
    cases hempty
  · rw [hway, Option.bind_eq_some_iff] at hempty
    obtain ⟨v, _, hpruned⟩ := hempty
    exact Json.pruned_ne_empty rest v hpruned
  · exact hnot hpq

/-- A removal leaves no map empty that was not: on the way to the removed path it would go. -/
theorem lookup_remove_empty {t : Tree} (h : t.MapsOrdered) {q p : Path}
    (hempty : (t.remove q).2.lookup p = some (.obj [])) : t.lookup p = some (.obj []) := by
  by_cases hq : q = []
  · subst hq
    exact hempty
  · rcases lookup_remove_cases h hq p with ⟨_, hgone⟩ | ⟨rest, _, hrest, _⟩ | ⟨_, _, hsame⟩
    · rw [hgone] at hempty
      cases hempty
    · exact absurd hempty (lookup_remove_ne_empty h ⟨rest, hrest⟩)
    · rwa [hsame] at hempty

theorem lookup_remove_eq_none {t : Tree} (h : t.MapsOrdered) {q p : Path}
    (hp : t.lookup p = none) : (t.remove q).2.lookup p = none := by
  cases hw : (t.remove q).2.lookup p with
  | none => rfl
  | some w =>
    rcases lookup_remove_le h hw with hsame | ⟨v, hv, _⟩
    · rw [hp] at hsame
      cases hsame
    · rw [hp] at hv
      cases hv

end Tree

end IndexKeeper
