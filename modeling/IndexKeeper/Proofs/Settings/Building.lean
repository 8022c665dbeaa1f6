import IndexKeeper.Proofs.Settings.Entries
import IndexKeeper.Proofs.Settings.Order

/-!
# What a settings tree is built from

Building a tree takes every entry of an object to its path and does nothing else: the tree has the
leaves that are written in the object and no other maps than those need, and there is no tree
exactly if the entries are not consistent (`ofSettings?_exact`).  So neither the mixture of dotted
and nested keys nor their order shows in a tree.

The induction follows expansion, which goes through the members with those already expanded in hand:
these are made of the entries so far, and the entries so far are consistent
(`isTreeOf_expandMembers`).  It starts from a map that has nothing in it, which is an entry of the
object only if the object has no others (`isTreeOf_root_cons_iff`).
-/

namespace IndexKeeper

namespace Json

/-! ## Expanding entries -/

/-- A value that is made of entries, or nothing if there is no such value. -/
def IsTreeOf (es : List Entry) : Option Json → Prop
  | some v => Consistent es ∧ v.MadeOf es ∧ v.MapsOrdered
  | none => ¬ Consistent es

theorem isTreeOf_root (v : Json) : IsTreeOf [.root v] (some v.bare) := by
  refine ⟨List.pairwise_singleton _ _, ?_, ?_⟩
  · intro p x
    simp [Entry.alone, Entry.root, nested]
  · cases v with
    | obj ms => exact mapsOrdered_empty
    | _ => exact mapsOrdered_of_leaf rfl

section Root

variable {es : List Entry}

theorem consistent_root_cons_iff (hpath : ∀ e ∈ es, e.path ≠ []) :
    Consistent (.root (obj []) :: es) ↔ Consistent es := by
  rw [Consistent, List.pairwise_cons]
  refine ⟨And.right, fun h => ⟨?_, h⟩⟩
  intro e he
  obtain ⟨ms, hms⟩ := Entry.alone_eq_obj (hpath e he)
  rw [hms]
  exact compatible_empty ms

theorem madeOf_root_cons_iff (hne : es ≠ []) (hpath : ∀ e ∈ es, e.path ≠ []) {v : Json} :
    v.MadeOf (.root (obj []) :: es) ↔ v.MadeOf es := by
  obtain ⟨e, he⟩ := List.exists_mem_of_ne_nil es hne
  obtain ⟨ms, hms⟩ := Entry.alone_eq_obj (hpath e he)
  have habsorb : ∀ p x, (∃ e ∈ Entry.root (obj []) :: es, e.alone.nodeAt p = some x) ↔
      ∃ e ∈ es, e.alone.nodeAt p = some x := by
    intro p x
    simp only [List.mem_cons, exists_eq_or_imp]
    refine or_iff_right_of_imp fun hroot => ⟨e, he, ?_⟩
    rw [hms]
    exact (joins_empty ms p x).mpr (Or.inl hroot)
  simp only [MadeOf, habsorb]

/-- Above other entries an empty root is not needed: they have a map there. -/
theorem isTreeOf_root_cons_iff (hne : es ≠ []) (hpath : ∀ e ∈ es, e.path ≠ [])
    {built : Option Json} : IsTreeOf (.root (obj []) :: es) built ↔ IsTreeOf es built := by
  cases built with
  | none => exact not_congr (consistent_root_cons_iff hpath)
  | some v =>
    rw [IsTreeOf, IsTreeOf, consistent_root_cons_iff hpath, madeOf_root_cons_iff hne hpath]

end Root

/-- A value at a path takes its entries below that path into the tree. -/
theorem isTreeOf_mergeAtPath {w : Json} {es fs : List Entry} {ms : List (String × Json)} {p : Path}
    (hw : IsTreeOf fs (some w)) (hfs : fs ≠ []) (hp : p ≠ []) (hms : IsTreeOf es (some (obj ms))) :
    IsTreeOf (es ++ fs.map (Entry.under p)) ((mergeAtPath w p ms).map obj) := by
  obtain ⟨hwCons, hwMade, hwOrd⟩ := hw
  obtain ⟨hmsCons, hmsMade, hmsOrd⟩ := hms
  have hbelow : (nested w p).MadeOf (fs.map (Entry.under p)) := hwMade.nested hfs p
  have hacross := hmsMade.compatible_iff hbelow
  obtain ⟨key, rest, rfl⟩ := List.exists_cons_of_ne_nil hp
  have hjoin : IsJoin (nested w (key :: rest)) (obj ms) (mergeAtPath w (key :: rest) ms) :=
    isJoin_mergeAtPath (mapsOrdered_nested hwOrd rest) hmsOrd
  cases hmerged : mergeAtPath w (key :: rest) ms with
  | none =>
    rw [hmerged] at hjoin
    intro hall
    exact hjoin (hacross.mpr (List.pairwise_append.mp hall).2.2).symm
  | some merged =>
    rw [hmerged] at hjoin
    obtain ⟨hc, hjoins, hord⟩ := hjoin
    refine ⟨?_, ?_, hord⟩
    · exact List.pairwise_append.mpr
        ⟨hmsCons, (consistent_map_under_iff _).mpr hwCons, hacross.mp hc.symm⟩
    · exact hmsMade.append hbelow fun q x => (hjoins q x).trans or_comm

mutual

/-- The expansion of a value is made of its entries. -/
theorem isTreeOf_expand : ∀ (v : Json), IsTreeOf v.entries (expand v).toOption
  | obj [] => by
    rw [entries_empty, expand, expandMembers]
    exact isTreeOf_root (obj [])
  | obj (m :: ms) => by
    have hbuilt := isTreeOf_expandMembers (m :: ms) (isTreeOf_root (obj []))
    have hne : memberEntries (m :: ms) ≠ [] := by
      rw [← entries_obj_cons]
      exact entries_ne_nil _
    rw [List.singleton_append, isTreeOf_root_cons_iff hne
      fun e he => path_ne_nil_of_mem_memberEntries he] at hbuilt
    rw [entries_obj_cons, expand]
    cases hms : expandMembers (m :: ms) [] with
    | error conflict => rwa [hms] at hbuilt
    | ok expanded => rwa [hms] at hbuilt
  | null | bool _ | num _ | str _ | arr _ => by
    rw [entries_of_leaf rfl, expand]
    · exact isTreeOf_root _
    · intro ms hobj
      cases hobj

/-- Members are expanded into members that are made of the entries before them. -/
theorem isTreeOf_expandMembers : ∀ (members : List (String × Json)) {es : List Entry}
    {ms : List (String × Json)}, IsTreeOf es (some (obj ms)) →
      IsTreeOf (es ++ memberEntries members) ((expandMembers members ms).toOption.map obj)
  | [], es, ms, h => by
    rw [memberEntries, List.append_nil, expandMembers]
    exact h
  | (key, v) :: rest, es, ms, h => by
    have hv := isTreeOf_expand v
    rw [memberEntries, ← List.append_assoc, expandMembers]
    cases hw : expand v with
    | error conflict =>
      rw [hw] at hv
      intro hall
      have hbelow := (List.pairwise_append.mp (List.pairwise_append.mp hall).1).2.1
      exact hv ((consistent_map_under_iff _).mp hbelow)
    | ok w =>
      rw [hw] at hv
      have hstep := isTreeOf_mergeAtPath hv (entries_ne_nil v) (Path.ofDotted_ne_nil key) h
      dsimp only
      cases hmerged : mergeAtPath w (Path.ofDotted key) ms with
      | none =>
        rw [hmerged] at hstep
        exact fun hall => hstep (List.pairwise_append.mp hall).1
      | some merged =>
        rw [hmerged] at hstep
        exact isTreeOf_expandMembers rest hstep

end

end Json

namespace Tree

/-- A tree has the leaves among entries, each once and with its value, and no maps but the root,
those on the way to the entries and the empty ones among them. -/
structure ConsistsOf (t : Tree) (es : List Json.Entry) : Prop where
  leaves : (t.leafPaths.map fun p => (p, t.lookup p)).Perm
    ((es.filter Json.Entry.isLeaf).map fun e => (e.path, some e.value))
  maps : ∀ p, (∃ ms, t.toJson.lookup p = some (.obj ms)) ↔
    p = [] ∨ ∃ e ∈ es, (p <+: e.path ∧ p ≠ e.path) ∨ (p = e.path ∧ e.isLeaf = false)

theorem consistsOf_of_madeOf {t : Tree} {es : List Json.Entry} (hmade : t.toJson.MadeOf es)
    (hcons : Json.Consistent es) (hord : t.MapsOrdered) : t.ConsistsOf es where
  leaves := by
    have hnodup : (t.leafPaths.map fun p => (p, t.lookup p)).Nodup :=
      @nodup_of_pairwise_precedes _ Prod.fst _ (List.pairwise_map.mpr (pairwise_leafPaths hord))
    rw [List.perm_ext_iff_of_nodup hnodup hcons.nodup_leaves]
    rintro ⟨p, o⟩
    simp only [List.mem_map, List.mem_filter, Prod.mk.injEq]
    constructor
    · rintro ⟨q, hq, rfl, rfl⟩
      obtain ⟨v, hv, hleaf⟩ := (mem_leafPaths_iff hord).mp hq
      obtain ⟨e, he, rfl, rfl⟩ :=
        (hmade.lookup_leaf_iff hleaf).mp ((lookup_eq_some_leaf_iff hleaf).mp hv)
      exact ⟨e, ⟨he, Json.Entry.isLeaf_iff.mpr hleaf⟩, rfl, hv.symm⟩
    · rintro ⟨e, ⟨he, hleaf⟩, rfl, rfl⟩
      rw [Json.Entry.isLeaf_iff] at hleaf
      have hv : t.lookup e.path = some e.value := by
        rw [lookup_eq_some_leaf_iff hleaf, hmade.lookup_leaf_iff hleaf]
        exact ⟨e, he, rfl, rfl⟩
      exact ⟨e.path, mem_leafPaths_of_lookup hv hleaf, rfl, hv⟩
  maps := by
    intro p
    rw [hmade.lookup_map_iff]
    refine ⟨Or.inr, ?_⟩
    rintro (rfl | h)
    · exact hmade.lookup_map_iff.mp ⟨t.members, Json.lookup_nil _⟩
    · exact h

variable {ms ns : List (String × Json)} {t u : Tree}

/-- A settings tree is made of the entries of the object, and there is none if these are not
consistent. -/
theorem isTreeOf_ofSettings? (ms : List (String × Json)) :
    Json.IsTreeOf (Json.obj ms).entries ((ofSettings? (.obj ms)).toOption.map toJson) := by
  have hbuilt := Json.isTreeOf_expand (.obj ms)
  rw [Json.expand] at hbuilt
  rw [ofSettings?]
  cases hms : Json.expandMembers ms [] with
  | error key => rwa [hms] at hbuilt
  | ok expanded => rwa [hms] at hbuilt

theorem madeOf_of_ofSettings? (h : ofSettings? (.obj ms) = .ok t) :
    Json.Consistent (Json.obj ms).entries ∧ t.toJson.MadeOf (Json.obj ms).entries ∧
      t.MapsOrdered := by
  have hbuilt := isTreeOf_ofSettings? ms
  rwa [h] at hbuilt

theorem exists_ofSettings?_error_iff :
    (∃ f, ofSettings? (.obj ms) = .error f) ↔ ¬ Json.Consistent (Json.obj ms).entries := by
  have hbuilt := isTreeOf_ofSettings? ms
  cases h : ofSettings? (.obj ms) with
  | error f =>
    rw [h] at hbuilt
    exact iff_of_true ⟨f, rfl⟩ hbuilt
  | ok t =>
    rw [h] at hbuilt
    refine iff_of_false ?_ fun hnot => hnot hbuilt.1
    rintro ⟨f, hf⟩
    cases hf

theorem eq_conflict_of_ofSettings? {f : Malformed} (h : ofSettings? (.obj ms) = .error f) :
    ∃ key, f = .conflict key := by
  rw [ofSettings?] at h
  cases hms : Json.expandMembers ms [] with
  | error key =>
    rw [hms] at h
    cases h
    exact ⟨key, rfl⟩
  | ok expanded =>
    rw [hms] at h
    cases h

/-- Two trees of objects with the same entries are the same. -/
theorem eq_of_entries (ht : ofSettings? (.obj ms) = .ok t) (hu : ofSettings? (.obj ns) = .ok u)
    (hmem : ∀ e, e ∈ (Json.obj ms).entries ↔ e ∈ (Json.obj ns).entries) : u = t := by
  obtain ⟨_, htMade, htOrd⟩ := madeOf_of_ofSettings? ht
  obtain ⟨_, huMade, huOrd⟩ := madeOf_of_ofSettings? hu
  have hroot : u.toJson = t.toJson := huMade.unique (htMade.of_mem_iff hmem) huOrd htOrd
  cases t
  cases u
  cases hroot
  rfl

/-- An object with the same entries, in whatever order, has the same tree. -/
theorem ofSettings?_of_perm (h : ofSettings? (.obj ms) = .ok t)
    (hperm : (Json.obj ms).entries.Perm (Json.obj ns).entries) : ofSettings? (.obj ns) = .ok t := by
  have hcons : Json.Consistent (Json.obj ns).entries := (madeOf_of_ofSettings? h).1.perm hperm
  cases hu : ofSettings? (.obj ns) with
  | error f => exact absurd hcons (exists_ofSettings?_error_iff.mp ⟨f, hu⟩)
  | ok u => rw [eq_of_entries h hu fun e => hperm.mem_iff]

/-- The tree of an object has what is written in the object and nothing else.  It is missing
exactly if a leaf stands where another entry stands or on the way to it.  Neither the spelling of
the keys nor their order has a part in it, and a tree is built from itself. -/
theorem ofSettings?_exact (ms : List (String × Json)) :
    (∀ f, ofSettings? (.obj ms) = .error f → ∃ key, f = .conflict key) ∧
    ((∃ f, ofSettings? (.obj ms) = .error f) ↔
      ∃ i j : Fin (Json.obj ms).entries.length, i ≠ j ∧
        ((Json.obj ms).entries.get i).Blocks ((Json.obj ms).entries.get j)) ∧
    ∀ t, ofSettings? (.obj ms) = .ok t →
      t.ConsistsOf (Json.obj ms).entries ∧
      (∀ ns, (Json.obj ms).entries.Perm (Json.obj ns).entries → ofSettings? (.obj ns) = .ok t) ∧
      (∀ ns, ms.Perm ns → ofSettings? (.obj ns) = .ok t) ∧
      (∀ ns u, (∀ e, e ∈ (Json.obj ms).entries ↔ e ∈ (Json.obj ns).entries) →
        ofSettings? (.obj ns) = .ok u → u = t) ∧
      ofSettings? t.toJson = .ok t := by
  refine ⟨fun f hf => eq_conflict_of_ofSettings? hf, ?_, ?_⟩
  · rw [exists_ofSettings?_error_iff, Json.consistent_iff, Classical.not_not]
  · intro t ht
    obtain ⟨hcons, hmade, hord⟩ := madeOf_of_ofSettings? ht
    refine ⟨consistsOf_of_madeOf hmade hcons hord, ?_, ?_, ?_, ?_⟩
    · exact fun ns hperm => ofSettings?_of_perm ht hperm
    · exact fun ns hperm => ofSettings?_of_perm ht (Json.entries_perm hperm)
    · exact fun ns u hmem hu => eq_of_entries ht hu hmem
    · exact ofSettings?_toJson (expanded_of_ofSettings? ht)

/-- A nested object and one with dotted keys have one tree. -/
theorem ofSettings?_exact_dotted :
    ofSettings? (.obj [("index", .obj [("b", .obj []), ("a.c", .str "1")])]) =
      .ok ⟨[("index", .obj [("a", .obj [("c", .str "1")]), ("b", .obj [])])]⟩ := by
  have hdotted : ofSettings? (.obj [("index.a", .obj [("c", .str "1")]), ("index.b", .obj [])]) =
      .ok ⟨[("index", .obj [("a", .obj [("c", .str "1")]), ("b", .obj [])])]⟩ := by cbv
  refine ((ofSettings?_exact _).2.2 _ hdotted).2.1 _ ?_
  exact List.Perm.swap _ _ _

/-- A leaf on the way to another one is a conflict. -/
example : ∃ f, ofSettings? (.obj [("a", .str "1"), ("a.b", .str "2")]) = .error f :=
  ⟨.conflict "a.b", by cbv⟩

end Tree

end IndexKeeper
