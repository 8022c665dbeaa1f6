import IndexKeeper.Proofs.Settings.Lookup
import IndexKeeper.Proofs.Text.Split
import IndexKeeper.Settings.Build

/-!
# Trees with expanded keys

Splitting a text at its dots leaves keys without dots, so a path made of such keys is written as a
text that names it again: `Path.ofDotted_dotted`.  `Json.Expanded` says that no key on a path of a
value has a dot, and `Tree.expanded_of_ofSettings?` that a settings tree is expanded whatever
object it was built from.  In such a tree the written form of a path and the path itself are
interchangeable.
-/

namespace IndexKeeper

/-! ## Keys without dots -/

namespace Path

/-- No key of a path that was read from a text has a dot. -/
theorem dot_notMem_of_mem_ofDotted {dotted key : String} (h : key ∈ ofDotted dotted) :
    '.' ∉ key.toList := by
  rw [ofDotted, List.mem_map] at h
  obtain ⟨part, hpart, rfl⟩ := h
  intro hdot
  rw [String.toList_ofList] at hdot
  have hfree := eq_false_of_mem_splitChars hpart hdot
  simp at hfree

/-- A path whose keys have no dots is named by its text. -/
theorem ofDotted_dotted {p : Path} (hne : p ≠ []) (h : ∀ key ∈ p, '.' ∉ key.toList) :
    ofDotted p.dotted = p := by
  have hparts : ∀ part ∈ p.map String.toList, '.' ∉ part := by
    intro part hpart
    obtain ⟨key, hkey, rfl⟩ := List.mem_map.mp hpart
    exact h key hkey
  have hsplit := splitChars_intercalate (by simpa using hne) hparts
  rw [ofDotted, dotted, String.toList_intercalate]
  rw [show ".".toList = ['.'] from rfl, hsplit, List.map_map]
  have hid : String.ofList ∘ String.toList = id := by
    funext s
    simp
  rw [hid, List.map_id]

end Path

/-! ## Expanded values -/

namespace Json

/-- The maps on the paths of a value are in order, and no key on a path has a dot. -/
structure Expanded (v : Json) : Prop where
  mapsOrdered : v.MapsOrdered
  undotted : ∀ p w, v.lookup p = some w → ∀ key ∈ p, '.' ∉ key.toList

theorem expanded_of_leaf {v : Json} (h : v.isObject = false) : v.Expanded := by
  refine ⟨mapsOrdered_of_leaf h, ?_⟩
  intro p w hw key hkey
  cases p with
  | nil => cases hkey
  | cons head rest =>
    rw [lookup_cons_of_leaf h] at hw
    cases hw

theorem expanded_obj_iff {ms : List (String × Json)} :
    (obj ms).Expanded ↔ Keyed.Ordered ms ∧
      ∀ key v, Keyed.get? key ms = some v → '.' ∉ key.toList ∧ v.Expanded := by
  constructor
  · intro h
    refine ⟨h.mapsOrdered.keys, ?_⟩
    intro key v hv
    refine ⟨?_, h.mapsOrdered.of_get? hv, ?_⟩
    · exact h.undotted [key] v (by simp [hv]) key List.mem_cons_self
    · intro p w hw k hk
      exact h.undotted (key :: p) w (by simp [hv, hw]) k (List.mem_cons_of_mem _ hk)
  · rintro ⟨hord, hbelow⟩
    refine ⟨mapsOrdered_obj_iff.mpr ⟨hord, fun key v hv => (hbelow key v hv).2.mapsOrdered⟩, ?_⟩
    intro p w hw k hk
    cases p with
    | nil => cases hk
    | cons key rest =>
      rw [lookup_obj_cons, Option.bind_eq_some_iff] at hw
      obtain ⟨v, hv, hrest⟩ := hw
      obtain ⟨hkey, hval⟩ := hbelow key v hv
      rcases List.mem_cons.mp hk with rfl | hk
      · exact hkey
      · exact hval.undotted rest w hrest k hk

theorem expanded_empty : (obj []).Expanded :=
  expanded_obj_iff.mpr ⟨.nil, fun _ _ h => by cases h⟩

theorem Expanded.of_get? {ms : List (String × Json)} {key : String} {v : Json}
    (h : (obj ms).Expanded) (hv : Keyed.get? key ms = some v) : v.Expanded :=
  ((expanded_obj_iff.mp h).2 key v hv).2

theorem Expanded.insert {ms : List (String × Json)} {key : String} {v : Json}
    (h : (obj ms).Expanded) (hkey : '.' ∉ key.toList) (hv : v.Expanded) :
    (obj (Keyed.insert key v ms)).Expanded := by
  obtain ⟨hord, hbelow⟩ := expanded_obj_iff.mp h
  rw [expanded_obj_iff]
  refine ⟨hord.insert key v, ?_⟩
  intro other w hw
  rw [Keyed.get?_insert] at hw
  split at hw
  · next heq =>
    cases hw
    exact ⟨heq ▸ hkey, hv⟩
  · exact hbelow other w hw

/-! ## Merging and expanding keep it -/

mutual

theorem expanded_of_mergeAt {key : String} (hkey : '.' ∉ key.toList) :
    ∀ (v : Json) {ms merged : List (String × Json)}, v.Expanded → (obj ms).Expanded →
      mergeAt key v ms = some merged → (obj merged).Expanded
  | obj incoming, ms, merged, hv, hms, h => by
    rw [mergeAt] at h
    split at h
    · cases h
      exact hms.insert hkey hv
    · next existing hget =>
      obtain ⟨below, hbelow, rfl⟩ := Option.map_eq_some_iff.mp h
      obtain ⟨hord, hmembers⟩ := expanded_obj_iff.mp hv
      have hincoming : ∀ e ∈ incoming, '.' ∉ e.1.toList ∧ e.2.Expanded :=
        fun e he => hmembers e.1 e.2 (hord.get?_of_mem he)
      exact hms.insert hkey (expanded_of_mergeAll incoming hincoming (hms.of_get? hget) hbelow)
    · cases h
  | null, ms, merged, hv, hms, h | bool _, ms, merged, hv, hms, h | num _, ms, merged, hv, hms, h
  | str _, ms, merged, hv, hms, h | arr _, ms, merged, hv, hms, h => by
    rw [mergeAt] at h
    · split at h
      · cases h
        exact hms.insert hkey hv
      · cases h
    · intro incoming hobj
      cases hobj

theorem expanded_of_mergeAll :
    ∀ (incoming : List (String × Json)) {ms merged : List (String × Json)},
      (∀ e ∈ incoming, '.' ∉ e.1.toList ∧ e.2.Expanded) → (obj ms).Expanded →
      mergeAll incoming ms = some merged → (obj merged).Expanded
  | [], ms, merged, _, hms, h => by
    rw [mergeAll] at h
    cases h
    exact hms
  | (key, v) :: rest, ms, merged, hincoming, hms, h => by
    rw [mergeAll, Option.bind_eq_some_iff] at h
    obtain ⟨first, hfirst, hrest⟩ := h
    obtain ⟨hkey, hv⟩ := hincoming (key, v) List.mem_cons_self
    have hfirst' : (obj first).Expanded := expanded_of_mergeAt hkey v hv hms hfirst
    exact expanded_of_mergeAll rest (fun e he => hincoming e (List.mem_cons_of_mem _ he)) hfirst'
      hrest

end

theorem expanded_of_mergeAtPath {v : Json} (hv : v.Expanded) {p : Path}
    {ms merged : List (String × Json)} (hp : ∀ key ∈ p, '.' ∉ key.toList)
    (hms : (obj ms).Expanded) (h : mergeAtPath v p ms = some merged) : (obj merged).Expanded := by
  induction p generalizing ms merged with
  | nil => simp [mergeAtPath] at h
  | cons key rest ih =>
    have hkey : '.' ∉ key.toList := hp key List.mem_cons_self
    have hrest : ∀ k ∈ rest, '.' ∉ k.toList := fun k hk => hp k (List.mem_cons_of_mem _ hk)
    cases rest with
    | nil =>
      rw [mergeAtPath] at h
      exact expanded_of_mergeAt hkey v hv hms h
    | cons next more =>
      rw [mergeAtPath] at h
      · split at h
        · obtain ⟨below, hbelow, rfl⟩ := Option.map_eq_some_iff.mp h
          exact hms.insert hkey (ih hrest expanded_empty hbelow)
        · next existing hget =>
          obtain ⟨below, hbelow, rfl⟩ := Option.map_eq_some_iff.mp h
          exact hms.insert hkey (ih hrest (hms.of_get? hget) hbelow)
        · cases h
      · simp

mutual

/-- Whatever a value is, its expansion is expanded. -/
theorem expanded_of_expand : ∀ (v : Json) {w : Json}, expand v = .ok w → w.Expanded
  | obj ms, w, h => by
    rw [expand] at h
    cases hms : expandMembers ms [] with
    | error conflict =>
      rw [hms] at h
      cases h
    | ok expanded =>
      rw [hms] at h
      cases h
      exact expanded_of_expandMembers ms expanded_empty hms
  | null, w, h | bool _, w, h | num _, w, h | str _, w, h | arr _, w, h => by
    rw [expand] at h
    · cases h
      exact expanded_of_leaf rfl
    · intro incoming hobj
      cases hobj

theorem expanded_of_expandMembers :
    ∀ (members : List (String × Json)) {ms expanded : List (String × Json)},
      (obj ms).Expanded → expandMembers members ms = .ok expanded → (obj expanded).Expanded
  | [], ms, expanded, hms, h => by
    rw [expandMembers] at h
    cases h
    exact hms
  | (key, v) :: rest, ms, expanded, hms, h => by
    rw [expandMembers] at h
    split at h
    · cases h
    · next w hw =>
      split at h
      · cases h
      · next merged hmerged =>
        have hkeys : ∀ k ∈ Path.ofDotted key, '.' ∉ k.toList :=
          fun k hk => Path.dot_notMem_of_mem_ofDotted hk
        have hmerged' : (obj merged).Expanded :=
          expanded_of_mergeAtPath (expanded_of_expand v hw) hkeys hms hmerged
        exact expanded_of_expandMembers rest hmerged' h

end

/-! ## Nothing to expand -/

theorem mergeAt_of_get?_none {key : String} {v : Json} {ms : List (String × Json)}
    (h : Keyed.get? key ms = none) : mergeAt key v ms = some (Keyed.insert key v ms) := by
  cases v <;> simp [mergeAt, h]

mutual

/-- What is expanded is left as it is. -/
theorem expand_of_expanded : ∀ {v : Json}, v.Expanded → expand v = .ok v
  | obj ms, h => by
    have hms := expandMembers_of_expanded ms [] h
    rw [expand, hms]
    rfl
  | null, _ | bool _, _ | num _, _ | str _, _ | arr _, _ => by
    rw [expand]
    intro ms hobj
    cases hobj

theorem expandMembers_of_expanded : ∀ (ms acc : List (String × Json)),
    (obj (acc ++ ms)).Expanded → expandMembers ms acc = .ok (acc ++ ms)
  | [], acc, _ => by rw [expandMembers, List.append_nil]
  | (key, v) :: rest, acc, h => by
    obtain ⟨hord, hmembers⟩ := expanded_obj_iff.mp h
    obtain ⟨hkey, hv⟩ := hmembers key v (hord.get?_of_mem (by simp))
    have hpath : Path.ofDotted key = [key] := by
      have hdotted := Path.ofDotted_dotted (p := [key]) (by simp) (by simpa using hkey)
      rwa [show Path.dotted [key] = key from rfl] at hdotted
    have hrest : (obj ((acc ++ [(key, v)]) ++ rest)).Expanded := by
      rw [List.append_assoc]
      exact h
    rw [expandMembers, expand_of_expanded hv, hpath]
    simp only [mergeAtPath, mergeAt_of_get?_none (Keyed.get?_of_ordered_append hord),
      Keyed.insert_of_ordered_append hord, expandMembers_of_expanded rest _ hrest,
      List.append_assoc, List.singleton_append]

end

/-! ## One dotted key -/

/-- A value with a map around it for each key of a path. -/
def nested (v : Json) : Path → Json
  | [] => v
  | key :: rest => obj [(key, nested v rest)]

theorem mergeAtPath_nil (v : Json) (key : String) (rest : Path) :
    mergeAtPath v (key :: rest) [] = some [(key, nested v rest)] := by
  induction rest generalizing key with
  | nil =>
    rw [mergeAtPath, mergeAt_of_get?_none rfl]
    rfl
  | cons next more ih =>
    rw [mergeAtPath]
    · rw [show Keyed.get? key ([] : List (String × Json)) = none from rfl, ih]
      rfl
    · simp

end Json

namespace Tree

/-- The root of the tree is expanded. -/
def Expanded (t : Tree) : Prop := t.toJson.Expanded

theorem expanded_of_ofSettings? {j : Json} {t : Tree} (h : ofSettings? j = .ok t) :
    t.Expanded := by
  rw [ofSettings?.eq_def] at h
  split at h
  · next ms =>
    split at h
    · next expanded hms =>
      cases h
      exact Json.expanded_of_expandMembers ms Json.expanded_empty hms
    · cases h
  · cases h

/-- An expanded tree is built from itself. -/
theorem ofSettings?_toJson {t : Tree} (h : t.Expanded) : ofSettings? t.toJson = .ok t := by
  have hmembers := Json.expandMembers_of_expanded t.members [] h
  rw [toJson, ofSettings?]
  simp only [hmembers, List.nil_append]

/-- A value under a dotted key is built into the maps that the key names. -/
theorem ofSettings?_dotted {key : String} {rest : Path} {v : Json} (hv : v.Expanded)
    (h : ∀ k ∈ key :: rest, '.' ∉ k.toList) :
    ofSettings? (.obj [(Path.dotted (key :: rest), v)]) = .ok ⟨[(key, Json.nested v rest)]⟩ := by
  have hmembers : Json.expandMembers [(Path.dotted (key :: rest), v)] [] =
      .ok [(key, Json.nested v rest)] := by
    rw [Json.expandMembers, Json.expand_of_expanded hv,
      Path.ofDotted_dotted (List.cons_ne_nil key rest) h]
    simp only [Json.mergeAtPath_nil]
    rw [Json.expandMembers]
  rw [ofSettings?, hmembers]

/-- In an expanded tree a path that leads somewhere is named by its text. -/
theorem Expanded.ofDotted_dotted {t : Tree} (h : t.Expanded) {p : Path} {v : Json}
    (hv : t.lookup p = some v) : Path.ofDotted p.dotted = p := by
  have hne : p ≠ [] := ne_nil_of_lookup hv
  rw [t.lookup_of_ne_nil hne] at hv
  exact Path.ofDotted_dotted hne (h.undotted p v hv)

end Tree

end IndexKeeper
