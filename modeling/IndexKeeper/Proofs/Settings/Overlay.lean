import IndexKeeper.Cluster
import IndexKeeper.Proofs.Settings.Lookup

/-!
# What a server stores and reports

A server stores settings as it echoes them, and lays later settings over earlier ones.  An echo
changes no path (`lookup_echo`) and, doubles apart, no text by which leaves are compared
(`canonicalText_echo`).  A leaf of an overlay comes from the upper value, or from the lower one
where the upper one has nothing (`lookup_overlay_leaf`); a path that the upper value does not reach
is left alone (`lookup_overlay_of_absent`).
-/

namespace IndexKeeper

namespace Json

/-! ## Echoes -/

@[simp] theorem echo_obj (ms : List (String × Json)) : (obj ms).echo = obj (echoMembers ms) := by
  rw [echo]

@[simp] theorem isObject_echo (v : Json) : v.echo.isObject = v.isObject := by
  cases v <;> simp [echo, isObject]

theorem get?_echoMembers (key : String) (ms : List (String × Json)) :
    Keyed.get? key (echoMembers ms) = (Keyed.get? key ms).map echo := by
  induction ms with
  | nil => rfl
  | cons e rest ih =>
    obtain ⟨k, v⟩ := e
    rw [echoMembers, Keyed.get?_cons, Keyed.get?_cons, ih]
    split <;> rfl

theorem keys_echoMembers (ms : List (String × Json)) :
    (echoMembers ms).map Prod.fst = ms.map Prod.fst := by
  induction ms with
  | nil => rfl
  | cons e rest ih =>
    obtain ⟨k, v⟩ := e
    rw [echoMembers, List.map_cons, List.map_cons, ih]

theorem ordered_echoMembers {ms : List (String × Json)} (h : Keyed.Ordered ms) :
    Keyed.Ordered (echoMembers ms) := by
  have hkeys : (ms.map Prod.fst).Pairwise (· < ·) := List.pairwise_map.mpr h
  rw [← keys_echoMembers] at hkeys
  exact List.pairwise_map.mp hkeys

/-- An echo has the same paths, with the echo of what they led to. -/
theorem lookup_echo (p : Path) (v : Json) : v.echo.lookup p = (v.lookup p).map echo := by
  induction p generalizing v with
  | nil => simp
  | cons key rest ih =>
    cases hv : v.isObject with
    | false =>
      rw [lookup_cons_of_leaf hv, lookup_cons_of_leaf (by simpa using hv), Option.map_none]
    | true =>
      obtain ⟨ms, rfl⟩ := eq_obj_of_isObject hv
      rw [echo_obj, lookup_obj_cons, lookup_obj_cons, get?_echoMembers]
      cases Keyed.get? key ms with
      | none => rfl
      | some w => exact ih w

theorem MapsOrdered.echo {v : Json} (h : v.MapsOrdered) : v.echo.MapsOrdered := by
  intro p ms hp
  rw [lookup_echo, Option.map_eq_some_iff] at hp
  obtain ⟨w, hw, hecho⟩ := hp
  cases hobj : w.isObject with
  | false =>
    rw [← isObject_echo, hecho, isObject] at hobj
    cases hobj
  | true =>
    obtain ⟨found, rfl⟩ := eq_obj_of_isObject hobj
    rw [echo_obj] at hecho
    cases hecho
    exact ordered_echoMembers (h p found hw)

/-- A leaf that is no double is compared by the same text as its echo. -/
theorem canonicalText_echo {v : Json} (hleaf : v.isObject = false)
    (hreal : ∀ x, v ≠ num (.real x)) : v.echo.canonicalText = v.canonicalText := by
  cases v with
  | obj ms => simp [isObject] at hleaf
  | num n =>
    cases n with
    | int i => simp [echo, canonicalText, text, chars, Number.jsonText, Number.canonicalText]
    | real x => exact absurd rfl (hreal x)
  | _ => simp [echo, canonicalText]

/-! ## Overlays -/

theorem overlay_of_leaf {top : Json} (h : top.isObject = false) (lower : Json) :
    overlay lower top = top := by
  cases top with
  | obj ms => simp [isObject] at h
  | _ => simp [overlay]

theorem overlay_obj_of_leaf {lower : Json} (h : lower.isObject = false)
    (top : List (String × Json)) : overlay lower (obj top) = obj top := by
  cases lower with
  | obj ms => simp [isObject] at h
  | _ => simp [overlay]

@[simp] theorem overlay_obj_obj (lower top : List (String × Json)) :
    overlay (obj lower) (obj top) = obj (overlayMembers lower top) := by
  simp [overlay]

/-- An overlay is the upper value, unless both values are maps. -/
theorem overlay_eq_or_maps (lower top : Json) :
    overlay lower top = top ∨ ∃ members upper, lower = obj members ∧ top = obj upper := by
  cases ht : top.isObject with
  | false => exact Or.inl (overlay_of_leaf ht lower)
  | true =>
    obtain ⟨upper, rfl⟩ := eq_obj_of_isObject ht
    cases hl : lower.isObject with
    | false => exact Or.inl (overlay_obj_of_leaf hl upper)
    | true =>
      obtain ⟨members, rfl⟩ := eq_obj_of_isObject hl
      exact Or.inr ⟨members, upper, rfl, rfl⟩

/-- The member of an overlay: laid over the lower one where the upper has one. -/
theorem get?_overlayMembers {top : List (String × Json)} (h : Keyed.Ordered top) (key : String)
    (lower : List (String × Json)) :
    Keyed.get? key (overlayMembers lower top) =
      match Keyed.get? key top with
      | none => Keyed.get? key lower
      | some v => some (match Keyed.get? key lower with
        | none => v
        | some old => overlay old v) := by
  induction top generalizing lower with
  | nil => rw [overlayMembers, Keyed.get?_nil]
  | cons e rest ih =>
    obtain ⟨k, v⟩ := e
    obtain ⟨hhead, htail⟩ := List.pairwise_cons.1 h
    rw [overlayMembers, ih htail, Keyed.get?_cons]
    by_cases hk : k = key
    · subst hk
      have hnone : Keyed.get? k rest = none := Keyed.Ordered.get?_eq_none_of_forall hhead
      rw [hnone, if_pos rfl]
      exact Keyed.get?_insert_self _ _ _
    · rw [if_neg hk, Keyed.get?_insert_of_ne (Ne.symm hk)]

theorem ordered_overlayMembers {lower : List (String × Json)} (h : Keyed.Ordered lower)
    (top : List (String × Json)) : Keyed.Ordered (overlayMembers lower top) := by
  induction top generalizing lower with
  | nil =>
    rw [overlayMembers]
    exact h
  | cons e rest ih =>
    obtain ⟨k, v⟩ := e
    rw [overlayMembers]
    exact ih (h.insert k _)

/-- One key into an overlay of maps. -/
theorem lookup_overlay_cons {lower top : List (String × Json)} (h : Keyed.Ordered top)
    (key : String) (rest : Path) :
    (overlay (obj lower) (obj top)).lookup (key :: rest) =
      match Keyed.get? key top, Keyed.get? key lower with
      | none, _ => (obj lower).lookup (key :: rest)
      | some v, none => v.lookup rest
      | some v, some old => (overlay old v).lookup rest := by
  rw [overlay_obj_obj, lookup_obj_cons, lookup_obj_cons, get?_overlayMembers h]
  cases Keyed.get? key top with
  | none => rfl
  | some v => cases Keyed.get? key lower <;> rfl

/-- A leaf of an overlay is one of the upper value, or one of the lower value at a path where the
upper value has nothing. -/
theorem lookup_overlay_leaf {lower top w : Json} {p : Path} (htop : top.MapsOrdered)
    (hw : (overlay lower top).lookup p = some w) (hleaf : w.isObject = false) :
    top.lookup p = some w ∨ (top.lookup p = none ∧ lower.lookup p = some w) := by
  induction p generalizing lower top with
  | nil =>
    left
    rcases overlay_eq_or_maps lower top with heq | ⟨members, upper, rfl, rfl⟩
    · rwa [heq] at hw
    · rw [overlay_obj_obj, lookup_nil] at hw
      cases hw
      simp [isObject] at hleaf
  | cons key rest ih =>
    rcases overlay_eq_or_maps lower top with heq | ⟨members, upper, rfl, rfl⟩
    · rw [heq] at hw
      exact Or.inl hw
    · rw [lookup_overlay_cons htop.keys] at hw
      rw [lookup_obj_cons, lookup_obj_cons]
      split at hw
      · next hnone =>
        right
        rw [hnone]
        exact ⟨rfl, hw⟩
      · next v hv hnone =>
        left
        rw [hv]
        exact hw
      · next v old hv hold =>
        rw [hv, hold]
        exact ih (htop.of_get? hv) hw

/-- Where the upper value has nothing, and has maps on all of the way, the overlay is as the lower
value. -/
theorem lookup_overlay_of_absent {lower top : Json} {p : Path} (htop : top.MapsOrdered)
    (hnone : top.lookup p = none)
    (hmaps : ∀ q v, q <+: p → top.lookup q = some v → v.isObject = true) :
    (overlay lower top).lookup p = lower.lookup p := by
  induction p generalizing lower top with
  | nil =>
    rw [lookup_nil] at hnone
    cases hnone
  | cons key rest ih =>
    -- the upper value is a map here; below it the path goes on in the lower value, or in both
    obtain ⟨upper, rfl⟩ := eq_obj_of_isObject (hmaps [] top List.nil_prefix (lookup_nil top))
    cases hl : lower.isObject with
    | false =>
      rw [overlay_obj_of_leaf hl, hnone, lookup_cons_of_leaf hl]
    | true =>
      obtain ⟨members, rfl⟩ := eq_obj_of_isObject hl
      rw [lookup_overlay_cons htop.keys]
      rw [lookup_obj_cons] at hnone
      split
      · rfl
      · next v hv hgone =>
        rw [lookup_obj_cons, hgone]
        rw [hv] at hnone
        exact hnone
      · next v old hv hold =>
        rw [lookup_obj_cons, hold]
        rw [hv] at hnone
        refine ih (htop.of_get? hv) hnone ?_
        intro q w hq hw
        refine hmaps (key :: q) w (List.cons_prefix_cons.mpr ⟨rfl, hq⟩) ?_
        rw [lookup_obj_cons, hv]
        exact hw

theorem MapsOrdered.overlay {lower top : Json} (hl : lower.MapsOrdered) (ht : top.MapsOrdered) :
    (overlay lower top).MapsOrdered := by
  intro p
  induction p generalizing lower top with
  | nil =>
    intro ms hms
    rcases overlay_eq_or_maps lower top with heq | ⟨members, upper, rfl, rfl⟩
    · rw [heq] at hms
      exact ht [] ms hms
    · rw [overlay_obj_obj, lookup_nil] at hms
      cases hms
      exact ordered_overlayMembers hl.keys upper
  | cons key rest ih =>
    intro ms hms
    rcases overlay_eq_or_maps lower top with heq | ⟨members, upper, rfl, rfl⟩
    · rw [heq] at hms
      exact ht _ ms hms
    · rw [lookup_overlay_cons ht.keys] at hms
      -- the member comes from below, from above, or is an overlay of the two
      split at hms
      · exact hl _ ms hms
      · next v hv _ => exact ht.of_get? hv rest ms hms
      · next v old hv hold => exact ih (hl.of_get? hold) (ht.of_get? hv) ms hms

end Json

/-! ## Trees -/

namespace Tree

theorem toJson_echo (t : Tree) : t.echo.toJson = t.toJson.echo := by
  rw [toJson, toJson, Json.echo_obj, echo]

theorem toJson_overlay (lower top : Tree) :
    (lower.overlay top).toJson = Json.overlay lower.toJson top.toJson := by
  rw [toJson, toJson, toJson, Json.overlay_obj_obj, overlay]

theorem lookup_echo (t : Tree) (p : Path) : t.echo.lookup p = (t.lookup p).map Json.echo := by
  cases p with
  | nil => rfl
  | cons key rest => rw [lookup_cons, lookup_cons, toJson_echo, Json.lookup_echo]

theorem MapsOrdered.echo {t : Tree} (h : t.MapsOrdered) : t.echo.MapsOrdered := by
  rw [MapsOrdered, toJson_echo]
  exact Json.MapsOrdered.echo h

theorem MapsOrdered.overlay {lower top : Tree} (hl : lower.MapsOrdered) (ht : top.MapsOrdered) :
    (lower.overlay top).MapsOrdered := by
  rw [MapsOrdered, toJson_overlay]
  exact Json.MapsOrdered.overlay hl ht

theorem lookup_overlay_leaf {lower top : Tree} {p : Path} {w : Json} (ht : top.MapsOrdered)
    (hw : (lower.overlay top).lookup p = some w) (hleaf : w.isObject = false) :
    top.lookup p = some w ∨ (top.lookup p = none ∧ lower.lookup p = some w) := by
  have hp : p ≠ [] := ne_nil_of_lookup hw
  rw [lookup_of_ne_nil _ hp, toJson_overlay] at hw
  rw [lookup_of_ne_nil _ hp, lookup_of_ne_nil _ hp]
  exact Json.lookup_overlay_leaf ht hw hleaf

theorem lookup_overlay_of_absent {lower top : Tree} {p : Path} (ht : top.MapsOrdered)
    (hnone : top.lookup p = none)
    (hmaps : ∀ q v, q <+: p → top.lookup q = some v → v.isObject = true) :
    (lower.overlay top).lookup p = lower.lookup p := by
  cases p with
  | nil => rfl
  | cons key rest =>
    rw [lookup_cons, lookup_cons, toJson_overlay]
    refine Json.lookup_overlay_of_absent ht hnone ?_
    intro q v hq hv
    cases q with
    | nil =>
      rw [Json.lookup_nil] at hv
      cases hv
      rfl
    | cons k tail => exact hmaps (k :: tail) v hq hv

end Tree

end IndexKeeper
