import IndexKeeper.Proofs.Settings.Difference
import IndexKeeper.Proofs.Settings.Order

/-!
# What the comparison of settings decides

`DiffersAt` says what a difference is, by look-up alone: an observed leaf that the desired settings
have a value for, of another text.  `changes?_decides` is all that `changes?` says of two trees: it
asks for a change if there is a difference, and with fixed settings enforced it refuses instead if
there is one at a fixed setting, and names the one whose path comes first, whatever else differs
before or after it.

The order of the paths comes in because differences are met in the order of the observed leaves
(`pairwise_differences`); and since the list of differences is determined by what is in it,
the answer depends on nothing else (`changes?_congr`).  A key that only one of two maps has is on
the way to no difference, and may as well be left out (`sharedWith`).
-/

namespace IndexKeeper

/-! ## Keys that two values share -/

namespace Json

mutual

/-- A value without the keys that another one lacks, wherever the two have maps. -/
def sharedWith : Json → Json → Json
  | obj ms, obj others => obj (sharedMembers ms others)
  | v, _ => v

/-- The members under keys that are also keys of other members. -/
def sharedMembers : List (String × Json) → List (String × Json) → List (String × Json)
  | [], _ => []
  | (key, v) :: rest, others =>
    match Keyed.get? key others with
    | none => sharedMembers rest others
    | some w => (key, sharedWith v w) :: sharedMembers rest others

end

theorem sharedWith_of_leaf {v : Json} (h : v.isObject = false) (other : Json) :
    v.sharedWith other = v := by
  cases v with
  | obj ms => simp [isObject] at h
  | _ => simp [sharedWith]

theorem sharedWith_leaf {other : Json} (h : other.isObject = false) (v : Json) :
    v.sharedWith other = v := by
  cases other with
  | obj others => simp [isObject] at h
  | _ => cases v <;> simp [sharedWith]

@[simp] theorem isObject_sharedWith (v other : Json) :
    (v.sharedWith other).isObject = v.isObject := by
  cases v <;> cases other <;> simp [sharedWith, isObject]

@[simp] theorem sharedWith_obj_obj (ms others : List (String × Json)) :
    (obj ms).sharedWith (obj others) = obj (sharedMembers ms others) := by
  rw [sharedWith]

theorem get?_sharedMembers (key : String) (ms others : List (String × Json)) :
    Keyed.get? key (sharedMembers ms others) =
      (Keyed.get? key others).bind fun w => (Keyed.get? key ms).map fun v => v.sharedWith w := by
  induction ms with
  | nil => simp [sharedMembers]
  | cons e rest ih =>
    obtain ⟨k, v⟩ := e
    rw [sharedMembers]
    by_cases hk : k = key
    · subst hk
      rw [Keyed.get?_cons, if_pos rfl]
      split
      · next hnone => rw [ih, hnone, Option.bind_none, Option.bind_none]
      · next w hw => rw [hw, Keyed.get?_cons, if_pos rfl]; rfl
    · rw [Keyed.get?_cons, if_neg hk, ← ih]
      split
      · rfl
      · rw [Keyed.get?_cons, if_neg hk]

theorem exists_of_mem_sharedMembers {others ms : List (String × Json)} {e : String × Json}
    (h : e ∈ sharedMembers ms others) : ∃ v, (e.1, v) ∈ ms := by
  induction ms with
  | nil => simp [sharedMembers] at h
  | cons first rest ih =>
    obtain ⟨k, v⟩ := first
    rw [sharedMembers] at h
    split at h
    · obtain ⟨u, hu⟩ := ih h
      exact ⟨u, List.mem_cons_of_mem _ hu⟩
    · rcases List.mem_cons.mp h with rfl | hrest
      · exact ⟨v, List.mem_cons_self⟩
      · obtain ⟨u, hu⟩ := ih hrest
        exact ⟨u, List.mem_cons_of_mem _ hu⟩

theorem ordered_sharedMembers {ms : List (String × Json)} (h : Keyed.Ordered ms)
    (others : List (String × Json)) : Keyed.Ordered (sharedMembers ms others) := by
  induction ms with
  | nil =>
    rw [sharedMembers]
    exact h
  | cons e rest ih =>
    obtain ⟨k, v⟩ := e
    obtain ⟨hhead, htail⟩ := List.pairwise_cons.1 h
    rw [sharedMembers]
    split
    · exact ih htail
    · refine List.pairwise_cons.2 ⟨?_, ih htail⟩
      intro f hf
      obtain ⟨u, hu⟩ := exists_of_mem_sharedMembers hf
      exact hhead (f.1, u) hu

/-- Where both values have something, so has what they share. -/
theorem lookup_sharedWith {v other x y : Json} {p : Path} (hx : v.lookup p = some x)
    (hy : other.lookup p = some y) : (v.sharedWith other).lookup p = some (x.sharedWith y) := by
  induction p generalizing v other with
  | nil =>
    rw [lookup_nil] at hx hy ⊢
    cases hx
    cases hy
    rfl
  | cons key rest ih =>
    cases v with
    | obj ms =>
      cases other with
      | obj others =>
        obtain ⟨u, hu, hrest⟩ := Option.bind_eq_some_iff.mp hx
        obtain ⟨w, hw, hrest'⟩ := Option.bind_eq_some_iff.mp hy
        rw [sharedWith_obj_obj, lookup_obj_cons, get?_sharedMembers, hw, hu]
        exact ih hrest hrest'
      | _ => cases hy
    | _ => cases hx

/-- What is shared was there before, with all the keys that are left. -/
theorem exists_lookup_of_sharedWith {v other x : Json} {p : Path}
    (hx : (v.sharedWith other).lookup p = some x) :
    ∃ y w, v.lookup p = some y ∧ x = y.sharedWith w := by
  induction p generalizing v other with
  | nil =>
    rw [lookup_nil] at hx
    cases hx
    exact ⟨v, other, lookup_nil v, rfl⟩
  | cons key rest ih =>
    cases v with
    | obj ms =>
      cases other with
      | obj others =>
        rw [sharedWith_obj_obj, lookup_obj_cons, get?_sharedMembers] at hx
        obtain ⟨u', hu', hrest⟩ := Option.bind_eq_some_iff.mp hx
        obtain ⟨w, _, hu'⟩ := Option.bind_eq_some_iff.mp hu'
        obtain ⟨u, hu, rfl⟩ := Option.map_eq_some_iff.mp hu'
        obtain ⟨y, z, hy, rfl⟩ := ih hrest
        exact ⟨y, z, by rw [lookup_obj_cons, hu]; exact hy, rfl⟩
      | _ =>
        rw [sharedWith_leaf rfl] at hx
        exact ⟨x, null, hx, (sharedWith_leaf rfl x).symm⟩
    | _ =>
      rw [sharedWith_of_leaf rfl] at hx
      cases hx

theorem MapsOrdered.sharedWith {v : Json} (h : v.MapsOrdered) (other : Json) :
    (v.sharedWith other).MapsOrdered := by
  intro p left hp
  obtain ⟨y, w, hy, heq⟩ := exists_lookup_of_sharedWith hp
  cases y with
  | obj ms =>
    have hms : Keyed.Ordered ms := h p ms hy
    cases w with
    | obj others =>
      rw [sharedWith_obj_obj] at heq
      cases heq
      exact ordered_sharedMembers hms others
    | _ =>
      rw [sharedWith_leaf rfl] at heq
      cases heq
      exact hms
  | _ =>
    rw [sharedWith_of_leaf rfl] at heq
    cases heq

end Json

namespace Tree

/-- A tree without the keys that another one lacks, wherever the two have maps. -/
def sharedWith (t other : Tree) : Tree := ⟨Json.sharedMembers t.members other.members⟩

theorem toJson_sharedWith (t other : Tree) :
    (t.sharedWith other).toJson = t.toJson.sharedWith other.toJson := by
  rw [toJson, toJson, toJson, Json.sharedWith_obj_obj, sharedWith]

theorem MapsOrdered.sharedWith {t : Tree} (h : t.MapsOrdered) (other : Tree) :
    (t.sharedWith other).MapsOrdered := by
  rw [MapsOrdered, toJson_sharedWith]
  exact Json.MapsOrdered.sharedWith h other.toJson

/-! ## Differences -/

/-- At a path the observed tree has a leaf and the desired one a value, of two texts. -/
def DiffersAt (desired observed : Tree) (p : Path) (was want : String) : Prop :=
  ∃ v w, desired.lookup p = some v ∧ observed.lookup p = some w ∧ w.isObject = false ∧
    v.canonicalText = want ∧ w.canonicalText = was ∧ want ≠ was

/-- At a path the two trees differ. -/
def Differs (desired observed : Tree) (p : Path) : Prop :=
  ∃ was want, DiffersAt desired observed p was want

variable {desired observed : Tree}

/-- A path has one text on either side. -/
theorem DiffersAt.unique {p : Path} {was want was' want' : String}
    (h : DiffersAt desired observed p was want) (h' : DiffersAt desired observed p was' want') :
    was = was' ∧ want = want' := by
  obtain ⟨v, w, hv, hw, _, rfl, rfl, _⟩ := h
  obtain ⟨v', w', hv', hw', _, rfl, rfl, _⟩ := h'
  rw [hv] at hv'
  rw [hw] at hw'
  cases hv'
  cases hw'
  exact ⟨rfl, rfl⟩

theorem mem_differences_iff_differsAt (h : observed.MapsOrdered) {d : Difference} :
    d ∈ differences desired observed ↔ DiffersAt desired observed d.path d.observed d.desired :=
  mem_differences_iff_lookup h

/-- Differences are met in the order of their paths. -/
theorem pairwise_differences (h : observed.MapsOrdered) :
    (differences desired observed).Pairwise fun a b => a.path.Precedes b.path := by
  rw [differences, List.pairwise_filterMap]
  refine (pairwise_leafPaths h).imp ?_
  intro p q hpq a ha b hb
  obtain ⟨rfl, _⟩ := difference?_eq_some_iff.mp ha
  obtain ⟨rfl, _⟩ := difference?_eq_some_iff.mp hb
  exact hpq

/-! ## Answers -/

/-- The answer depends on the differences and on nothing else. -/
theorem changes?_congr {desired' observed' : Tree} (h : observed.MapsOrdered)
    (h' : observed'.MapsOrdered)
    (hsame : ∀ p was want, DiffersAt desired observed p was want ↔
      DiffersAt desired' observed' p was want) (enforce : Bool) :
    changes? desired observed enforce = changes? desired' observed' enforce := by
  have hlist : differences desired observed = differences desired' observed' := by
    refine eq_of_pairwise_precedes (pairwise_differences h) (pairwise_differences h') ?_
    intro d
    rw [mem_differences_iff_differsAt h, mem_differences_iff_differsAt h', hsame]
  rw [changes?, changes?, hlist]

/-- Keys that only one of two maps has are on the way to no difference. -/
theorem differsAt_sharedWith_iff {p : Path} {was want : String} :
    DiffersAt (desired.sharedWith observed) (observed.sharedWith desired) p was want ↔
      DiffersAt desired observed p was want := by
  constructor
  · rintro ⟨v', w', hv', hw', hleaf, htexts⟩
    have hp : p ≠ [] := ne_nil_of_lookup hv'
    rw [lookup_of_ne_nil _ hp, toJson_sharedWith] at hv' hw'
    obtain ⟨v, _, hv, _⟩ := Json.exists_lookup_of_sharedWith hv'
    obtain ⟨w, _, hw, _⟩ := Json.exists_lookup_of_sharedWith hw'
    rw [Json.lookup_sharedWith hv hw, Option.some.injEq] at hv'
    rw [Json.lookup_sharedWith hw hv, Option.some.injEq] at hw'
    -- at an observed leaf the two values are whole
    rw [← hw', Json.isObject_sharedWith] at hleaf
    rw [Json.sharedWith_leaf hleaf] at hv'
    rw [Json.sharedWith_of_leaf hleaf] at hw'
    subst hv' hw'
    rw [← lookup_of_ne_nil _ hp] at hv hw
    exact ⟨v, w, hv, hw, hleaf, htexts⟩
  · rintro ⟨v, w, hv, hw, hleaf, htexts⟩
    have hp : p ≠ [] := ne_nil_of_lookup hv
    rw [lookup_of_ne_nil _ hp] at hv hw
    refine ⟨v, w, ?_, ?_, hleaf, htexts⟩
    · rw [lookup_of_ne_nil _ hp, toJson_sharedWith, Json.lookup_sharedWith hv hw,
        Json.sharedWith_leaf hleaf]
    · rw [lookup_of_ne_nil _ hp, toJson_sharedWith, Json.lookup_sharedWith hw hv,
        Json.sharedWith_of_leaf hleaf]

/-- What is answered, if there is an answer: whether the trees differ. -/
theorem changed_iff_of_changes? (h : observed.MapsOrdered) {enforce changed : Bool}
    (hanswer : changes? desired observed enforce = .ok changed) :
    changed = true ↔ ∃ p, Differs desired observed p := by
  rw [(changes?_eq_ok_iff.mp hanswer).2]
  constructor
  · intro hfound
    obtain ⟨d, hd⟩ : ∃ d, d ∈ differences desired observed := by
      rw [← List.isEmpty_eq_false_iff_exists_mem]
      simpa using hfound
    exact ⟨d.path, d.observed, d.desired, (mem_differences_iff_differsAt h).mp hd⟩
  · rintro ⟨p, was, want, hp⟩
    have hd : ⟨p, was, want⟩ ∈ differences desired observed :=
      (mem_differences_iff_differsAt h).mpr hp
    rw [Bool.not_eq_true', List.isEmpty_eq_false_iff_exists_mem]
    exact ⟨_, hd⟩

/-- There is an answer exactly if no difference at a fixed setting is to be refused. -/
theorem exists_changes?_eq_ok_iff (h : observed.MapsOrdered) {enforce : Bool} :
    (∃ changed, changes? desired observed enforce = .ok changed) ↔
      (enforce = true → ∀ p, Differs desired observed p → isFixed p = false) := by
  constructor
  · rintro ⟨changed, hanswer⟩ henforce p ⟨was, want, hp⟩
    exact (changes?_eq_ok_iff.mp hanswer).1 henforce ⟨p, was, want⟩
      ((mem_differences_iff_differsAt h).mpr hp)
  · intro hnone
    refine ⟨_, changes?_eq_ok_iff.mpr ⟨?_, rfl⟩⟩
    intro henforce d hd
    exact hnone henforce d.path
      ⟨d.observed, d.desired, (mem_differences_iff_differsAt h).mp hd⟩

/-- What is refused is the first of the differences at fixed settings. -/
theorem first_of_changes?_error (h : observed.MapsOrdered) {f : Fault}
    (herror : changes? desired observed true = .error f) :
    ∃ p was want, DiffersAt desired observed p was want ∧ isFixed p = true ∧
      (∀ q, Differs desired observed q → isFixed q = true → q = p ∨ p.Precedes q) ∧
      f = .immutableSetting p.dotted was want := by
  rw [changes?] at herror
  cases hfind : (differences desired observed).find? fun d => true && isFixed d.path with
  | none =>
    rw [hfind] at herror
    cases herror
  | some d =>
    rw [hfind] at herror
    cases herror
    obtain ⟨hfixed, before, after, hlist, hbefore⟩ := List.find?_eq_some_iff_append.mp hfind
    have hd : d ∈ differences desired observed := List.mem_of_find?_eq_some hfind
    refine ⟨d.path, d.observed, d.desired, (mem_differences_iff_differsAt h).mp hd,
      by simpa using hfixed, ?_, rfl⟩
    rintro q ⟨was, want, hq⟩ hqfixed
    have hmem : ⟨q, was, want⟩ ∈ before ++ d :: after :=
      hlist ▸ (mem_differences_iff_differsAt h).mpr hq
    have hsorted : (before ++ d :: after).Pairwise fun a b => a.path.Precedes b.path :=
      hlist ▸ pairwise_differences h
    -- the differences before it are at no fixed setting, those after it have later paths
    rcases List.mem_append.mp hmem with hearlier | hrest
    · have hnot := hbefore _ hearlier
      simp [hqfixed] at hnot
    · rcases List.mem_cons.mp hrest with rfl | hlater
      · exact Or.inl rfl
      · have htail := (List.pairwise_append.mp hsorted).2.1
        exact Or.inr ((List.pairwise_cons.mp htail).1 _ hlater)

/-- A refusal at a fixed setting is the refusal of the first difference at one. -/
theorem changes?_eq_error_iff (h : observed.MapsOrdered) {f : Fault} :
    changes? desired observed true = .error f ↔
      ∃ p was want, DiffersAt desired observed p was want ∧ isFixed p = true ∧
        (∀ q, Differs desired observed q → isFixed q = true → q = p ∨ p.Precedes q) ∧
        f = .immutableSetting p.dotted was want := by
  refine ⟨first_of_changes?_error h, ?_⟩
  rintro ⟨p, was, want, hp, hfixed, hfirst, rfl⟩
  have hd : ⟨p, was, want⟩ ∈ differences desired observed :=
    (mem_differences_iff_differsAt h).mpr hp
  obtain ⟨f, hf⟩ := changes?_of_fixed_difference hd hfixed
  obtain ⟨q, was', want', hq, hqfixed, hqfirst, rfl⟩ := first_of_changes?_error h hf
  -- two first paths are one
  have hsame : q = p := by
    rcases hfirst q ⟨was', want', hq⟩ hqfixed with heq | hlt
    · exact heq
    · rcases hqfirst p ⟨was, want, hp⟩ hfixed with heq | hgt
      · exact heq.symm
      · exact absurd hgt hlt.asymm
  subst hsame
  obtain ⟨rfl, rfl⟩ := hp.unique hq
  exact hf

/-- All that the comparison of settings says: without enforcement whether the trees differ, never a
fault; with it the first difference at a fixed setting, if there is one, and else whether they
differ.  Keys that one side lacks have no part in it. -/
theorem changes?_decides (h : observed.MapsOrdered) :
    (∃ changed, changes? desired observed false = .ok changed ∧
      (changed = true ↔ ∃ p, Differs desired observed p)) ∧
    (∀ f, changes? desired observed true = .error f ↔
      ∃ p was want, DiffersAt desired observed p was want ∧ isFixed p = true ∧
        (∀ q, Differs desired observed q → isFixed q = true → q = p ∨ p.Precedes q) ∧
        f = .immutableSetting p.dotted was want) ∧
    ((∃ p, Differs desired observed p ∧ isFixed p = true) →
      ∃ f, changes? desired observed true = .error f) ∧
    ((¬ ∃ p, Differs desired observed p ∧ isFixed p = true) →
      ∃ changed, changes? desired observed true = .ok changed ∧
        (changed = true ↔ ∃ p, Differs desired observed p)) ∧
    ∀ enforce, changes? (desired.sharedWith observed) (observed.sharedWith desired) enforce =
      changes? desired observed enforce := by
  refine ⟨?_, fun f => changes?_eq_error_iff h, ?_, ?_, ?_⟩
  · have hanswers : ∃ changed, changes? desired observed false = .ok changed :=
      (exists_changes?_eq_ok_iff h).mpr fun henforce => by cases henforce
    obtain ⟨changed, hanswer⟩ := hanswers
    exact ⟨changed, hanswer, changed_iff_of_changes? h hanswer⟩
  · rintro ⟨p, ⟨was, want, hp⟩, hfixed⟩
    have hd : ⟨p, was, want⟩ ∈ differences desired observed :=
      (mem_differences_iff_differsAt h).mpr hp
    exact changes?_of_fixed_difference hd hfixed
  · intro hnone
    have hanswers : ∃ changed, changes? desired observed true = .ok changed := by
      rw [exists_changes?_eq_ok_iff h]
      intro _ p hp
      rw [← Bool.not_eq_true]
      exact fun hfixed => hnone ⟨p, hp, hfixed⟩
    obtain ⟨changed, hanswer⟩ := hanswers
    exact ⟨changed, hanswer, changed_iff_of_changes? h hanswer⟩
  · intro enforce
    exact changes?_congr (h.sharedWith desired) h (fun _ _ _ => differsAt_sharedWith_iff) enforce

/-- A difference at a fixed setting is refused, with others before and after it. -/
theorem changes?_decides_codec :
    ∃ f, changes?
      ⟨[("index", .obj [("a", .str "1"), ("codec", .str "x"), ("hidden", .str "true")])]⟩
      ⟨[("index", .obj [("a", .str "2"), ("codec", .str "y"), ("hidden", .str "false"),
        ("uuid", .str "z")])]⟩ true = .error f := by
  have h : MapsOrdered ⟨[("index", .obj [("a", .str "2"), ("codec", .str "y"),
      ("hidden", .str "false"), ("uuid", .str "z")])]⟩ := by
    refine Ordered.mapsOrdered ?_
    simp only [Ordered, toJson, Json.Ordered, Json.OrderedMembers, Keyed.Ordered]
    decide
  refine (changes?_decides h).2.2.1 ⟨["index", "codec"], ⟨"y", "x", .str "x", .str "y", ?_⟩, ?_⟩
  · exact ⟨rfl, rfl, rfl, rfl, rfl, by decide⟩
  · decide

example :
    changes? ⟨[("index", .obj [("a", .str "1"), ("codec", .str "x"), ("hidden", .str "true")])]⟩
      ⟨[("index", .obj [("a", .str "2"), ("codec", .str "y"), ("hidden", .str "false"),
        ("uuid", .str "z")])]⟩ true =
      .error (.immutableSetting "index.codec" "y" "x") := by
  cbv

end Tree

end IndexKeeper
