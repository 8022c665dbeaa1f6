import IndexKeeper.Manifest.Spec
import IndexKeeper.Proofs.Settings.Difference

/-!
# Settings of a declared index

What the form of declared settings leaves possible: the maps on the way to the fixed settings are
maps, whatever is declared.  `index` is one because all settings are put below it, and
`index.shard` because its form is a group; expanding and merging keep a map a map
(`isObject_of_expandMembers`).
-/

namespace IndexKeeper

/-! ## Entries of a form -/

namespace Form

/-- Every entry that was read stands in the table of forms and was read by its form. -/
theorem mem_of_readFields? {fields : List (String × Form)} {r : Json.Record}
    {entries : List (String × Entry)} (h : readFields? fields r = some entries) {name : String}
    {entry : Entry} (hmem : (name, entry) ∈ entries) :
    ∃ form v, (name, form) ∈ fields ∧ read? form v = some entry := by
  induction fields generalizing entries with
  | nil =>
    rw [readFields?] at h
    cases h
    cases hmem
  | cons field rest ih =>
    obtain ⟨first, form⟩ := field
    have hlater : ∀ {entries}, readFields? rest r = some entries → (name, entry) ∈ entries →
        ∃ form' v, (name, form') ∈ (first, form) :: rest ∧ read? form' v = some entry := by
      intro entries hrest hmem
      obtain ⟨form', v, hform, hread⟩ := ih hrest hmem
      exact ⟨form', v, List.mem_cons_of_mem _ hform, hread⟩
    rw [readFields?.eq_def] at h
    dsimp only at h
    split at h
    · exact hlater h hmem
    · exact hlater h hmem
    · next v _ _ =>
      split at h
      · next found others hfound hothers =>
        cases h
        rcases List.mem_cons.mp hmem with heq | htail
        · cases heq
          exact ⟨form, v, List.mem_cons_self, hfound⟩
        · exact hlater hothers htail
      · cases h

/-- What a group reads is written as a map. -/
theorem isObject_of_read?_group {name : String} {fields : List (String × Form)} {v : Json}
    {entry : Entry} (h : read? (group name fields) v = some entry) :
    entry.toJson.isObject = true := by
  rw [read?, Option.bind_eq_some_iff] at h
  obtain ⟨r, _, h⟩ := h
  obtain ⟨entries, _, rfl⟩ := Option.map_eq_some_iff.mp h
  rw [Entry.toJson]
  rfl

end Form

theorem Entry.mem_of_mem_toMembers {entries : List (String × Entry)} {name : String} {v : Json}
    (h : (name, v) ∈ toMembers entries) : ∃ entry, (name, entry) ∈ entries ∧ v = entry.toJson := by
  induction entries with
  | nil =>
    rw [toMembers] at h
    cases h
  | cons first rest ih =>
    obtain ⟨firstName, firstEntry⟩ := first
    rw [toMembers] at h
    rcases List.mem_cons.mp h with heq | htail
    · cases heq
      exact ⟨firstEntry, List.mem_cons_self, rfl⟩
    · obtain ⟨entry, hmem, hv⟩ := ih htail
      exact ⟨entry, List.mem_cons_of_mem _ hmem, hv⟩

/-- A map is written under `shard`, if anything is. -/
theorem IndexSettings.isObject_of_shard {j : Json} {s : IndexSettings} (h : ofJson? j = some s)
    {v : Json} (hmem : ("shard", v) ∈ Entry.toMembers s.entries) : v.isObject = true := by
  rw [ofJson?, Option.bind_eq_some_iff] at h
  obtain ⟨r, _, h⟩ := h
  obtain ⟨entries, hread, rfl⟩ := Option.map_eq_some_iff.mp h
  obtain ⟨entry, hentry, rfl⟩ := Entry.mem_of_mem_toMembers hmem
  obtain ⟨form, w, hform, hw⟩ := Form.mem_of_readFields? hread hentry
  -- the table has one form under this name, and it is a group
  have hgroup : ∃ name fields, form = .group name fields := by
    simp [fields, IndexSettings.positive, flag, anyText] at hform
    exact ⟨_, _, hform⟩
  obtain ⟨name, fields, rfl⟩ := hgroup
  exact Form.isObject_of_read?_group hw

/-! ## Expansion keeps maps -/

namespace Json

theorem get?_mergeAt {key : String} {value : Json} {ms merged : List (String × Json)}
    (h : mergeAt key value ms = some merged) :
    ∃ v, merged = Keyed.insert key v ms ∧ (value.isObject = true → v.isObject = true) := by
  cases value with
  | obj incoming =>
    rw [mergeAt] at h
    split at h
    · cases h
      exact ⟨_, rfl, fun _ => rfl⟩
    · obtain ⟨below, _, rfl⟩ := Option.map_eq_some_iff.mp h
      exact ⟨_, rfl, fun _ => rfl⟩
    · cases h
  | _ =>
    rw [mergeAt] at h
    · split at h
      · cases h
        exact ⟨_, rfl, fun hobj => hobj⟩
      · cases h
    · intro incoming hobj
      cases hobj

/-- Putting a value at a path changes what is under the first key only: to a map, if the path goes
on or the value is one. -/
theorem get?_mergeAtPath {value : Json} {key : String} {rest : Path}
    {ms merged : List (String × Json)} (h : mergeAtPath value (key :: rest) ms = some merged) :
    ∃ v, merged = Keyed.insert key v ms ∧
      ((rest = [] → value.isObject = true) → v.isObject = true) := by
  cases rest with
  | nil =>
    rw [mergeAtPath] at h
    obtain ⟨v, hv, hobj⟩ := get?_mergeAt h
    exact ⟨v, hv, fun hvalue => hobj (hvalue rfl)⟩
  | cons next more =>
    rw [mergeAtPath] at h
    · split at h
      · obtain ⟨below, _, rfl⟩ := Option.map_eq_some_iff.mp h
        exact ⟨_, rfl, fun _ => rfl⟩
      · obtain ⟨below, _, rfl⟩ := Option.map_eq_some_iff.mp h
        exact ⟨_, rfl, fun _ => rfl⟩
      · cases h
    · simp

/-- An expansion of a map is a map. -/
theorem isObject_of_expand {v w : Json} (h : expand v = .ok w) (hobj : v.isObject = true) :
    w.isObject = true := by
  obtain ⟨ms, rfl⟩ := eq_obj_of_isObject hobj
  rw [expand] at h
  cases hms : expandMembers ms [] with
  | error conflict =>
    rw [hms] at h
    cases h
  | ok expanded =>
    rw [hms] at h
    cases h
    rfl

/-- What is under a key is a map after an expansion, if it was one before and every member that is
put just there is one. -/
theorem isObject_of_expandMembers {key : String} {members ms expanded : List (String × Json)}
    (h : expandMembers members ms = .ok expanded)
    (hmembers : ∀ e ∈ members, Path.ofDotted e.1 = [key] → e.2.isObject = true)
    (hms : ∀ v, Keyed.get? key ms = some v → v.isObject = true) {v : Json}
    (hv : Keyed.get? key expanded = some v) : v.isObject = true := by
  induction members generalizing ms with
  | nil =>
    rw [expandMembers] at h
    cases h
    exact hms v hv
  | cons e rest ih =>
    obtain ⟨first, value⟩ := e
    rw [expandMembers] at h
    split at h
    · cases h
    · next w hw =>
      split at h
      · cases h
      · next merged hmerged =>
        refine ih h (fun e he => hmembers e (List.mem_cons_of_mem _ he)) ?_
        intro u hu
        -- only the first key of the path is touched at this level
        obtain ⟨head, tail, hpath⟩ := List.exists_cons_of_ne_nil (Path.ofDotted_ne_nil first)
        rw [hpath] at hmerged
        obtain ⟨put, rfl, hput⟩ := get?_mergeAtPath hmerged
        rw [Keyed.get?_insert] at hu
        split at hu
        · next hkey =>
          cases hu
          apply hput
          rintro rfl
          refine isObject_of_expand hw (hmembers (first, value) List.mem_cons_self ?_)
          rw [hpath, hkey]
        · exact hms u hu

end Json

/-! ## Declared indices -/

/-- The tree of declared settings is what they expand to, below `index`. -/
theorem IndexSettings.exists_expanded_of_toTree {s : IndexSettings} {t : Tree}
    (h : s.toTree = .ok t) :
    ∃ ms, Json.expandMembers (Keyed.ofList (Entry.toMembers s.entries)) [] = .ok ms ∧
      t = ⟨[("index", .obj ms)]⟩ := by
  have hindex : Path.ofDotted "index" = ["index"] := by decide
  rw [toTree, toJson, Entry.toJson, Json.ofMembers, Tree.ofSettings?, Json.expandMembers,
    Json.expand] at h
  cases hms : Json.expandMembers (Keyed.ofList (Entry.toMembers s.entries)) [] with
  | error conflict =>
    rw [hms] at h
    cases h
  | ok ms =>
    rw [hms, hindex] at h
    simp only [Except.map, Json.mergeAtPath, Json.mergeAt, Keyed.get?_nil, Keyed.insert,
      Json.expandMembers, Except.ok.injEq] at h
    exact ⟨ms, rfl, h.symm⟩

namespace Desired

/-- What the declaration of an index, read from a value, asks for. -/
def DeclaredIndex (d : Desired) : Prop :=
  ∃ v s, Spec.ofJson? .index v = some s ∧ s.toDesired = .ok d

/-- A declared index has no template part, and of its settings `shard` is a map. -/
theorem DeclaredIndex.exists_settings {d : Desired} (h : d.DeclaredIndex) :
    d.template = none ∧ ∃ s : IndexSettings, s.toTree = .ok d.settings ∧
      ∀ v, ("shard", v) ∈ Entry.toMembers s.entries → v.isObject = true := by
  obtain ⟨v, s, hread, hdesired⟩ := h
  simp only [Spec.ofJson?, Option.bind_eq_bind, Option.bind_eq_some_iff] at hread
  obtain ⟨r, _, name, _, dropOnDelete, _, settings, hsettings, mappings, _, template, htemplate,
    hs⟩ := hread
  cases htemplate
  cases hs
  rw [Spec.toDesired] at hdesired
  split at hdesired
  · cases htree : settings.toTree with
    | error m =>
      simp only [Spec.desired, htree] at hdesired
      cases hdesired
    | ok tree =>
      cases hschema : Spec.readMappings mappings with
      | error m =>
        simp only [Spec.desired, htree, hschema] at hdesired
        cases hdesired
      | ok schema =>
        simp only [Spec.desired, htree, hschema] at hdesired
        cases hdesired
        refine ⟨rfl, settings, htree, ?_⟩
        rw [Json.Record.default?] at hsettings
        split at hsettings
        · cases hsettings
          intro v hv
          rw [Entry.toMembers] at hv
          cases hv
        · exact fun v hv => IndexSettings.isObject_of_shard hsettings hv
  · cases hdesired

theorem DeclaredIndex.enforcesFixed {d : Desired} (h : d.DeclaredIndex) :
    d.enforcesFixed = true := by
  rw [Desired.enforcesFixed, h.exists_settings.1]
  rfl

theorem DeclaredIndex.expanded {d : Desired} (h : d.DeclaredIndex) : d.settings.Expanded := by
  obtain ⟨_, s, htree, _⟩ := h.exists_settings
  exact Tree.expanded_of_ofSettings? htree

/-- The proper prefixes of the fixed settings. -/
theorem take_ofDotted_of_fixed :
    ∀ key ∈ Tree.fixedSettings, ∀ n < (Path.ofDotted key).length, n ≠ 0 →
      (Path.ofDotted key).take n = ["index"] ∨ (Path.ofDotted key).take n = ["index", "shard"] := by
  decide

/-- What a declared index holds above a fixed setting is a map. -/
theorem DeclaredIndex.isObject_above_fixed {d : Desired} (h : d.DeclaredIndex) {key : String}
    (hkey : key ∈ Tree.fixedSettings) {q : Path} (hq : q <+: Path.ofDotted key)
    (hne : q ≠ Path.ofDotted key) {v : Json} (hv : d.settings.lookup q = some v) :
    v.isObject = true := by
  obtain ⟨_, s, htree, hshard⟩ := h.exists_settings
  obtain ⟨ms, hms, hroot⟩ := IndexSettings.exists_expanded_of_toTree htree
  have hlt : q.length < (Path.ofDotted key).length := by
    have hle := hq.length_le
    have hneq : q.length ≠ (Path.ofDotted key).length := fun heq => hne (hq.eq_of_length heq)
    omega
  have hlen : q.length ≠ 0 := by
    intro hzero
    exact Tree.ne_nil_of_lookup hv (List.length_eq_zero_iff.mp hzero)
  have htake : q = (Path.ofDotted key).take q.length := List.prefix_iff_eq_take.mp hq
  rw [hroot] at hv
  -- above a fixed setting there are only the root of all settings and the group of shards
  rcases take_ofDotted_of_fixed key hkey q.length hlt hlen with heq | heq
  · rw [htake, heq] at hv
    cases hv
    rfl
  · rw [htake, heq] at hv
    have hget : Keyed.get? "shard" ms = some v := by
      have hend : Json.lookup [] = some := funext Json.lookup_nil
      simpa [Tree.lookup, Tree.get?, Keyed.get?, hend] using hv
    refine Json.isObject_of_expandMembers hms ?_ (fun _ hnone => by cases hnone) hget
    rintro ⟨k, u⟩ hmem hpath
    -- a member that is put just at `shard` is named so
    have hk : k = "shard" := by
      have hdotted := Path.dotted_ofDotted k
      rw [hpath] at hdotted
      exact hdotted.symm
    subst hk
    exact hshard u (Keyed.mem_ofList hmem)

end Desired

end IndexKeeper
