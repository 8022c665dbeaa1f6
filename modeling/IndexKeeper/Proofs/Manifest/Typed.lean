import IndexKeeper.Proofs.Manifest.Declared

/-!
# Values of the typed settings

A table of forms is a type, and its values are the entries that fit it (`Form.Fits`): an integer of
the width of its field, any text, or a group with some of its fields set.  These are the entries
that can be read with the table, and each of them is read from what it is written as
(`Form.Fits.read?_toJson`), so declared settings are `Typed` exactly if some document gives them
(`IndexSettings.typed_iff`).

The fields of a group have different names without dots.  The table says so once
(`wellNamed_fields`), and its values have it from there (`Form.Fits.wellNamed`).
-/

namespace IndexKeeper

/-! ## Entries as members -/

namespace Entry

/-- The fields of every group have different names without dots. -/
inductive WellNamed : Entry → Prop
  | integer (i : Int) : WellNamed (.integer i)
  | text (s : String) : WellNamed (.text s)
  | group {entries : List (String × Entry)} (names : (Keyed.keys entries).Nodup)
    (undotted : ∀ field ∈ entries, '.' ∉ field.1.toList)
    (below : ∀ field ∈ entries, WellNamed field.2) : WellNamed (.group entries)

theorem WellNamed.fields {entries : List (String × Entry)} (h : WellNamed (.group entries)) :
    (Keyed.keys entries).Nodup ∧
      ∀ field ∈ entries, '.' ∉ field.1.toList ∧ field.2.WellNamed := by
  cases h with
  | group names undotted below => exact ⟨names, fun f hf => ⟨undotted f hf, below f hf⟩⟩

theorem toMembers_eq_map (entries : List (String × Entry)) :
    toMembers entries = entries.map fun field => (field.1, field.2.toJson) := by
  induction entries with
  | nil => rw [toMembers, List.map_nil]
  | cons field rest ih => rw [toMembers, List.map_cons, ih]

theorem keys_toMembers (entries : List (String × Entry)) :
    Keyed.keys (toMembers entries) = Keyed.keys entries := by
  rw [toMembers_eq_map, Keyed.keys, List.map_map]
  rfl

theorem nodup_keys_toMembers {entries : List (String × Entry)}
    (names : (Keyed.keys entries).Nodup) : (Keyed.keys (toMembers entries)).Nodup := by
  rw [keys_toMembers]
  exact names

theorem get?_toMembers (name : String) (entries : List (String × Entry)) :
    Keyed.get? name (toMembers entries) = (Keyed.get? name entries).map toJson := by
  induction entries with
  | nil => rfl
  | cons field rest ih =>
    rw [toMembers, Keyed.get?_cons, Keyed.get?_cons, ih]
    split <;> rfl

theorem toJson_ne_null (entry : Entry) : entry.toJson ≠ .null := by
  intro hnull
  cases entry with
  | integer i =>
    rw [toJson, Json.ofInt] at hnull
    cases hnull
  | text s =>
    rw [toJson] at hnull
    cases hnull
  | group fields =>
    rw [toJson, Json.ofMembers] at hnull
    cases hnull

end Entry

/-! ## Values of a form -/

namespace Form

/-- What holds of a group if it holds of its fields holds of every form. -/
@[elab_as_elim]
theorem induction {P : Form → Prop} (integer : ∀ bits range, P (.integer bits range))
    (text : ∀ choice, P (.text choice))
    (group : ∀ name fields, (∀ field ∈ fields, P field.2) → P (.group name fields)) :
    ∀ form, P form
  | .integer bits range => integer bits range
  | .text choice => text choice
  | .group name fields => group name fields fun field _ => induction integer text group field.2
termination_by form => sizeOf form
decreasing_by
  obtain ⟨first, form⟩ := field
  have hmem := List.sizeOf_lt_of_mem ‹(first, form) ∈ fields›
  simp only [Prod.mk.sizeOf_spec, Form.group.sizeOf_spec] at hmem ⊢
  omega

/-- An entry is a value of a form.  Of the fields of a group some are set, in their order. -/
inductive Fits : Form → Entry → Prop
  | integer {bits : Nat} {range : Option Range} {i : Int} (low : -Int.pow 2 (bits - 1) ≤ i)
    (high : i ≤ Int.pow 2 (bits - 1) - 1) : Fits (.integer bits range) (.integer i)
  | text {choice : Option Choice} {s : String} : Fits (.text choice) (.text s)
  | group {name : String} {fields : List (String × Form)} {entries : List (String × Entry)}
    (names : (Keyed.keys entries).Sublist (Keyed.keys fields))
    (below : ∀ field form entry, (field, form) ∈ fields → (field, entry) ∈ entries →
      Fits form entry) : Fits (.group name fields) (.group entries)

mutual

/-- Whether the fields of every group have different names without dots. -/
def wellNamed : Form → Bool
  | group _ fields => fieldsWellNamed fields
  | _ => true

/-- Whether fields have different names without dots, and so have the groups among them. -/
def fieldsWellNamed : List (String × Form) → Bool
  | [] => true
  | (name, form) :: rest =>
    !name.toList.contains '.' && !(Keyed.keys rest).contains name && wellNamed form &&
      fieldsWellNamed rest

end

theorem fieldsWellNamed_iff {fields : List (String × Form)} :
    fieldsWellNamed fields = true ↔ (Keyed.keys fields).Nodup ∧
      ∀ field ∈ fields, '.' ∉ field.1.toList ∧ field.2.wellNamed = true := by
  induction fields with
  | nil => simp [fieldsWellNamed, Keyed.keys]
  | cons field rest ih =>
    obtain ⟨name, form⟩ := field
    simp only [fieldsWellNamed, Bool.and_eq_true, Bool.not_eq_true', List.contains_iff_mem,
      ← Bool.not_eq_true, ih, Keyed.keys, List.map_cons, List.nodup_cons, List.forall_mem_cons]
    constructor
    · rintro ⟨⟨⟨hdot, hname⟩, hform⟩, hnames, hfields⟩
      exact ⟨⟨hname, hnames⟩, ⟨hdot, hform⟩, hfields⟩
    · rintro ⟨⟨hname, hnames⟩, ⟨hdot, hform⟩, hfields⟩
      exact ⟨⟨⟨hdot, hname⟩, hform⟩, hnames, hfields⟩

/-- A field that is set stands in the table. -/
theorem exists_form {fields : List (String × Form)} {entries : List (String × Entry)}
    (names : (Keyed.keys entries).Sublist (Keyed.keys fields)) {field : String × Entry}
    (h : field ∈ entries) : ∃ form, (field.1, form) ∈ fields :=
  Keyed.mem_keys_iff.mp (names.subset (Keyed.mem_keys_iff.mpr ⟨field.2, h⟩))

/-- A value of a form has the names of the form. -/
theorem Fits.wellNamed {form : Form} {entry : Entry} (h : form.Fits entry)
    (hform : form.wellNamed = true) : entry.WellNamed := by
  induction h with
  | integer _ _ => exact .integer _
  | text => exact .text _
  | @group name fields entries names _ ih =>
    rw [Form.wellNamed, fieldsWellNamed_iff] at hform
    obtain ⟨hnodup, hfields⟩ := hform
    refine .group (names.nodup hnodup) ?_ ?_
    · intro field hfield
      obtain ⟨form, hform⟩ := exists_form names hfield
      exact (hfields _ hform).1
    · intro field hfield
      obtain ⟨form, hform⟩ := exists_form names hfield
      exact ih field.1 form field.2 hform hfield (hfields _ hform).2

/-! ## Reading and writing -/

theorem keys_readFields?_sublist {fields : List (String × Form)} {r : Json.Record}
    {entries : List (String × Entry)} (h : readFields? fields r = some entries) :
    (Keyed.keys entries).Sublist (Keyed.keys fields) := by
  induction fields generalizing entries with
  | nil =>
    rw [readFields?] at h
    cases h
    exact .slnil
  | cons field rest ih =>
    obtain ⟨first, form⟩ := field
    rw [readFields?.eq_def] at h
    dsimp only at h
    split at h
    · exact (ih h).cons first
    · exact (ih h).cons first
    · split at h
      · next hothers =>
        cases h
        exact (ih hothers).cons_cons first
      · cases h

theorem fits_of_read? {form : Form} (hform : form.wellNamed = true) {v : Json} {entry : Entry}
    (h : read? form v = some entry) : form.Fits entry := by
  induction form using induction generalizing v entry with
  | integer bits range =>
    rw [read?] at h
    obtain ⟨i, hi, rfl⟩ := Option.map_eq_some_iff.mp h
    rw [Json.signed?, Json.intWithin?.eq_def] at hi
    split at hi
    · split at hi
      · next hwithin =>
        cases hi
        exact .integer hwithin.1 hwithin.2
      · cases hi
    · cases hi
  | text choice =>
    rw [read?] at h
    obtain ⟨s, _, rfl⟩ := Option.map_eq_some_iff.mp h
    exact .text
  | group name fields ih =>
    rw [read?, Option.bind_eq_some_iff] at h
    obtain ⟨r, _, h⟩ := h
    obtain ⟨entries, hread, rfl⟩ := Option.map_eq_some_iff.mp h
    rw [wellNamed, fieldsWellNamed_iff] at hform
    obtain ⟨hnames, hbelow⟩ := hform
    refine .group (keys_readFields?_sublist hread) ?_
    intro field form entry hfield hentry
    obtain ⟨form', w, hfield', hw⟩ := mem_of_readFields? hread hentry
    -- a name stands in the table once
    have hsame : form' = form := by
      have hget := Keyed.get?_of_mem hnames hfield
      rw [Keyed.get?_of_mem hnames hfield', Option.some.injEq] at hget
      exact hget
    subst hsame
    exact ih (field, form') hfield (hbelow _ hfield).2 hw

/-- Fields are read back from a record that has them as they are written.  The induction goes
through the table, and the next field that is set is either the next one of the table or a later
one. -/
theorem readFields?_of_field? {fields : List (String × Form)} {entries : List (String × Entry)}
    {r : Json.Record} (hnodup : (Keyed.keys fields).Nodup)
    (names : (Keyed.keys entries).Sublist (Keyed.keys fields))
    (hr : ∀ name ∈ Keyed.keys fields,
      r.field? name = (Keyed.get? name entries).map Entry.toJson)
    (hread : ∀ name form entry, (name, form) ∈ fields → (name, entry) ∈ entries →
      read? form entry.toJson = some entry) :
    readFields? fields r = some entries := by
  induction fields generalizing entries with
  | nil =>
    have hnil : entries = [] := List.map_eq_nil_iff.mp (List.sublist_nil.mp names)
    rw [readFields?, hnil]
  | cons field rest ih =>
    obtain ⟨first, form⟩ := field
    obtain ⟨hfirst, hrest⟩ := List.nodup_cons.mp hnodup
    have hhead : r.field? first = (Keyed.get? first entries).map Entry.toJson :=
      hr first List.mem_cons_self
    have htail : ∀ name ∈ Keyed.keys rest,
        r.field? name = (Keyed.get? name entries).map Entry.toJson :=
      fun name hname => hr name (List.mem_cons_of_mem _ hname)
    rw [readFields?.eq_def]
    rcases List.sublist_cons_iff.mp names with hsub | ⟨others, hkeys, hsub⟩
    · rw [Keyed.get?_of_notMem (mt (hsub.subset ·) hfirst)] at hhead
      simp only [hhead, Option.map_none]
      exact ih hrest hsub htail fun name form entry hform hentry =>
        hread name form entry (List.mem_cons_of_mem _ hform) hentry
    · obtain ⟨⟨_, entry⟩, others, rfl, rfl, rfl⟩ := List.map_eq_cons_iff.mp hkeys
      dsimp only at hhead hfirst htail hread ⊢
      rw [Keyed.get?_cons, if_pos rfl, Option.map_some] at hhead
      have hentry : read? form entry.toJson = some entry :=
        hread _ form entry List.mem_cons_self List.mem_cons_self
      have hothers : readFields? rest r = some others := by
        refine ih hrest hsub (fun name hname => ?_) fun name form entry hform hentry =>
          hread name form entry (List.mem_cons_of_mem _ hform) (List.mem_cons_of_mem _ hentry)
        rw [htail name hname, Keyed.get?_cons, if_neg]
        rintro rfl
        exact hfirst hname
      simp only [hhead]
      split
      · next hnone => cases hnone
      · next hnull => exact absurd (Option.some.inj hnull) entry.toJson_ne_null
      · next v _ _ hv =>
        cases hv
        rw [hentry, hothers]

/-- What an entry is written as is read as the entry. -/
theorem Fits.read?_toJson {form : Form} {entry : Entry} (h : form.Fits entry)
    (hform : form.wellNamed = true) : read? form entry.toJson = some entry := by
  induction h with
  | integer low high =>
    rw [Entry.toJson, read?, Json.ofInt, Json.signed?, Json.intWithin?, if_pos ⟨low, high⟩]
    rfl
  | text =>
    rw [Entry.toJson, read?]
    rfl
  | @group name fields entries names _ ih =>
    rw [Form.wellNamed, fieldsWellNamed_iff] at hform
    obtain ⟨hnodup, hfields⟩ := hform
    have hkeys := Entry.nodup_keys_toMembers (names.nodup hnodup)
    rw [Entry.toJson, Json.ofMembers, read?, Json.Record.read?, Option.bind_some,
      readFields?_of_field? hnodup names]
    · rfl
    · intro field _
      dsimp only
      rw [Keyed.get?_ofList hkeys, Entry.get?_toMembers]
    · intro field form entry hform hentry
      exact ih field form entry hform hentry (hfields _ hform).2

end Form

namespace IndexSettings

/-- The settings are a value of the table of fields. -/
def Typed (s : IndexSettings) : Prop :=
  Form.Fits (.group "IndexSettings" fields) (.group s.entries)

theorem wellNamed_fields : Form.wellNamed (.group "IndexSettings" fields) = true := by
  decide

theorem read?_fields (v : Json) :
    Form.read? (.group "IndexSettings" fields) v = (ofJson? v).map fun s => .group s.entries := by
  rw [Form.read?, ofJson?]
  cases Json.Record.read? (Keyed.keys fields) v with
  | none => rfl
  | some r =>
    rw [Option.bind_some, Option.bind_some, Option.map_map]
    rfl

theorem Typed.wellNamed {s : IndexSettings} (h : s.Typed) :
    Entry.WellNamed (.group s.entries) :=
  Form.Fits.wellNamed h wellNamed_fields

/-- Settings are read from what they are written as. -/
theorem Typed.ofJson?_toJson {s : IndexSettings} (h : s.Typed) : ofJson? s.toJson = some s := by
  have hread := Form.Fits.read?_toJson h wellNamed_fields
  rw [read?_fields] at hread
  obtain ⟨s', hs', hentries⟩ := Option.map_eq_some_iff.mp hread
  cases s
  cases hentries
  exact hs'

/-- The values of the table are the settings that can be read. -/
theorem typed_iff {s : IndexSettings} : s.Typed ↔ ∃ v, ofJson? v = some s := by
  constructor
  · exact fun h => ⟨s.toJson, h.ofJson?_toJson⟩
  · rintro ⟨v, hv⟩
    refine Form.fits_of_read? wellNamed_fields (v := v) ?_
    rw [read?_fields, hv]
    rfl

end IndexSettings

end IndexKeeper
