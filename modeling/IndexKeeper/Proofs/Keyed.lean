import IndexKeeper.Keyed

/-!
# Keyed entries as finite maps

In ordered entries a key leads to one value, so being an entry and being looked up are the same
thing.  `get?_insert` and `get?_erase` of ordered entries then say all there is to say about a
change, and a change that has nothing to do leaves the entries as they are.
-/

namespace IndexKeeper.Keyed

variable {α β : Type}

/-! ## Entries and their look-up -/

theorem mem_of_get? {key : String} {value : α} {entries : List (String × α)}
    (h : get? key entries = some value) : (key, value) ∈ entries := by
  induction entries with
  | nil => simp at h
  | cons e rest ih =>
    obtain ⟨k, v⟩ := e
    rw [get?_cons] at h
    split at h
    · next hk =>
      cases h
      rw [hk]
      exact List.mem_cons_self
    · exact List.mem_cons_of_mem _ (ih h)

theorem mem_keys_iff {key : String} {entries : List (String × α)} :
    key ∈ keys entries ↔ ∃ value, (key, value) ∈ entries := by
  simp [keys]

theorem get?_of_notMem {key : String} {entries : List (String × α)} (h : key ∉ keys entries) :
    get? key entries = none := by
  cases hget : get? key entries with
  | none => rfl
  | some value => exact absurd (mem_keys_iff.mpr ⟨value, mem_of_get? hget⟩) h

/-- Where every key occurs once, every entry is found under its key. -/
theorem get?_of_mem {key : String} {value : α} {entries : List (String × α)}
    (h : (keys entries).Nodup) (hmem : (key, value) ∈ entries) : get? key entries = some value := by
  induction entries with
  | nil => cases hmem
  | cons e rest ih =>
    obtain ⟨k, v⟩ := e
    obtain ⟨hhead, htail⟩ := List.nodup_cons.mp h
    rw [get?_cons]
    rcases List.mem_cons.mp hmem with heq | hrest
    · cases heq
      rw [if_pos rfl]
    · have hkey : key ∈ keys rest := mem_keys_iff.mpr ⟨value, hrest⟩
      have hne : k ≠ key := fun heq => hhead (heq ▸ hkey)
      rw [if_neg hne, ih htail hrest]

theorem Ordered.nodup_keys {entries : List (String × α)} (h : Ordered entries) :
    (keys entries).Nodup := by
  refine List.pairwise_map.mpr (h.imp fun {e f} hlt heq => ?_)
  exact String.lt_irrefl e.1 (heq ▸ hlt)

theorem Ordered.nodup {entries : List (String × α)} (h : Ordered entries) : entries.Nodup := by
  refine h.imp ?_
  rintro e _ hlt rfl
  exact String.lt_irrefl e.1 hlt

/-- Every entry of ordered entries is found under its key. -/
theorem Ordered.get?_of_mem {key : String} {value : α} {entries : List (String × α)}
    (h : Ordered entries) (hmem : (key, value) ∈ entries) : get? key entries = some value :=
  Keyed.get?_of_mem h.nodup_keys hmem

/-- Ordered entries are determined by their look-up. -/
theorem Ordered.ext {entries entries' : List (String × α)} (h : Ordered entries)
    (h' : Ordered entries') (hget : ∀ key, get? key entries = get? key entries') :
    entries = entries' := by
  have hperm : entries.Perm entries' := by
    rw [List.perm_ext_iff_of_nodup h.nodup h'.nodup]
    rintro ⟨key, value⟩
    constructor
    · intro hmem
      exact mem_of_get? (hget key ▸ h.get?_of_mem hmem)
    · intro hmem
      exact mem_of_get? ((hget key).symm ▸ h'.get?_of_mem hmem)
  refine hperm.eq_of_pairwise ?_ h h'
  intro e f _ _ hlt hgt
  exact absurd (String.lt_trans hlt hgt) (String.lt_irrefl e.1)

theorem mem_ofList {entries : List (String × α)} {e : String × α}
    (h : e ∈ ofList entries) : e ∈ entries := by
  -- the fold is stated for any start, as the induction needs it
  have hfold : ∀ acc : List (String × α),
      e ∈ entries.foldl (fun acc entry => insert entry.1 entry.2 acc) acc →
        e ∈ acc ∨ e ∈ entries := by
    clear h
    induction entries with
    | nil => exact fun acc hacc => Or.inl hacc
    | cons first rest ih =>
      intro acc hacc
      rcases ih _ hacc with hins | hrest
      · rcases mem_insert hins with heq | hmem
        · exact Or.inr (heq ▸ List.mem_cons_self)
        · exact Or.inl hmem
      · exact Or.inr (List.mem_cons_of_mem _ hrest)
  rcases hfold [] h with hnil | hmem
  · cases hnil
  · exact hmem

/-! ## Entries in any order -/

theorem insert_perm {key : String} {entries : List (String × α)} (h : key ∉ keys entries)
    (value : α) : (insert key value entries).Perm ((key, value) :: entries) := by
  induction entries with
  | nil => rfl
  | cons e rest ih =>
    obtain ⟨k, v⟩ := e
    obtain ⟨hhead, htail⟩ := not_or.mp (mt List.mem_cons.mpr h)
    rw [insert, if_neg (Ne.symm hhead)]
    split
    · rfl
    · exact ((ih htail).cons (k, v)).trans (.swap _ _ rest)

/-- Ordering entries drops none of them, if every key occurs once. -/
theorem ofList_perm {entries : List (String × α)} (h : (keys entries).Nodup) :
    (ofList entries).Perm entries := by
  -- the fold is stated for any start, as the induction needs it
  have hfold : ∀ acc : List (String × α), (keys (acc ++ entries)).Nodup →
      (entries.foldl (fun acc entry => insert entry.1 entry.2 acc) acc).Perm (acc ++ entries) := by
    clear h
    induction entries with
    | nil =>
      intro acc _
      rw [List.append_nil]
      rfl
    | cons first rest ih =>
      intro acc hacc
      have hmiddle : (acc ++ first :: rest).Perm ((first :: acc) ++ rest) := List.perm_middle
      have hkeys := (hmiddle.map Prod.fst).nodup_iff.mp hacc
      have hfirst : first.1 ∉ keys acc := fun hmem =>
        (List.nodup_cons.mp hkeys).1 (by simpa [keys] using Or.inl hmem)
      have hins := (insert_perm hfirst first.2).append_right rest
      exact (ih _ ((hins.map Prod.fst).nodup_iff.mpr hkeys)).trans (hins.trans hmiddle.symm)
  exact hfold [] h

theorem get?_ofList {entries : List (String × α)} (h : (keys entries).Nodup) (key : String) :
    get? key (ofList entries) = get? key entries := by
  refine Option.ext fun value => ⟨fun hv => ?_, fun hv => ?_⟩
  · exact get?_of_mem h (mem_ofList (mem_of_get? hv))
  · exact (Ordered.ofList entries).get?_of_mem ((ofList_perm h).mem_iff.mpr (mem_of_get? hv))

theorem get?_filter {p : String → Bool} {key : String} (h : p key = true)
    (entries : List (String × α)) :
    get? key (entries.filter fun e => p e.1) = get? key entries := by
  induction entries with
  | nil => rfl
  | cons e rest ih =>
    obtain ⟨k, v⟩ := e
    rw [List.filter_cons]
    split
    · rw [get?_cons, get?_cons, ih]
    · next hdrop =>
      have hne : k ≠ key := fun heq => hdrop (heq ▸ h)
      rw [get?_cons, if_neg hne, ih]

/-! ## Removal -/

theorem Ordered.get?_erase {entries : List (String × α)} (h : Ordered entries)
    (key other : String) :
    get? other (Keyed.erase key entries) = if other = key then none else get? other entries := by
  by_cases heq : other = key
  · rw [heq, if_pos rfl]
    exact h.get?_erase_self key
  · rw [if_neg heq]
    exact get?_erase_of_ne heq entries

/-- What is not there cannot be dropped. -/
theorem erase_eq_self {key : String} {entries : List (String × α)}
    (h : get? key entries = none) : erase key entries = entries := by
  induction entries with
  | nil => rfl
  | cons e rest ih =>
    obtain ⟨k, v⟩ := e
    rw [get?_cons] at h
    split at h
    · cases h
    · next hk => rw [erase, if_neg hk, ih h]

/-- A value put where it already is changes nothing. -/
theorem insert_eq_self {key : String} {value : α} {entries : List (String × α)}
    (hord : Ordered entries) (h : get? key entries = some value) :
    insert key value entries = entries := by
  induction entries with
  | nil => simp at h
  | cons e rest ih =>
    obtain ⟨k, v⟩ := e
    obtain ⟨hhead, htail⟩ := List.pairwise_cons.1 hord
    rw [get?_cons] at h
    rw [insert]
    split at h
    · next hk =>
      cases h
      rw [if_pos hk, hk]
    · next hk =>
      have hlt : k < key := hhead (key, value) (mem_of_get? h)
      have hnlt : ¬ key < k := fun hgt => String.lt_irrefl key (String.lt_trans hgt hlt)
      rw [if_neg hk, if_neg hnlt, ih htail h]

/-! ## Entries in order -/

/-- A key behind the others is not among them. -/
theorem get?_of_ordered_append {key : String} {value : α} {entries rest : List (String × α)}
    (h : Ordered (entries ++ (key, value) :: rest)) : get? key entries = none := by
  cases hfound : get? key entries with
  | none => rfl
  | some old =>
    have hlt : key < key := (List.pairwise_append.1 h).2.2 (key, old) (mem_of_get? hfound)
      (key, value) List.mem_cons_self
    exact absurd hlt (String.lt_irrefl key)

/-- A value under a key behind the others is put at the end. -/
theorem insert_of_ordered_append {key : String} {value : α} {entries rest : List (String × α)}
    (h : Ordered (entries ++ (key, value) :: rest)) :
    insert key value entries = entries ++ [(key, value)] := by
  induction entries with
  | nil => rfl
  | cons e entries ih =>
    obtain ⟨k, v⟩ := e
    rw [List.cons_append] at h
    obtain ⟨hhead, htail⟩ := List.pairwise_cons.1 h
    have hlt : k < key := hhead (key, value) (by simp)
    have hne : k ≠ key := fun heq => String.lt_irrefl key (heq ▸ hlt)
    have hnlt : ¬ key < k := fun hgt => String.lt_irrefl key (String.lt_trans hgt hlt)
    rw [insert, if_neg hne, if_neg hnlt, ih htail, List.cons_append]

end IndexKeeper.Keyed
