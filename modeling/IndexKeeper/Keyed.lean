/-!
# Keyed entries

Entries under text keys, kept in the order of their keys with each key once.  The order is the
order of texts by code points.  `Ordered` says that a list of entries is in this form; the
operations are defined on every list and keep the form.

The view of a list of entries is `get?`: `get?_insert` and `get?_erase` say what the two changes
do to it.
-/

namespace IndexKeeper.Keyed

variable {α β : Type}

/-- The value under a key: the first entry counts. -/
def get? (key : String) : List (String × α) → Option α
  | [] => none
  | (k, v) :: rest => if k = key then some v else get? key rest

/-- Whether there is an entry under the key. -/
def contains (key : String) (entries : List (String × α)) : Bool :=
  (get? key entries).isSome

/-- Put a value under a key: in place of the entry that is there, else before the first greater
key. -/
def insert (key : String) (value : α) : List (String × α) → List (String × α)
  | [] => [(key, value)]
  | (k, v) :: rest =>
    if k = key then (key, value) :: rest
    else if key < k then (key, value) :: (k, v) :: rest
    else (k, v) :: insert key value rest

/-- Drop the entry under a key. -/
def erase (key : String) : List (String × α) → List (String × α)
  | [] => []
  | (k, v) :: rest => if k = key then rest else (k, v) :: erase key rest

/-- Entries in the order of their keys; of two with the same key the later one counts. -/
def ofList (entries : List (String × α)) : List (String × α) :=
  entries.foldl (fun acc entry => insert entry.1 entry.2 acc) []

/-- The keys, in the order of the entries. -/
def keys (entries : List (String × α)) : List String :=
  entries.map Prod.fst

/-- Keys increase strictly: every key occurs once. -/
def Ordered (entries : List (String × α)) : Prop :=
  entries.Pairwise fun a b => a.1 < b.1

/-! ## What a change does to the values -/

@[simp] theorem get?_nil (key : String) : get? key ([] : List (String × α)) = none := rfl

theorem get?_cons (key k : String) (v : α) (rest : List (String × α)) :
    get? key ((k, v) :: rest) = if k = key then some v else get? key rest := rfl

@[simp] theorem get?_insert_self (key : String) (value : α) (entries : List (String × α)) :
    get? key (insert key value entries) = some value := by
  induction entries with
  | nil => simp [insert, get?]
  | cons e rest ih =>
    obtain ⟨k, v⟩ := e
    by_cases h : k = key
    · simp [insert, h, get?]
    · by_cases hlt : key < k <;> simp [insert, h, hlt, get?, ih]

theorem get?_insert_of_ne {key other : String} (h : other ≠ key) (value : α)
    (entries : List (String × α)) : get? other (insert key value entries) = get? other entries := by
  induction entries with
  | nil => simp [insert, get?, Ne.symm h]
  | cons e rest ih =>
    obtain ⟨k, v⟩ := e
    by_cases hk : k = key
    · subst hk
      simp [insert, get?, Ne.symm h]
    · by_cases hlt : key < k
      · simp [insert, hk, hlt, get?, Ne.symm h]
      · simp [insert, hk, hlt, get?, ih]

theorem get?_insert (key other : String) (value : α) (entries : List (String × α)) :
    get? other (insert key value entries) =
      if other = key then some value else get? other entries := by
  by_cases h : other = key
  · simp [h]
  · simp [h, get?_insert_of_ne h]

theorem get?_erase_of_ne {key other : String} (h : other ≠ key) (entries : List (String × α)) :
    get? other (erase key entries) = get? other entries := by
  induction entries with
  | nil => rfl
  | cons e rest ih =>
    obtain ⟨k, v⟩ := e
    by_cases hk : k = key
    · subst hk
      simp [erase, get?, Ne.symm h]
    · simp [erase, hk, get?, ih]

/-! ## Order -/

theorem Ordered.nil : Ordered ([] : List (String × α)) := List.Pairwise.nil

theorem Ordered.get?_eq_none_of_forall {key : String} {entries : List (String × α)}
    (h : ∀ e ∈ entries, key < e.1) : get? key entries = none := by
  induction entries with
  | nil => rfl
  | cons e rest ih =>
    obtain ⟨k, v⟩ := e
    have hk : key < k := h (k, v) (by simp)
    have hne : k ≠ key := fun heq => String.lt_irrefl key (heq ▸ hk)
    simp [get?, hne, ih fun e he => h e (by simp [he])]

theorem mem_insert {key : String} {value : α} {entries : List (String × α)} {e : String × α}
    (h : e ∈ insert key value entries) : e = (key, value) ∨ e ∈ entries := by
  induction entries with
  | nil => simpa [insert] using h
  | cons f rest ih =>
    obtain ⟨k, v⟩ := f
    unfold insert at h
    split at h
    · rcases List.mem_cons.1 h with h | h
      · exact Or.inl h
      · exact Or.inr (List.mem_cons_of_mem _ h)
    · split at h
      · rcases List.mem_cons.1 h with h | h
        · exact Or.inl h
        · exact Or.inr h
      · rcases List.mem_cons.1 h with h | h
        · exact Or.inr (h ▸ List.mem_cons_self)
        · exact (ih h).imp id (List.mem_cons_of_mem _)

theorem mem_of_mem_erase {key : String} {entries : List (String × α)} {e : String × α}
    (h : e ∈ erase key entries) : e ∈ entries := by
  induction entries with
  | nil => simp [erase] at h
  | cons f rest ih =>
    obtain ⟨k, v⟩ := f
    unfold erase at h
    split at h
    · exact List.mem_cons_of_mem _ h
    · rcases List.mem_cons.1 h with h | h
      · exact h ▸ List.mem_cons_self
      · exact List.mem_cons_of_mem _ (ih h)

theorem Ordered.insert {entries : List (String × α)} (h : Ordered entries) (key : String)
    (value : α) : Ordered (Keyed.insert key value entries) := by
  induction entries with
  | nil => simp [Keyed.insert, Ordered]
  | cons e rest ih =>
    obtain ⟨k, v⟩ := e
    obtain ⟨hhead, htail⟩ := List.pairwise_cons.1 h
    unfold Keyed.insert
    split
    · next heq => exact List.pairwise_cons.2 ⟨fun f hf => heq ▸ hhead f hf, htail⟩
    · next hne =>
      split
      · next hlt =>
        refine List.pairwise_cons.2 ⟨fun f hf => ?_, h⟩
        rcases List.mem_cons.1 hf with hf | hf
        · exact hf ▸ hlt
        · exact String.lt_trans hlt (hhead f hf)
      · next hnlt =>
        refine List.pairwise_cons.2 ⟨fun f hf => ?_, ih htail⟩
        rcases mem_insert hf with hf | hf
        · have hle : k ≤ key := Std.not_lt.1 hnlt
          exact hf ▸ Std.lt_of_le_of_ne hle hne
        · exact hhead f hf

theorem Ordered.erase {entries : List (String × α)} (h : Ordered entries) (key : String) :
    Ordered (Keyed.erase key entries) := by
  induction entries with
  | nil => exact h
  | cons e rest ih =>
    obtain ⟨k, v⟩ := e
    obtain ⟨hhead, htail⟩ := List.pairwise_cons.1 h
    unfold Keyed.erase
    split
    · exact htail
    · exact List.pairwise_cons.2 ⟨fun f hf => hhead f (mem_of_mem_erase hf), ih htail⟩

theorem Ordered.get?_erase_self {entries : List (String × α)} (h : Ordered entries)
    (key : String) : get? key (Keyed.erase key entries) = none := by
  induction entries with
  | nil => rfl
  | cons e rest ih =>
    obtain ⟨k, v⟩ := e
    obtain ⟨hhead, htail⟩ := List.pairwise_cons.1 h
    unfold Keyed.erase
    split
    · next heq => exact get?_eq_none_of_forall fun f hf => heq ▸ hhead f hf
    · next hne => simp [get?, hne, ih htail]

theorem Ordered.ofList (entries : List (String × α)) : Ordered (Keyed.ofList entries) := by
  have key : ∀ (acc : List (String × α)), Ordered acc →
      Ordered (entries.foldl (fun acc entry => Keyed.insert entry.1 entry.2 acc) acc) := by
    induction entries with
    | nil => exact fun acc h => h
    | cons e rest ih => exact fun acc h => ih _ (h.insert e.1 e.2)
  exact key [] .nil

end IndexKeeper.Keyed
