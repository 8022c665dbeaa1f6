import IndexKeeper.Proofs.Pass.Course

/-!
# The courses of a clean-up

Every way in which the resource of a declaration that is gone is dropped or kept.  Whatever the way,
`finalize` lets the finalizer go and keeps the status.
-/

namespace IndexKeeper.Pass

open Program

/-- An asking for the other names, with the answer. -/
def listed (r : Except Fault (List String)) : Exchange Effect Effect.Answer := ⟨.siblings, r⟩

theorem ends_siblings_bind_iff {α : Type} {f : Except Fault (List String) → Task α}
    {t : Transcript} {a : α} :
    Ends (siblings >>= f) t a ↔ ∃ r rest, t = listed r :: rest ∧ Ends (f r) rest a := by
  rw [siblings, ask_bind]
  exact ends_ask_iff

/-- The ways in which a resource that was found is deleted or kept. -/
inductive Deletes (t : DeletionTarget) (observed : Observed) :
    Transcript → Except Fault String → Prop
  | notOwned (hschema : observed.ownedSchema? = none) :
    Deletes t observed [] (.error (.notOwned t.name))
  | failed (schema : Json) (hschema : observed.ownedSchema? = some schema) (e : RemoteError) :
    Deletes t observed (changed t.kind .delete (.delete t.name) (.error e)) (.error (.remote e))
  | confirmed (schema : Json) (hschema : observed.ownedSchema? = some schema) :
    Deletes t observed (changed t.kind .delete (.delete t.name) (.ok ()))
      (.ok ("successfully deleted ES " ++ t.kind.label ++ " " ++ t.name))

theorem deletes_of_ends {t : DeletionTarget} {observed : Observed} {asked : Transcript}
    {r : Except Fault String} (h : Ends (deleteOwned t observed) asked r) :
    Deletes t observed asked r := by
  rw [deleteOwned] at h
  cases hschema : observed.ownedSchema? with
  | none =>
    rw [hschema] at h
    obtain ⟨rfl, rfl⟩ := ends_done_iff.mp h
    exact .notOwned hschema
  | some schema =>
    rw [hschema] at h
    obtain ⟨answer, rest, rfl, hrest⟩ := ends_mutate_bind_iff.mp h
    cases answer with
    | error e =>
      obtain ⟨rfl, rfl⟩ := ends_done_iff.mp hrest
      exact .failed schema hschema e
    | ok _ =>
      obtain ⟨rfl, rfl⟩ := ends_done_iff.mp hrest
      exact .confirmed schema hschema

/-- The ways in which a resource is dropped or kept. -/
inductive Drops (t : DeletionTarget) (previous : Status) :
    Transcript → Except Fault String → Prop
  | notAsked (hdrop : t.dropOnDelete = false) :
    Drops t previous [] (.ok (keeping t "drop_on_delete is not set"))
  | notAcknowledged (hdrop : t.dropOnDelete = true) (hprevious : previous.acknowledged = false) :
    Drops t previous [] (.ok (keeping t "it was never acknowledged"))
  | unlisted (hdrop : t.dropOnDelete = true) (hprevious : previous.acknowledged = true)
    (f : Fault) : Drops t previous [listed (.error f)] (.error f)
  | shared (hdrop : t.dropOnDelete = true) (hprevious : previous.acknowledged = true)
    (names : List String) (hnames : t.name ∈ names) :
    Drops t previous [listed (.ok names)] (.ok (keeping t "another object still declares it"))
  | gone (hdrop : t.dropOnDelete = true) (hprevious : previous.acknowledged = true)
    (names : List String) (hnames : t.name ∉ names) :
    Drops t previous [listed (.ok names), replied (.fetch t.name) (.error .notFound)]
      (.ok ("ES " ++ t.kind.label ++ " " ++ t.name ++ " is already gone"))
  | unread (hdrop : t.dropOnDelete = true) (hprevious : previous.acknowledged = true)
    (names : List String) (hnames : t.name ∉ names) (e : RemoteError) (he : e ≠ .notFound) :
    Drops t previous [listed (.ok names), replied (.fetch t.name) (.error e)] (.error (.remote e))
  | found (hdrop : t.dropOnDelete = true) (hprevious : previous.acknowledged = true)
    (names : List String) (hnames : t.name ∉ names) (observed : Observed) {rest : Transcript}
    {r : Except Fault String} (h : Deletes t observed rest r) :
    Drops t previous (listed (.ok names) :: replied (.fetch t.name) (.ok observed) :: rest) r

theorem drops_of_ends {t : DeletionTarget} {previous : Status} {asked : Transcript}
    {r : Except Fault String} (h : Ends (dropResource t previous) asked r) :
    Drops t previous asked r := by
  rw [dropResource] at h
  cases hdrop : t.dropOnDelete with
  | false =>
    simp only [hdrop, Bool.not_false, if_true] at h
    obtain ⟨rfl, rfl⟩ := ends_done_iff.mp h
    exact .notAsked hdrop
  | true =>
    cases hprevious : previous.acknowledged with
    | false =>
      simp only [hdrop, hprevious, Bool.not_true, Bool.not_false, Bool.false_eq_true, if_true,
        if_false] at h
      obtain ⟨rfl, rfl⟩ := ends_done_iff.mp h
      exact .notAcknowledged hdrop hprevious
    | true =>
      simp only [hdrop, hprevious, Bool.not_true, Bool.false_eq_true, if_false] at h
      obtain ⟨answer, rest, rfl, hlisted⟩ := ends_siblings_bind_iff.mp h
      cases answer with
      | error f =>
        obtain ⟨rfl, rfl⟩ := ends_done_iff.mp hlisted
        exact .unlisted hdrop hprevious f
      | ok names =>
        by_cases hnames : t.name ∈ names
        · simp only [List.contains_iff_mem, hnames, if_true] at hlisted
          obtain ⟨rfl, rfl⟩ := ends_done_iff.mp hlisted
          exact .shared hdrop hprevious names hnames
        · simp only [List.contains_iff_mem, hnames, if_false] at hlisted
          obtain ⟨fetched, last, rfl, hfetched⟩ := ends_call_bind_iff.mp hlisted
          cases fetched with
          | ok observed =>
            exact .found hdrop hprevious names hnames observed (deletes_of_ends hfetched)
          | error e =>
            by_cases he : e = .notFound
            · subst he
              obtain ⟨rfl, rfl⟩ := ends_done_iff.mp hfetched
              exact .gone hdrop hprevious names hnames
            · -- as for a reading: the program splits on the error
              have hdone : Ends (.done (.error (.remote e)) : Task (Except Fault String))
                  last r := by
                cases e with
                | notFound => exact absurd rfl he
                | _ => exact hfetched
              obtain ⟨rfl, rfl⟩ := ends_done_iff.mp hdone
              exact .unread hdrop hprevious names hnames e he

/-- A clean-up drops or keeps the resource, lets the finalizer go and keeps the status. -/
theorem drops_of_finalize {t : DeletionTarget} {previous : Status} {asked : Transcript}
    {o : Outcome} (h : Ends (finalize t previous) asked o) :
    ∃ r, Drops t previous asked r ∧ o.status = previous ∧ o.finalizer = .remove := by
  obtain ⟨first, r, rest, rfl, hdrop, hrest⟩ := ends_bind_iff.mp h
  obtain ⟨rfl, rfl⟩ := ends_done_iff.mp hrest
  rw [List.append_nil]
  exact ⟨r, drops_of_ends hdrop, rfl, rfl⟩

end IndexKeeper.Pass
