import IndexKeeper.Proofs.Pass.Deletion

/-!
# What a kept status confirms

The status that a declaration keeps from one pass to the next is the only evidence that a clean-up
has for a resource.  A declaration may be given another name between two passes, so `Life` follows
one declaration through passes for any names, clean-ups, and any answers.

An acknowledged status always confirms a resource: the one that it names (`Life.confirmed`), and the
one that the last pass with an outcome was for (`Life.confirmed_lastName`).  A clean-up asks only
whether the status is acknowledged and not what it names.  So it may delete a resource that no pass
confirmed, but only if the declaration was renamed after its last pass.
-/

namespace IndexKeeper.Pass

open Program

/-! ## The status of an outcome -/

/-- The statuses that a pass for a resource may end with: one that speaks of the resource, or the
previous one if it was acknowledged. -/
inductive StatusOf (d : Desired) (previous : Status) : Status → Prop
  | succeeded (operation : Operation) : StatusOf d previous (.succeeded d.name operation)
  | failed (operation : Operation) (f : Fault) : StatusOf d previous (.failed d.name operation f)
  | kept (h : previous.acknowledged = true) : StatusOf d previous previous

theorem statusOf_unchanged (d : Desired) (previous : Status) :
    StatusOf d previous (unchanged d previous).status := by
  rw [unchanged]
  split
  · next h =>
    rw [Bool.and_eq_true] at h
    exact .kept h.1
  · exact .succeeded _

theorem SendsSchema.statusOf {d : Desired} {previous : Status} {schema : Json} {t : Transcript}
    {o : Outcome} (h : SendsSchema d previous schema t o) : StatusOf d previous o.status := by
  cases h with
  | failed e => exact .failed _ _
  | confirmed => exact .succeeded _

theorem Executes.statusOf {d : Desired} {previous : Status} {p : Plan} {t : Transcript}
    {o : Outcome} (h : Executes d previous p t o) : StatusOf d previous o.status := by
  cases h with
  | replaceMalformed m hp => exact .failed _ _
  | replaceFailed payload hp e => exact .failed _ _
  | replaced payload hp => exact .succeeded _
  | idle => exact statusOf_unchanged d previous
  | schemaOnly schema hsend => exact hsend.statusOf
  | settingsFailed settings schema e => exact .failed _ _
  | settingsOnly settings => exact .succeeded _
  | both settings schema hsend => exact hsend.statusOf

theorem Course.statusOf {d : Desired} {previous : Status} {t : Transcript} {o : Outcome}
    (h : Course d previous t (.ok o)) : StatusOf d previous o.status := by
  cases h with
  | creates hread hcreate =>
    cases hcreate with
    | malformed m hp => exact .failed _ _
    | failed payload hp e => exact .failed _ _
    | confirmed payload hp => exact .succeeded _
  | converges observed hread hconv =>
    cases hconv with
    | notOwned hschema => exact .failed _ _
    | adopted schema hschema hprevious => exact .succeeded _
    | refused schema hschema hprevious f hplan => exact .failed _ _
    | executed schema hschema hprevious p hplan hexec => exact hexec.statusOf

/-! ## Lives -/

/-- What happens to a declaration: a pass for what it asks for at that time, or a clean-up. -/
inductive Event
  | pass (d : Desired) (asked : Transcript) (r : Except Fault Outcome)
  | cleanup (t : DeletionTarget) (asked : Transcript) (o : Outcome)

namespace Event

/-- An event can happen to a declaration with a status. -/
def Possible (previous : Status) : Event → Prop
  | pass d asked r => Ends (reconcile d previous) asked r
  | cleanup t asked o => Ends (finalize t previous) asked o

/-- The status after an event.  A pass that ends with a fault leaves the status as it is. -/
def statusAfter (previous : Status) : Event → Status
  | pass _ _ (.ok o) => o.status
  | pass _ _ (.error _) => previous
  | cleanup _ _ o => o.status

end Event

/-- The lives of a declaration, the latest event first, with the status that it keeps.  It starts
with the first status, and every event finds the status that the one before left. -/
inductive Life : List Event → Status → Prop
  | new : Life [] {}
  | next {events : List Event} {status : Status} (h : Life events status) (e : Event)
    (hpossible : e.Possible status) : Life (e :: events) (e.statusAfter status)

/-- A pass for the name ended acknowledged. -/
def Confirmed (name : String) (events : List Event) : Prop :=
  ∃ d asked o, Event.pass d asked (.ok o) ∈ events ∧ d.name = name ∧ o.status.acknowledged = true

/-- The name that the last pass with an outcome was for. -/
def lastName? : List Event → Option String
  | [] => none
  | .pass d _ (.ok _) :: _ => some d.name
  | _ :: rest => lastName? rest

theorem Confirmed.cons {name : String} {events : List Event} (h : Confirmed name events)
    (e : Event) : Confirmed name (e :: events) := by
  obtain ⟨d, asked, o, hmem, hname, hacknowledged⟩ := h
  exact ⟨d, asked, o, List.mem_cons_of_mem e hmem, hname, hacknowledged⟩

/-- An acknowledged status confirms the resource that it names. -/
theorem Life.confirmed {events : List Event} {status : Status} (h : Life events status)
    (hacknowledged : status.acknowledged = true) : Confirmed status.resourceName events := by
  induction h with
  | new => cases hacknowledged
  | @next events status hlife e hpossible ih =>
    cases e with
    | pass d asked r =>
      cases r with
      | error f => exact (ih hacknowledged).cons _
      | ok o =>
        have hstatus := (course_of_ends hpossible).statusOf
        change Confirmed o.status.resourceName _
        change o.status.acknowledged = true at hacknowledged
        generalize heq : o.status = after at hstatus hacknowledged ⊢
        cases hstatus with
        | succeeded operation => exact ⟨d, asked, o, List.mem_cons_self, rfl, by rw [heq]; rfl⟩
        | failed operation f => cases hacknowledged
        | kept hkept => exact (ih hkept).cons _
    | cleanup t asked o =>
      obtain ⟨_, _, hstatus, _⟩ := drops_of_finalize hpossible
      change o.status.acknowledged = true at hacknowledged
      change Confirmed o.status.resourceName _
      rw [hstatus] at hacknowledged ⊢
      exact (ih hacknowledged).cons _

/-- An acknowledged status confirms the resource that the last pass with an outcome was for. -/
theorem Life.confirmed_lastName {events : List Event} {status : Status} (h : Life events status)
    (hacknowledged : status.acknowledged = true) :
    ∃ name, lastName? events = some name ∧ Confirmed name events := by
  induction h with
  | new => cases hacknowledged
  | @next events status hlife e hpossible ih =>
    cases e with
    | pass d asked r =>
      cases r with
      | error f =>
        obtain ⟨name, hname, hconfirmed⟩ := ih hacknowledged
        exact ⟨name, hname, hconfirmed.cons _⟩
      | ok o => exact ⟨d.name, rfl, d, asked, o, List.mem_cons_self, rfl, hacknowledged⟩
    | cleanup t asked o =>
      obtain ⟨_, _, hstatus, _⟩ := drops_of_finalize hpossible
      change o.status.acknowledged = true at hacknowledged
      rw [hstatus] at hacknowledged
      obtain ⟨name, hname, hconfirmed⟩ := ih hacknowledged
      exact ⟨name, hname, hconfirmed.cons _⟩

/-! ## Courses that there are -/

/-- A pass may find nothing and have a creation confirmed. -/
theorem ends_reconcile_created {d : Desired} {payload : Desired.Payload}
    (hp : d.payload = .ok payload) (previous : Status) :
    Ends (reconcile d previous)
      (replied (.probe d.name) (.ok false) ::
        changed d.kind .create (.create d.name payload) (.ok ()))
      (.ok (created d)) :=
  (Course.creates .absent (.confirmed payload hp)).ends

/-- The declaration of an index with nothing in it, to be deleted with its declaration. -/
def bareIndex (name : String) : Desired := ⟨name, true, .empty, .obj [], none⟩

/-- The pass that creates such an index. -/
def bareCreation (name : String) : Event :=
  .pass (bareIndex name)
    (replied (.probe name) (.ok false) ::
      changed .index .create (.create name ⟨.empty, bareSchema, none⟩) (.ok ()))
    (.ok (created (bareIndex name)))

theorem life_bareCreation (name : String) :
    Life [bareCreation name] (.succeeded name .create) :=
  .next .new (bareCreation name) (ends_reconcile_created rfl {})

/-- The clean-up that deletes such an index. -/
def bareDeletion (name : String) : Transcript :=
  listed (.ok []) :: replied (.fetch name) (.ok ⟨.empty, some bareSchema, none⟩) ::
    changed .index .delete (.delete name) (.ok ())

theorem ends_bareDeletion (name : String) {status : Status} (h : status.acknowledged = true) :
    Ends (finalize ⟨name, .index, true⟩ status) (bareDeletion name)
      ⟨status, .remove, "successfully deleted ES index " ++ name⟩ := by
  exact ends_finalize_deleted rfl h List.not_mem_nil ownedSchema?_bare

/-! ## Deletions -/

/-- A clean-up deletes only with an acknowledged status, which confirms the resource that it names;
so it deletes a resource that no pass confirmed only if the status neither names the resource nor
was left by a pass for it. -/
theorem confirmed_of_deletion {events : List Event} {status : Status} {t : DeletionTarget}
    {asked : Transcript} {o : Outcome} {name : String} {answer : Except RemoteError Unit}
    (hlife : Life events status) (hends : Ends (finalize t status) asked o)
    (hdelete : replied (.delete name) answer ∈ asked) :
    name = t.name ∧ Confirmed status.resourceName events ∧
      (status.resourceName = name ∨ lastName? events = some name → Confirmed name events) := by
  obtain ⟨r, hdrops, _⟩ := drops_of_finalize hends
  obtain ⟨hname, hacknowledged, _⟩ := hdrops.of_delete hdelete
  refine ⟨hname, hlife.confirmed hacknowledged, ?_⟩
  rintro (hresource | hlast)
  · exact hresource ▸ hlife.confirmed hacknowledged
  · obtain ⟨other, hother, hconfirmed⟩ := hlife.confirmed_lastName hacknowledged
    rw [hlast] at hother
    cases hother
    exact hconfirmed

theorem confirmed_of_deletion_logs :
    Life [bareCreation "logs"] (.succeeded "logs" .create) ∧
      replied (.delete "logs") (.ok ()) ∈ bareDeletion "logs" ∧
      Confirmed "logs" [bareCreation "logs"] := by
  have hlife := life_bareCreation "logs"
  have hacknowledged : (Status.succeeded "logs" .create).acknowledged = true := rfl
  have hends := ends_bareDeletion "logs" hacknowledged
  have hdelete : replied (.delete "logs") (.ok ()) ∈ bareDeletion "logs" := by
    simp [bareDeletion, changed]
  exact ⟨hlife, hdelete, (confirmed_of_deletion hlife hends hdelete).2.2 (Or.inl rfl)⟩

/-- A declaration that is renamed after its last pass takes an index with it that no pass
confirmed. -/
theorem deletion_after_renaming :
    ∃ events status asked o, Life events status ∧
      Ends (finalize ⟨"metrics", .index, true⟩ status) asked o ∧
      replied (.delete "metrics") (.ok ()) ∈ asked ∧ ¬ Confirmed "metrics" events := by
  refine ⟨[bareCreation "logs"], .succeeded "logs" .create, bareDeletion "metrics", _,
    life_bareCreation "logs", ends_bareDeletion "metrics" rfl, ?_, ?_⟩
  · simp [bareDeletion, changed]
  · rintro ⟨d, asked, o, hmem, hname, _⟩
    cases List.mem_singleton.mp hmem
    exact absurd hname (by decide)

end IndexKeeper.Pass
