import IndexKeeper.Proofs.Fault
import IndexKeeper.Proofs.Pass.Course

/-!
# Outcomes

An outcome either records a fault or has a status without a blemish.  A rejection repeats itself:
its status leads the next rejection to the same outcome, and speaks of a creation that is still
unconfirmed only if the status before it did.
-/

namespace IndexKeeper.Pass

/-! ## Outcomes that record a fault -/

@[simp] theorem isFailure_notCreated (d : Desired) (f : Fault) :
    (notCreated d f).isFailure = true :=
  bne_iff_ne.mpr f.message_ne_empty

@[simp] theorem isFailure_rejected (d : Desired) (previous : Status) (f : Fault) :
    (rejected d previous f).isFailure = true :=
  bne_iff_ne.mpr f.message_ne_empty

@[simp] theorem isUnacknowledgedCreate_notCreated (d : Desired) (f : Fault) :
    (notCreated d f).status.isUnacknowledgedCreate = true := rfl

/-- A failure speaks of an unconfirmed creation exactly if the status before it did. -/
theorem failureOperation_eq_create_iff {s : Status} :
    s.failureOperation = .create ↔ s.isUnacknowledgedCreate = true := by
  rw [Status.failureOperation]
  cases s.isUnacknowledgedCreate <;> simp

@[simp] theorem isUnacknowledgedCreate_rejected (d : Desired) (previous : Status) (f : Fault) :
    (rejected d previous f).status.isUnacknowledgedCreate = previous.isUnacknowledgedCreate := by
  rw [rejected, Status.failed, Status.failureOperation]
  cases previous.isUnacknowledgedCreate <;> rfl

/-- A rejection after a rejection is the same outcome. -/
theorem rejected_status_rejected (d : Desired) (previous : Status) (f g : Fault) :
    rejected d (rejected d previous g).status f = rejected d previous f := by
  have hsame : (rejected d previous g).status.failureOperation = previous.failureOperation := by
    rw [Status.failureOperation, isUnacknowledgedCreate_rejected, Status.failureOperation]
  calc rejected d (rejected d previous g).status f
      = ⟨.failed d.name (rejected d previous g).status.failureOperation f, .unchanged,
          f.message⟩ := rfl
    _ = rejected d previous f := by rw [hsame]; rfl

/-! ## Outcomes without an error -/

/-- A status without a blemish. -/
def Acknowledged (s : Status) : Prop := s.acknowledged = true ∧ s.latestError = ""

theorem acknowledged_unchanged (d : Desired) (previous : Status) :
    Acknowledged (unchanged d previous).status := by
  by_cases h : (previous.acknowledged && previous.latestError == "") = true
  · have hboth := h
    rw [Bool.and_eq_true, beq_iff_eq] at hboth
    simp only [unchanged, h, if_true]
    exact hboth
  · simp only [unchanged, h]
    exact ⟨rfl, rfl⟩

/-- A status without a blemish is kept when nothing has changed. -/
theorem status_unchanged (d : Desired) {s : Status} (h : Acknowledged s) :
    (unchanged d s).status = s := by
  have hboth : (s.acknowledged && s.latestError == "") = true := by
    rw [h.1, h.2]
    rfl
  simp only [unchanged, hboth, if_true]

theorem isUnacknowledgedCreate_of_acknowledged {s : Status} (h : Acknowledged s) :
    s.isUnacknowledgedCreate = false := by
  rw [Status.isUnacknowledgedCreate, h.1]
  simp

theorem isFailure_of_acknowledged {o : Outcome} (h : Acknowledged o.status) :
    o.isFailure = false :=
  bne_eq_false_iff_eq.mpr h.2

/-- An outcome that tells of no error. -/
def Clean (o : Outcome) : Prop := Acknowledged o.status ∧ o.finalizer = .ensure

theorem Clean.isFailure {o : Outcome} (h : Clean o) : o.isFailure = false :=
  isFailure_of_acknowledged h.1

theorem Clean.isUnacknowledgedCreate {o : Outcome} (h : Clean o) :
    o.status.isUnacknowledgedCreate = false :=
  isUnacknowledgedCreate_of_acknowledged h.1

theorem clean_created (d : Desired) : Clean (created d) := ⟨⟨rfl, rfl⟩, rfl⟩

theorem clean_adopted (d : Desired) : Clean (adopted d) := ⟨⟨rfl, rfl⟩, rfl⟩

theorem clean_updated (d : Desired) : Clean (updated d) := ⟨⟨rfl, rfl⟩, rfl⟩

theorem clean_unchanged (d : Desired) (previous : Status) : Clean (unchanged d previous) :=
  ⟨acknowledged_unchanged d previous, rfl⟩

theorem Creates.eq_created {d : Desired} {t : Transcript} {o : Outcome} (h : Creates d t o)
    (hclean : o.isFailure = false) :
    o = created d ∧ ∃ payload, d.payload = .ok payload ∧
      t = changed d.kind .create (.create d.name payload) (.ok ()) := by
  cases h with
  | malformed m hp =>
    simp at hclean
  | failed payload hp e =>
    simp at hclean
  | confirmed payload hp => exact ⟨rfl, payload, hp, rfl⟩

/-! ## There is no third kind -/

theorem Creates.clean_or_notCreated {d : Desired} {t : Transcript} {o : Outcome}
    (h : Creates d t o) : Clean o ∨ ∃ f, o = notCreated d f := by
  cases h with
  | malformed m hp => exact Or.inr ⟨_, rfl⟩
  | failed payload hp e => exact Or.inr ⟨_, rfl⟩
  | confirmed payload hp => exact Or.inl (clean_created d)

theorem SendsSchema.updated_or_rejected {d : Desired} {previous : Status} {schema : Json}
    {t : Transcript} {o : Outcome} (h : SendsSchema d previous schema t o) :
    o = updated d ∨ ∃ f, o = rejected d previous f := by
  cases h with
  | failed e => exact Or.inr ⟨_, rfl⟩
  | confirmed => exact Or.inl rfl

theorem Executes.outcome_cases {d : Desired} {previous : Status} {p : Plan} {t : Transcript}
    {o : Outcome} (h : Executes d previous p t o) :
    o = updated d ∨ o = unchanged d previous ∨ ∃ f, o = rejected d previous f := by
  cases h with
  | replaceMalformed m hp => exact Or.inr (Or.inr ⟨_, rfl⟩)
  | replaceFailed payload hp e => exact Or.inr (Or.inr ⟨_, rfl⟩)
  | replaced payload hp => exact Or.inl rfl
  | idle => exact Or.inr (Or.inl rfl)
  | schemaOnly schema hsend => exact hsend.updated_or_rejected.imp_right Or.inr
  | settingsFailed settings schema e => exact Or.inr (Or.inr ⟨_, rfl⟩)
  | settingsOnly settings => exact Or.inl rfl
  | both settings schema hsend => exact hsend.updated_or_rejected.imp_right Or.inr

/-- An outcome after a resource was found is without an error or a rejection. -/
theorem Converges.clean_or_rejected {d : Desired} {previous : Status} {observed : Observed}
    {t : Transcript} {o : Outcome} (h : Converges d previous observed t o) :
    Clean o ∨ ∃ f, o = rejected d previous f := by
  cases h with
  | notOwned hschema => exact Or.inr ⟨_, rfl⟩
  | adopted schema hschema hprevious => exact Or.inl (clean_adopted d)
  | refused schema hschema hprevious f hplan => exact Or.inr ⟨f, rfl⟩
  | executed schema hschema hprevious p hplan hexec =>
    rcases hexec.outcome_cases with rfl | rfl | hrejected
    · exact Or.inl (clean_updated d)
    · exact Or.inl (clean_unchanged d previous)
    · exact Or.inr hrejected

/-- The finalizer of a declaration that stays is never given up. -/
theorem Course.finalizer_ne_remove {d : Desired} {previous : Status} {t : Transcript} {o : Outcome}
    (h : Course d previous t (.ok o)) : o.finalizer ≠ .remove := by
  have hcases : Clean o ∨ o.finalizer = .unchanged := by
    cases h with
    | creates hread hcreate =>
      refine hcreate.clean_or_notCreated.imp_right ?_
      rintro ⟨f, rfl⟩
      rfl
    | converges observed hread hconv =>
      refine hconv.clean_or_rejected.imp_right ?_
      rintro ⟨f, rfl⟩
      rfl
  intro hremove
  rcases hcases with hclean | hkept
  · cases hclean.2.symm.trans hremove
  · cases hkept.symm.trans hremove

/-! ## Outcomes that speak of no operation -/

/-- Only a status without a blemish is kept, and only a kept one speaks of no operation. -/
theorem status_unchanged_of_operation {d : Desired} {previous : Status}
    (h : (unchanged d previous).status.operation = none) :
    (unchanged d previous).status = previous ∧ previous.acknowledged = true := by
  by_cases hkept : (previous.acknowledged && previous.latestError == "") = true
  · refine ⟨?_, (Bool.and_eq_true_iff.mp hkept).1⟩
    simp only [unchanged, hkept, if_true]
  · simp only [unchanged, hkept] at h
    cases h

/-- An outcome that speaks of no operation has the status of the pass before, and that one was
confirmed. -/
theorem Course.status_of_operation {d : Desired} {previous : Status} {t : Transcript} {o : Outcome}
    (h : Course d previous t (.ok o)) (hnone : o.status.operation = none) :
    o.status = previous ∧ previous.acknowledged = true := by
  cases h with
  | creates hread hcreate => cases hcreate <;> cases hnone
  | converges observed hread hconv =>
    cases hconv with
    | executed schema hschema hprevious p hplan hexec =>
      rcases hexec.outcome_cases with rfl | rfl | ⟨f, rfl⟩
      · cases hnone
      · exact status_unchanged_of_operation hnone
      · cases hnone
    | _ => cases hnone

/-! ## Acknowledged outcomes -/

/-- An acknowledged outcome tells of no error. -/
theorem Course.clean_of_acknowledged {d : Desired} {previous : Status} {t : Transcript}
    {o : Outcome} (h : Course d previous t (.ok o)) (hacknowledged : o.status.acknowledged = true) :
    Clean o := by
  cases h with
  | creates hread hcreate =>
    rcases hcreate.clean_or_notCreated with hclean | ⟨f, rfl⟩
    · exact hclean
    · cases hacknowledged
  | converges observed hread hconv =>
    rcases hconv.clean_or_rejected with hclean | ⟨f, rfl⟩
    · exact hclean
    · cases hacknowledged

end IndexKeeper.Pass
