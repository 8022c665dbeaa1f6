import IndexKeeper.Proofs.Pass.Confirmation
import IndexKeeper.Proofs.Pass.Plan
import IndexKeeper.Proofs.Pass.Outcome

/-!
# The resource that a status names

The status of an outcome names the resource of the pass, with one exception: a pass that finds
nothing to change keeps a status without a blemish as it is, and that one may have been left by
passes for another name.  `resourceName_iff` says that there is no other exception.
-/

namespace IndexKeeper.Pass

open Program

variable {d : Desired} {previous : Status} {t : Transcript} {o : Outcome}

/-- The outcome of a pass with nothing to change, after a status without a blemish that names
another resource. -/
structure KeepsOtherName (d : Desired) (previous : Status) (o : Outcome) : Prop where
  idle : o = unchanged d previous
  acknowledged : Acknowledged previous
  other : previous.resourceName ≠ d.name

/-- Such an outcome has the status that it was given. -/
theorem KeepsOtherName.status (h : KeepsOtherName d previous o) : o.status = previous := by
  rw [h.idle]
  exact status_unchanged d h.acknowledged

/-- Where nothing has changed, only a status without a blemish is kept. -/
theorem resourceName_unchanged (d : Desired) (previous : Status)
    (h : (unchanged d previous).status.resourceName ≠ d.name) :
    KeepsOtherName d previous (unchanged d previous) := by
  by_cases hacknowledged : Acknowledged previous
  · refine ⟨rfl, hacknowledged, ?_⟩
    rwa [status_unchanged d hacknowledged] at h
  · have hnew : (previous.acknowledged && previous.latestError == "") = false := by
      rw [← Bool.not_eq_true, Bool.and_eq_true, beq_iff_eq]
      exact hacknowledged
    rw [unchanged, hnew] at h
    exact absurd rfl h

/-- What a plan leads to names the resource, or nothing has changed. -/
theorem Executes.resourceName {p : Plan} (h : Executes d previous p t o)
    (hother : o.status.resourceName ≠ d.name) : KeepsOtherName d previous o := by
  rcases h.outcome_cases with rfl | rfl | ⟨f, rfl⟩
  · exact absurd rfl hother
  · exact resourceName_unchanged d previous hother
  · exact absurd rfl hother

theorem Course.resourceName (h : Course d previous t (.ok o))
    (hother : o.status.resourceName ≠ d.name) : KeepsOtherName d previous o := by
  cases h with
  | creates hread hcreate => cases hcreate <;> exact absurd rfl hother
  | converges observed hread hconv =>
    cases hconv with
    | executed schema hschema hprevious p hplan hexec => exact hexec.resourceName hother
    | _ => exact absurd rfl hother

/-- The status of an outcome names the resource of the pass, unless nothing has changed and the
previous status is without a blemish and names another resource; then that status is kept. -/
theorem resourceName_iff (h : Ends (reconcile d previous) t (.ok o)) :
    (o.status.resourceName = d.name ↔ ¬ KeepsOtherName d previous o) ∧
      (KeepsOtherName d previous o → o.status = previous) := by
  refine ⟨⟨?_, ?_⟩, KeepsOtherName.status⟩
  · intro hname hkeeps
    rw [hkeeps.status] at hname
    exact hkeeps.other hname
  · intro hkeeps
    exact Decidable.byContradiction fun hother => hkeeps ((course_of_ends h).resourceName hother)

theorem resourceName_iff_logs :
    Ends (reconcile (bareIndex "logs") (.succeeded "metrics" .update))
        (replied (.probe "logs") (.ok false) ::
          changed .index .create (.create "logs" ⟨.empty, bareSchema, none⟩) (.ok ()))
        (.ok (created (bareIndex "logs"))) ∧
      (created (bareIndex "logs")).status.resourceName = "logs" := by
  have hends := ends_reconcile_created (d := bareIndex "logs") rfl (.succeeded "metrics" .update)
  refine ⟨hends, (resourceName_iff hends).1.mpr fun hkeeps => ?_⟩
  cases congrArg (fun s => s.operation) hkeeps.status

/-- An index with nothing in it but the marker is as declared. -/
theorem plan_bareIndex (name : String) :
    plan (bareIndex name) ⟨.empty, some bareSchema, none⟩ bareSchema = .ok (.send none none) := by
  rfl

/-- After a declaration was renamed, a pass that finds nothing to change ends with a status that
names the resource of before. -/
theorem name_kept_after_renaming :
    ∃ events status asked o, Life events status ∧
      Ends (reconcile (bareIndex "metrics") status) asked (.ok o) ∧
      o.status.resourceName = "logs" := by
  have hcourse : Course (bareIndex "metrics") (.succeeded "logs" .create) _
      (.ok (unchanged (bareIndex "metrics") (.succeeded "logs" .create))) :=
    .converges _ (.found _)
      (.executed bareSchema ownedSchema?_bare rfl _ (plan_bareIndex "metrics") .idle)
  exact ⟨_, _, _, _, life_bareCreation "logs", hcourse.ends, rfl⟩

end IndexKeeper.Pass
