import IndexKeeper.Proofs.Parallel
import IndexKeeper.Proofs.Pass.Confirmation
import IndexKeeper.Proofs.Pass.Outcome

/-!
# What the previous status decides

A pass is given the status that the last one left.  It decides about adoption, it is kept where
nothing has changed, and it is recorded in part where a pass is rejected; but all that a pass does
with it goes back to one bit, whether a creation is still unconfirmed.  Two statuses that agree on
this bit lead to parallel passes: the same effects with the same payloads, and outcomes that can be
told apart only by the resource and the operation that they speak of (`parallel_reconcile`).  A
clean-up looks at another bit, whether the status is acknowledged (`parallel_finalize`).
-/

namespace IndexKeeper.Pass

open Program

/-! ## Outcomes that show the same -/

/-- Two outcomes show the same finalizer, message, acknowledgement and error. -/
structure Matches (o o' : Outcome) : Prop where
  finalizer : o.finalizer = o'.finalizer
  message : o.message = o'.message
  acknowledged : o.status.acknowledged = o'.status.acknowledged
  latestError : o.status.latestError = o'.status.latestError

/-- Two passes end with the same fault, or with outcomes that show the same. -/
inductive EndsAlike : Except Fault Outcome → Except Fault Outcome → Prop
  | fault (f : Fault) : EndsAlike (.error f) (.error f)
  | outcome {o o' : Outcome} (h : Matches o o') : EndsAlike (.ok o) (.ok o')

theorem Matches.refl (o : Outcome) : Matches o o := ⟨rfl, rfl, rfl, rfl⟩

/-- A rejection shows nothing of the status before it. -/
theorem matches_rejected (d : Desired) (previous previous' : Status) (f : Fault) :
    Matches (rejected d previous f) (rejected d previous' f) := ⟨rfl, rfl, rfl, rfl⟩

/-- A status that is kept shows what a new one would. -/
theorem matches_unchanged (d : Desired) (previous previous' : Status) :
    Matches (unchanged d previous) (unchanged d previous') where
  finalizer := rfl
  message := rfl
  acknowledged :=
    (acknowledged_unchanged d previous).1.trans (acknowledged_unchanged d previous').1.symm
  latestError :=
    (acknowledged_unchanged d previous).2.trans (acknowledged_unchanged d previous').2.symm

/-! ## Parallel passes -/

section Parallel

variable (d : Desired) (previous previous' : Status)

theorem parallel_sendSchema (schema : Json) :
    Parallel Matches (sendSchema d previous schema) (sendSchema d previous' schema) := by
  refine .bind_left _ fun answer => ?_
  cases answer with
  | ok _ => exact .done (.refl _)
  | error e => exact .done (matches_rejected d previous previous' _)

theorem parallel_sendSettings (settings : Tree) (schema : Option Json) :
    Parallel Matches (sendSettings d previous settings schema)
      (sendSettings d previous' settings schema) := by
  refine .bind_left _ fun answer => ?_
  cases answer with
  | error e => exact .done (matches_rejected d previous previous' _)
  | ok _ =>
    cases schema with
    | none => exact .done (.refl _)
    | some schema => exact parallel_sendSchema d previous previous' schema

theorem parallel_replace :
    Parallel Matches (replace d previous) (replace d previous') := by
  refine .bind_left _ fun _ => ?_
  cases d.payload with
  | error m => exact .done (matches_rejected d previous previous' _)
  | ok payload =>
    refine .bind_left _ fun answer => ?_
    cases answer with
    | ok _ => exact .done (.refl _)
    | error e => exact .done (matches_rejected d previous previous' _)

theorem parallel_execute (p : Plan) :
    Parallel Matches (execute d previous p) (execute d previous' p) := by
  cases p with
  | replace => exact parallel_replace d previous previous'
  | send settings schema =>
    cases settings with
    | some settings => exact parallel_sendSettings d previous previous' settings schema
    | none =>
      cases schema with
      | some schema => exact parallel_sendSchema d previous previous' schema
      | none => exact .done (matches_unchanged d previous previous')

variable {previous previous'}

theorem parallel_converge
    (h : previous.isUnacknowledgedCreate = previous'.isUnacknowledgedCreate)
    (observed : Observed) :
    Parallel Matches (converge d previous observed) (converge d previous' observed) := by
  rw [converge, converge]
  cases observed.ownedSchema? with
  | none => exact .done (matches_rejected d previous previous' _)
  | some schema =>
    -- the one place where the status decides what is asked
    simp only [h]
    split
    · exact .done (.refl _)
    · cases plan d observed schema with
      | error f => exact .done (matches_rejected d previous previous' _)
      | ok p => exact parallel_execute d previous previous' p

theorem parallel_reconcile
    (h : previous.isUnacknowledgedCreate = previous'.isUnacknowledgedCreate) :
    Parallel EndsAlike (reconcile d previous) (reconcile d previous') := by
  refine .bind_left _ fun observed => ?_
  cases observed with
  | error e => exact .done (.fault _)
  | ok found =>
    cases found with
    | none => exact .bind_left _ fun o => .done (.outcome (.refl o))
    | some observed =>
      exact (parallel_converge d h observed).bind fun _ _ hmatches => .done (.outcome hmatches)

/-- A clean-up asks the same whatever else is in an acknowledged status, and says the same. -/
theorem parallel_finalize (h : previous.acknowledged = previous'.acknowledged)
    (t : DeletionTarget) :
    Parallel (fun o o' => o.message = o'.message ∧ o.finalizer = o'.finalizer)
      (finalize t previous) (finalize t previous') := by
  have hdrop : dropResource t previous = dropResource t previous' := by
    rw [dropResource, dropResource, h]
  rw [finalize, finalize, hdrop]
  exact .bind_left _ fun _ => .done ⟨rfl, rfl⟩

end Parallel

/-! ## Two runs -/

/-- The previous status has no say in a pass but for an unconfirmed creation.  Whatever answers the
effects of a pass, two statuses that agree on whether a creation is unconfirmed lead to the same
effects, the same state of what answers, and the same fault or outcomes that show the same; and two
that agree on whether they are acknowledged lead to clean-ups with the same effects and message. -/
theorem previous_status_influence {σ : Type} (respond : σ → (q : Effect) → q.Answer × σ) (s : σ)
    (previous previous' : Status) :
    (previous.isUnacknowledgedCreate = previous'.isUnacknowledgedCreate → ∀ d : Desired,
      SameRun EndsAlike ((reconcile d previous).run respond s)
        ((reconcile d previous').run respond s)) ∧
    (previous.acknowledged = previous'.acknowledged → ∀ t : DeletionTarget,
      SameRun (fun o o' => o.message = o'.message ∧ o.finalizer = o'.finalizer)
        ((finalize t previous).run respond s) ((finalize t previous').run respond s)) :=
  ⟨fun h d => (parallel_reconcile d h).run respond s,
    fun h t => (parallel_finalize h t).run respond s⟩

/-- Where a resource of this controller is found, the status of another resource and another
operation leads to the same update and the same deletion as the status of this one does. -/
theorem previous_status_influence_logs :
    let found : Observed :=
      ⟨⟨[("index", .obj [("blocks", .str "false")])]⟩, some bareSchema, none⟩
    let c : Cluster := ⟨[("logs", found)], [], []⟩
    let d : Desired :=
      ⟨"logs", true, ⟨[("index", .obj [("blocks", .str "true")])]⟩, .obj [], none⟩
    let pass (previous : Status) := (reconcile d previous).run (Cluster.respond (.ok [])) c
    let cleanUp (previous : Status) :=
      (finalize ⟨"logs", .index, true⟩ previous).run (Cluster.respond (.ok [])) c
    (Status.succeeded "metrics" .update).isUnacknowledgedCreate =
        (Status.succeeded "logs" .create).isUnacknowledgedCreate ∧
      (Status.succeeded "metrics" .update).acknowledged =
        (Status.succeeded "logs" .create).acknowledged ∧
      callsOf (pass (.succeeded "metrics" .update)).asked =
        [.probe "logs", .fetch "logs", .updateSettings "logs" d.settings] ∧
      (pass (.succeeded "metrics" .update)).asked = (pass (.succeeded "logs" .create)).asked ∧
      EndsAlike (pass (.succeeded "metrics" .update)).value
        (pass (.succeeded "logs" .create)).value ∧
      callsOf (cleanUp (.succeeded "metrics" .update)).asked = [.fetch "logs", .delete "logs"] ∧
      (cleanUp (.succeeded "metrics" .update)).asked = (cleanUp (.succeeded "logs" .create)).asked ∧
      (cleanUp (.succeeded "metrics" .update)).value.message =
        (cleanUp (.succeeded "logs" .create)).value.message := by
  intro found c d pass cleanUp
  have hcreate : (Status.succeeded "metrics" .update).isUnacknowledgedCreate =
      (Status.succeeded "logs" .create).isUnacknowledgedCreate := rfl
  have hacknowledged : (Status.succeeded "metrics" .update).acknowledged =
      (Status.succeeded "logs" .create).acknowledged := rfl
  obtain ⟨hpasses, hcleanUps⟩ := previous_status_influence (Cluster.respond (.ok [])) c
    (.succeeded "metrics" .update) (.succeeded "logs" .create)
  have hpass := hpasses hcreate d
  have hcleanUp := hcleanUps hacknowledged ⟨"logs", .index, true⟩
  exact ⟨hcreate, hacknowledged, rfl, hpass.asked, hpass.value, rfl, hcleanUp.asked,
    hcleanUp.value.1⟩

end IndexKeeper.Pass
