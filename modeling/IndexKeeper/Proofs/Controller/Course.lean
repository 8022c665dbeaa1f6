import IndexKeeper.Proofs.Controller.Trace
import IndexKeeper.Proofs.Pass.Cleanup

/-!
# The courses of a controller's pass

Every way in which a controller's pass over an object may go, one constructor for each: what is
asked, in order and with its answers, and what the pass reports.  The part that is about the
resource is left to the pass about the resource; what is stored after it is spelled out here.
`ends_apply_iff` and `ends_cleanup_iff` say that these are all ways and that each can happen, and
`ends_pass_iff` puts them between the metrics that every pass counts.
-/

namespace IndexKeeper.Controller

open Program

variable {config : Config} {c : Connection} {o : Object} {t : Trace} {report : Report}

/-! ## Storing -/

/-- The fault of finalizers that could not be written. -/
def finalizersFault (r : Refusal) : Fault := .finalizer (Fault.apiRefusal r.message r.reason)

/-- The fault of a status that could not be written. -/
def statusFault (r : Refusal) : Fault := .kubernetes r.message r.reason

/-- The ways in which the finalizers of an object are stored. -/
inductive StoresFinalizers (o : Object) (change : FinalizerChange) :
    Trace → Except Fault Unit → Prop
  | kept (hafter : finalizersAfter o.finalizers o.kind.finalizer change = none) :
    StoresFinalizers o change [] (.ok ())
  | patched (finalizers : List String)
    (hafter : finalizersAfter o.finalizers o.kind.finalizer change = some finalizers)
    (r : Except Refusal Unit) :
    StoresFinalizers o change [patchedFinalizers o finalizers r] (r.mapError finalizersFault)

theorem ends_storeFinalizers_iff {change : FinalizerChange} {r : Except Fault Unit} :
    Ends (storeFinalizers o change) t r ↔ StoresFinalizers o change t r := by
  rw [storeFinalizers]
  cases hafter : finalizersAfter o.finalizers o.kind.finalizer change with
  | none =>
    constructor
    · intro h
      obtain ⟨rfl, rfl⟩ := ends_done_iff.mp h
      exact .kept hafter
    · intro h
      cases h with
      | kept _ => exact .done _
      | patched finalizers hother _ => cases hafter.symm.trans hother
  | some finalizers =>
    constructor
    · intro h
      obtain ⟨answer, rest, rfl, hrest⟩ := ends_ask_iff.mp h
      cases answer with
      | error refusal =>
        obtain ⟨rfl, rfl⟩ := ends_done_iff.mp hrest
        exact .patched finalizers hafter (.error refusal)
      | ok _ =>
        obtain ⟨rfl, rfl⟩ := ends_done_iff.mp hrest
        exact .patched finalizers hafter (.ok ())
    · intro h
      cases h with
      | kept hother => cases hafter.symm.trans hother
      | patched finalizers' hother answer =>
        cases hafter.symm.trans hother
        refine ends_ask_iff.mpr ⟨answer, [], rfl, ?_⟩
        cases answer <;> exact .done _

/-- The ways in which the status of an object is stored. -/
inductive StoresStatus (o : Object) (status : Status) : Trace → Except Fault Unit → Prop
  | kept (hstatus : o.status = some status) : StoresStatus o status [] (.ok ())
  | patched (hstatus : o.status ≠ some status) (r : Except Refusal Unit) :
    StoresStatus o status [patchedStatus o status r] (r.mapError statusFault)

theorem ends_storeStatus_iff {status : Status} {r : Except Fault Unit} :
    Ends (storeStatus o status) t r ↔ StoresStatus o status t r := by
  rw [storeStatus]
  by_cases hstatus : o.status = some status
  · rw [if_pos hstatus]
    constructor
    · intro h
      obtain ⟨rfl, rfl⟩ := ends_done_iff.mp h
      exact .kept hstatus
    · intro h
      cases h with
      | kept _ => exact .done _
      | patched hother _ => exact absurd hstatus hother
  · rw [if_neg hstatus]
    constructor
    · intro h
      obtain ⟨answer, rest, rfl, hrest⟩ := ends_ask_iff.mp h
      cases answer with
      | error refusal =>
        obtain ⟨rfl, rfl⟩ := ends_done_iff.mp hrest
        exact .patched hstatus (.error refusal)
      | ok _ =>
        obtain ⟨rfl, rfl⟩ := ends_done_iff.mp hrest
        exact .patched hstatus (.ok ())
    · intro h
      cases h with
      | kept hother => exact absurd hother hstatus
      | patched _ answer =>
        refine ends_ask_iff.mpr ⟨answer, [], rfl, ?_⟩
        cases answer <;> exact .done _

/-- What a pass reports when an outcome was stored, given what came of finalizers and status. -/
def storedReport (config : Config) (outcome : Outcome) (finalizers status : Except Fault Unit) :
    Report :=
  match fault? status <|> fault? finalizers with
  | some f => { result := .error f, finalizerFault := fault? finalizers }
  | none => { result := .ok (requeueAfter config outcome), message := some outcome.message }

theorem ends_store_iff {outcome : Outcome} :
    Ends (store config o outcome) t report ↔
      ∃ u v finalizers status, t = u ++ v ∧ StoresFinalizers o outcome.finalizer u finalizers ∧
        StoresStatus o outcome.status v status ∧
        report = storedReport config outcome finalizers status := by
  have hstore : store config o outcome = (storeFinalizers o outcome.finalizer >>= fun finalizers =>
      storeStatus o outcome.status >>= fun status =>
        .done (storedReport config outcome finalizers status)) := by
    refine congrArg (storeFinalizers o outcome.finalizer >>= ·) (funext fun finalizers => ?_)
    refine congrArg (storeStatus o outcome.status >>= ·) (funext fun status => ?_)
    rw [storedReport]
    cases fault? status <|> fault? finalizers <;> rfl
  rw [hstore, ends_bind_iff]
  simp only [ends_map_iff, ends_storeFinalizers_iff, ends_storeStatus_iff]
  constructor
  · rintro ⟨u, finalizers, v, rfl, hfinalizers, status, hstatus, rfl⟩
    exact ⟨u, v, finalizers, status, rfl, hfinalizers, hstatus, rfl⟩
  · rintro ⟨u, v, finalizers, status, rfl, hfinalizers, hstatus, rfl⟩
    exact ⟨u, finalizers, v, rfl, hfinalizers, status, hstatus, rfl⟩

/-! ## An object that stays -/

/-- The status of an object whose declaration can't be reconciled. -/
def Object.refusedStatus (o : Object) (f : Fault) : Status :=
  .failed o.spec.name o.previous.failureOperation f

/-- The ways in which a pass goes on to an outcome and stores it. -/
inductive Stores (config : Config) (c : Connection) (o : Object) (outcome : Outcome) :
    Trace → Report → Prop
  | reached {d : Desired} {asked : Pass.Transcript} {t u v : Trace}
    {finalizers status : Except Fault Unit} (hspec : o.spec.toDesired = .ok d)
    (hpass : Pass.Course d o.previous asked (.ok outcome))
    (hrealized : Realized (perform c o) asked t)
    (hfinalizers : StoresFinalizers o outcome.finalizer u finalizers)
    (hstatus : StoresStatus o outcome.status v status) :
    Stores config c o outcome (t ++ (u ++ v)) (storedReport config outcome finalizers status)

/-- The ways in which an object that stays is reconciled. -/
inductive Applies (config : Config) (c : Connection) (o : Object) : Trace → Report → Prop
  | refused {t : Trace} {stored : Except Fault Unit} (f : Fault)
    (hspec : o.spec.toDesired = .error f) (hstored : StoresStatus o (o.refusedStatus f) t stored) :
    Applies config c o t
      { result := stored.map fun _ => .after config.errorRequeueMs, specFault := some f }
  | unread {d : Desired} {asked : Pass.Transcript} {t : Trace} (f : Fault)
    (hspec : o.spec.toDesired = .ok d) (hpass : Pass.Course d o.previous asked (.error f))
    (hrealized : Realized (perform c o) asked t) : Applies config c o t { result := .error f }
  | stored {t : Trace} {report : Report} (outcome : Outcome)
    (hstores : Stores config c o outcome t report) : Applies config c o t report

theorem ends_refuse_iff {f : Fault} :
    Ends (refuse config o f) t report ↔ ∃ stored, StoresStatus o (o.refusedStatus f) t stored ∧
      report = { result := stored.map fun _ => .after config.errorRequeueMs,
                 specFault := some f } := by
  have hrefuse : refuse config o f = (storeStatus o (o.refusedStatus f) >>= fun stored =>
    .done { result := stored.map fun _ => .after config.errorRequeueMs, specFault := some f }) := rfl
  rw [hrefuse, ends_map_iff]
  simp only [ends_storeStatus_iff]

theorem ends_apply_iff :
    Ends (apply config c o) t report ↔ Applies config c o t report := by
  rw [apply]
  cases hspec : o.spec.toDesired with
  | error f =>
    constructor
    · intro h
      obtain ⟨stored, hstored, rfl⟩ := ends_refuse_iff.mp h
      exact .refused f hspec hstored
    · intro h
      cases h with
      | refused f' hother hstored =>
        cases hspec.symm.trans hother
        exact ends_refuse_iff.mpr ⟨_, hstored, rfl⟩
      | unread f' hother _ _ => cases hspec.symm.trans hother
      | stored outcome hstores =>
        cases hstores with
        | reached hother _ _ _ _ => cases hspec.symm.trans hother
  | ok d =>
    constructor
    · intro h
      obtain ⟨first, r, rest, rfl, hfirst, hrest⟩ := ends_bind_iff.mp h
      obtain ⟨asked, hends, hrealized⟩ := ends_realize_iff.mp hfirst
      have hpass := Pass.course_of_ends hends
      cases r with
      | error f =>
        obtain ⟨rfl, rfl⟩ := ends_done_iff.mp hrest
        rw [List.append_nil]
        exact .unread f hspec hpass hrealized
      | ok outcome =>
        obtain ⟨u, v, finalizers, status, rfl, hfinalizers, hstatus, rfl⟩ :=
          ends_store_iff.mp hrest
        exact .stored outcome (.reached hspec hpass hrealized hfinalizers hstatus)
    · intro h
      refine ends_bind_iff.mpr ?_
      cases h with
      | refused f hother _ => cases hspec.symm.trans hother
      | unread f hother hpass hrealized =>
        cases hspec.symm.trans hother
        exact ⟨t, _, [], (List.append_nil t).symm,
          ends_realize_iff.mpr ⟨_, hpass.ends, hrealized⟩, .done _⟩
      | stored outcome hstores =>
        cases hstores with
        | reached hother hpass hrealized hfinalizers hstatus =>
          cases hspec.symm.trans hother
          exact ⟨_, _, _, rfl, ends_realize_iff.mpr ⟨_, hpass.ends, hrealized⟩,
            ends_store_iff.mpr ⟨_, _, _, _, rfl, hfinalizers, hstatus, rfl⟩⟩

/-! ## An object that is being deleted -/

/-- The ways in which an object that is being deleted is cleaned up. -/
inductive Cleans (c : Connection) (o : Object) : Trace → Report → Prop
  | unguarded (hguard : o.isGuarded = false) : Cleans c o [] { result := .ok .onChange }
  | released {asked : Pass.Transcript} {t u : Trace} {outcome : Outcome}
    {stored : Except Fault Unit} (hguard : o.isGuarded = true)
    (hpass : Ends (Pass.finalize o.spec.deletionTarget o.previous) asked outcome)
    (hrealized : Realized (perform c o) asked t)
    (hstored : StoresFinalizers o outcome.finalizer u stored) :
    Cleans c o (t ++ u)
      { result := stored.map fun _ => .onChange, message := some outcome.message }

theorem ends_cleanup_iff : Ends (cleanup c o) t report ↔ Cleans c o t report := by
  rw [cleanup]
  cases hguard : o.isGuarded with
  | false =>
    constructor
    · intro h
      obtain ⟨rfl, rfl⟩ := ends_done_iff.mp h
      exact .unguarded hguard
    · intro h
      cases h with
      | unguarded _ => exact .done _
      | released hother _ _ _ => cases hguard.symm.trans hother
  | true =>
    constructor
    · intro h
      obtain ⟨first, outcome, rest, rfl, hfirst, hrest⟩ := ends_bind_iff.mp h
      obtain ⟨asked, hends, hrealized⟩ := ends_realize_iff.mp hfirst
      obtain ⟨stored, hstored, rfl⟩ := ends_map_iff.mp hrest
      exact .released hguard hends hrealized (ends_storeFinalizers_iff.mp hstored)
    · intro h
      cases h with
      | unguarded hother => cases hguard.symm.trans hother
      | released _ hpass hrealized hstored =>
        exact ends_bind_iff.mpr ⟨_, _, _, rfl, ends_realize_iff.mpr ⟨_, hpass, hrealized⟩,
          ends_map_iff.mpr ⟨_, ends_storeFinalizers_iff.mpr hstored, rfl⟩⟩

/-! ## The whole pass -/

/-- A trace between the metrics that every pass counts. -/
def enclosed (o : Object) (report : Report) (t : Trace) : Trace :=
  [counted (.passes o.kind)] ++ t ++ [counted (.durations o.kind)] ++
    if (fault? report.result).isSome then [counted (.failures o.kind)] else []

theorem ends_count_bind_iff {α : Type} {m : Metric} {f : Unit → Task α} {a : α} :
    Ends (count m >>= f) t a ↔ ∃ rest, t = counted m :: rest ∧ Ends (f ()) rest a := by
  rw [count, ask_bind, ends_ask_iff]
  constructor
  · rintro ⟨_, rest, rfl, h⟩
    exact ⟨rest, rfl, h⟩
  · rintro ⟨rest, rfl, h⟩
    exact ⟨(), rest, rfl, h⟩

/-- What a pass counts at its end. -/
def closing (o : Object) (report : Report) : Task Report := do
  count (.durations o.kind)
  if (fault? report.result).isSome then count (.failures o.kind)
  return report

theorem ends_closing_iff {report' : Report} :
    Ends (closing o report) t report' ↔ report' = report ∧
      t = [counted (.durations o.kind)] ++
        if (fault? report.result).isSome then [counted (.failures o.kind)] else [] := by
  rw [closing, ends_count_bind_iff]
  split
  · simp only [ends_count_bind_iff, pure_eq, ends_done_iff]
    constructor
    · rintro ⟨rest, rfl, last, rfl, rfl, rfl⟩
      exact ⟨rfl, rfl⟩
    · rintro ⟨rfl, rfl⟩
      exact ⟨_, rfl, _, rfl, rfl, rfl⟩
  · simp only [pure_eq, ends_done_iff]
    constructor
    · rintro ⟨rest, rfl, rfl, rfl⟩
      exact ⟨rfl, rfl⟩
    · rintro ⟨rfl, rfl⟩
      exact ⟨_, rfl, rfl, rfl⟩

theorem ends_pass_iff :
    Ends (pass config c o) t report ↔ ∃ body, t = enclosed o report body ∧
      Ends (if o.deleted then cleanup c o else apply config c o) body report := by
  have hpass : pass config c o = (count (.passes o.kind) >>= fun _ =>
      (if o.deleted then cleanup c o else apply config c o) >>= closing o) := by
    refine congrArg (count (.passes o.kind) >>= ·) (funext fun _ => ?_)
    cases o.deleted <;> rfl
  rw [hpass, ends_count_bind_iff]
  simp only [ends_bind_iff, ends_closing_iff]
  constructor
  · rintro ⟨rest, rfl, body, r, last, rfl, hbody, rfl, rfl⟩
    refine ⟨body, ?_, hbody⟩
    simp only [enclosed, List.append_assoc, List.cons_append, List.nil_append]
  · rintro ⟨body, rfl, hbody⟩
    refine ⟨_, ?_, body, report, _, rfl, hbody, rfl, rfl⟩
    simp only [enclosed, List.append_assoc, List.cons_append, List.nil_append]

/-- What comes first between the metrics comes right after the first of them. -/
theorem exists_enclosed_append (o : Object) (report : Report) (t u : Trace) :
    ∃ rest, enclosed o report (t ++ u) = counted (.passes o.kind) :: (t ++ rest) := by
  rw [enclosed]
  generalize (if (fault? report.result).isSome then [counted (.failures o.kind)] else [] : Trace) =
    failures
  exact ⟨u ++ [counted (.durations o.kind)] ++ failures, by simp⟩

section Views

variable (o : Object) (report : Report) (t : Trace)

@[simp] theorem exchangesOf_enclosed : exchangesOf (enclosed o report t) = exchangesOf t := by
  rw [enclosed]
  split <;> simp

@[simp] theorem patchesOf_enclosed : patchesOf (enclosed o report t) = patchesOf t := by
  rw [enclosed]
  split <;> simp

@[simp] theorem requestsOf_enclosed : requestsOf (enclosed o report t) = requestsOf t := by
  rw [enclosed]
  split <;> simp

end Views

/-! ## Outcomes -/

/-- A pass goes on to an outcome: the object stays, its declaration can be read, and so can the
resource. -/
def Reaches (c : Connection) (o : Object) (t : Trace) (outcome : Outcome) : Prop :=
  o.deleted = false ∧ ∃ d part rest, o.spec.toDesired = .ok d ∧
    Ends ((Pass.reconcile d o.previous).realize (perform c o)) part (.ok outcome) ∧
    t = counted (.passes o.kind) :: (part ++ rest)

/-- An outcome that is reached is the one that is stored. -/
theorem Reaches.stores {outcome : Outcome} (hreaches : Reaches c o t outcome)
    (h : Ends (pass config c o) t report) :
    ∃ body, t = enclosed o report body ∧ Stores config c o outcome body report := by
  obtain ⟨hdeleted, d, part, rest, hspec, hpart, ht⟩ := hreaches
  obtain ⟨body, rfl, hbody⟩ := ends_pass_iff.mp h
  rw [hdeleted, if_neg Bool.false_ne_true] at hbody
  refine ⟨body, rfl, ?_⟩
  -- the pass about the resource is answered once, so there is one way in which it can end
  have hunique {first last : Trace} {r : Except Fault Outcome} (hbody : body = first ++ last)
      (hfirst : Ends ((Pass.reconcile d o.previous).realize (perform c o)) first r) :
      r = .ok outcome := by
    obtain ⟨rest', henclosed⟩ := exists_enclosed_append o report first last
    rw [hbody, henclosed, List.cons.injEq] at ht
    exact (hfirst.eq_of_append hpart ht.2).2
  cases ends_apply_iff.mp hbody with
  | refused f hother _ => cases hspec.symm.trans hother
  | unread f hother hpass hrealized =>
    cases hspec.symm.trans hother
    cases hunique (List.append_nil body).symm (ends_realize_iff.mpr ⟨_, hpass.ends, hrealized⟩)
  | stored outcome' hstores =>
    have hsame : outcome' = outcome := by
      cases hstores with
      | reached hother hpass hrealized _ _ =>
        cases hspec.symm.trans hother
        exact Except.ok.inj (hunique rfl (ends_realize_iff.mpr ⟨_, hpass.ends, hrealized⟩))
    exact hsame ▸ hstores

/-- A pass that stores an outcome reaches it. -/
theorem Stores.reaches {outcome : Outcome} {body : Trace} (hdeleted : o.deleted = false)
    (h : Stores config c o outcome body report) :
    Ends (pass config c o) (enclosed o report body) report ∧
      Reaches c o (enclosed o report body) outcome := by
  refine ⟨ends_pass_iff.mpr ⟨body, rfl, ?_⟩, hdeleted, ?_⟩
  · rw [hdeleted, if_neg Bool.false_ne_true]
    exact ends_apply_iff.mpr (.stored outcome h)
  · cases h with
    | reached hspec hpass hrealized _ _ =>
      obtain ⟨rest, henclosed⟩ := exists_enclosed_append o _ _ _
      exact ⟨_, _, rest, hspec, ends_realize_iff.mpr ⟨_, hpass.ends, hrealized⟩, henclosed⟩

end IndexKeeper.Controller
