import IndexKeeper.Proofs.Controller.Cleanup
import IndexKeeper.Proofs.Controller.Course
import IndexKeeper.Proofs.Controller.Patch
import IndexKeeper.Proofs.Pass.Outcome
import IndexKeeper.Proofs.Remote.Exchange

/-!
# What is stored of an outcome

A pass that reaches an outcome stores all of it and nothing else (`StoresAll`): which patches it
sends is decided by the outcome and the object, not by what came of the other patch, and its result
tells whether they were granted.  A status is patched only if it speaks of an operation: the one
outcome without an operation has the status that is stored already.  So what is stored after the
patch is the status of the outcome, with nothing left of the old one (`WritesStatus`).  A patch of
the finalizers leaves those of the object, with the one of this operator behind them
(`WritesFinalizers`).
-/

namespace IndexKeeper.Controller

open Program

variable {config : Config} {c : Connection} {o : Object} {outcome : Outcome} {t u : Trace}
  {report : Report}

/-! ## Patches of a trace -/

/-- Why a patch was refused, if it was. -/
def refusal? : Exchange Effect Effect.Answer → Option Refusal
  | ⟨.kubernetes (.patchFinalizers _ _), .error refusal⟩ => some refusal
  | ⟨.kubernetes (.patchStatus _ _), .error refusal⟩ => some refusal
  | _ => none

/-- Whether a pass has to add the finalizer. -/
def AddsFinalizer (o : Object) (outcome : Outcome) : Prop :=
  outcome.finalizer = .ensure ∧ o.kind.finalizer ∉ o.finalizers

instance : Decidable (AddsFinalizer o outcome) := inferInstanceAs (Decidable (_ ∧ _))

theorem finalizersAfter_of_adds (h : AddsFinalizer o outcome) :
    finalizersAfter o.finalizers o.kind.finalizer outcome.finalizer =
      some (o.finalizers ++ [o.kind.finalizer]) := by
  rw [h.1, finalizersAfter, if_neg]
  simpa using h.2

theorem finalizersAfter_of_not_adds (hkept : outcome.finalizer ≠ .remove)
    (h : ¬ AddsFinalizer o outcome) :
    finalizersAfter o.finalizers o.kind.finalizer outcome.finalizer = none := by
  cases hchange : outcome.finalizer with
  | remove => exact absurd hchange hkept
  | unchanged => rfl
  | ensure =>
    have hpresent : o.kind.finalizer ∈ o.finalizers := by
      by_contra hmissing
      exact h ⟨hchange, hmissing⟩
    rw [finalizersAfter, if_pos]
    simpa using hpresent

/-- The patch that adds the finalizer, if it has to be added, with the answer. -/
def addition (o : Object) (outcome : Outcome) (r : Except Refusal Unit) : Trace :=
  if AddsFinalizer o outcome then
    [patchedFinalizers o (o.finalizers ++ [o.kind.finalizer]) r]
  else []

/-- The patch of the status, unless it is stored already, with the answer. -/
def statusPatch (o : Object) (status : Status) (r : Except Refusal Unit) : Trace :=
  if o.status ≠ some status then [patchedStatus o status r] else []

section Patches

variable {r : Except Refusal Unit} {finalizers : List String} {status : Status}

theorem patchesOf_addition : patchesOf (addition o outcome r) = addition o outcome r := by
  rw [addition]
  split <;> rfl

theorem patchesOf_statusPatch : patchesOf (statusPatch o status r) = statusPatch o status r := by
  rw [statusPatch]
  split <;> rfl

theorem requestsOf_statusPatch : requestsOf (statusPatch o status r) = statusPatch o status r := by
  rw [statusPatch]
  split <;> rfl

theorem exchangesOf_addition : exchangesOf (addition o outcome r) = [] := by
  rw [addition]
  split <;> rfl

theorem exchangesOf_statusPatch : exchangesOf (statusPatch o status r) = [] := by
  rw [statusPatch]
  split <;> rfl

theorem eq_of_mem_addition {x : Exchange Effect Effect.Answer} (h : x ∈ addition o outcome r) :
    x = patchedFinalizers o (o.finalizers ++ [o.kind.finalizer]) r := by
  rw [addition] at h
  split at h
  · exact List.mem_singleton.mp h
  · cases h

theorem eq_of_mem_statusPatch {x : Exchange Effect Effect.Answer} (h : x ∈ statusPatch o status r) :
    x = patchedStatus o status r ∧ o.status ≠ some status := by
  rw [statusPatch] at h
  split at h
  · next hdiffers => exact ⟨List.mem_singleton.mp h, hdiffers⟩
  · cases h

/-- What was not sent was not refused. -/
theorem granted_iff {p : Prop} [Decidable p] {x : Exchange Effect Effect.Answer}
    (hsent : refusal? x = none ↔ r = .ok ()) (hunsent : ¬ p → r = .ok ()) :
    (∀ y ∈ if p then [x] else [], refusal? y = none) ↔ r = .ok () := by
  split
  · rw [List.forall_mem_singleton, hsent]
  · next hp => exact iff_of_true (List.forall_mem_nil _) (hunsent hp)

theorem refusal?_patchedFinalizers :
    refusal? (patchedFinalizers o finalizers r) = none ↔ r = .ok () := by
  cases r with
  | ok _ => exact iff_of_true rfl rfl
  | error refusal => exact iff_of_false nofun nofun

theorem refusal?_patchedStatus : refusal? (patchedStatus o status r) = none ↔ r = .ok () := by
  cases r with
  | ok _ => exact iff_of_true rfl rfl
  | error refusal => exact iff_of_false nofun nofun

end Patches

/-! ## What came of the patches -/

theorem StoresFinalizers.exists_addition {stored : Except Fault Unit}
    (h : StoresFinalizers o outcome.finalizer u stored) (hkept : outcome.finalizer ≠ .remove) :
    ∃ r, u = addition o outcome r ∧ stored = r.mapError finalizersFault ∧
      (¬ AddsFinalizer o outcome → r = .ok ()) := by
  by_cases hadds : AddsFinalizer o outcome
  · have hafter := finalizersAfter_of_adds hadds
    cases h with
    | kept hother => cases hafter.symm.trans hother
    | patched finalizers hother r =>
      cases hafter.symm.trans hother
      exact ⟨r, (if_pos hadds).symm, rfl, fun hnot => absurd hadds hnot⟩
  · have hafter := finalizersAfter_of_not_adds hkept hadds
    cases h with
    | kept _ => exact ⟨.ok (), (if_neg hadds).symm, rfl, fun _ => rfl⟩
    | patched finalizers hother r => cases hafter.symm.trans hother

theorem StoresStatus.exists_patch {status : Status} {stored : Except Fault Unit}
    (h : StoresStatus o status u stored) :
    ∃ r, u = statusPatch o status r ∧ stored = r.mapError statusFault ∧
      (o.status = some status → r = .ok ()) := by
  cases h with
  | kept hstatus => exact ⟨.ok (), (if_neg (not_not_intro hstatus)).symm, rfl, fun _ => rfl⟩
  | patched hstatus r =>
    exact ⟨r, (if_pos hstatus).symm, rfl, fun hstored => absurd hstored hstatus⟩

section Result

variable {finalizers status : Except Refusal Unit}

/-- The report of a pass that stored an outcome, given the answers to its patches. -/
def grantedReport (config : Config) (outcome : Outcome) (finalizers status : Except Refusal Unit) :
    Report :=
  storedReport config outcome (finalizers.mapError finalizersFault) (status.mapError statusFault)

theorem result_of_status_refused {refusal : Refusal} (h : status = .error refusal) :
    (grantedReport config outcome finalizers status).result = .error (statusFault refusal) := by
  rw [h]
  rfl

theorem result_of_finalizers_refused {refusal : Refusal} (h : finalizers = .error refusal)
    (hstatus : status = .ok ()) :
    (grantedReport config outcome finalizers status).result =
      .error (finalizersFault refusal) := by
  rw [h, hstatus]
  rfl

theorem result_of_granted (hfinalizers : finalizers = .ok ()) (hstatus : status = .ok ()) :
    (grantedReport config outcome finalizers status).result =
      .ok (requeueAfter config outcome) := by
  rw [hfinalizers, hstatus]
  rfl

theorem result_eq_ok_iff {requeue : Requeue} :
    (grantedReport config outcome finalizers status).result = .ok requeue ↔
      (finalizers = .ok () ∧ status = .ok ()) ∧ requeue = requeueAfter config outcome := by
  cases status with
  | error refusal => simp [result_of_status_refused]
  | ok _ =>
    cases finalizers with
    | error refusal => simp [result_of_finalizers_refused]
    | ok _ => simp [result_of_granted, eq_comm]

end Result

/-! ## The whole pass -/

/-- A status that has to be patched speaks of an operation. -/
theorem operation_ne_none {d : Desired} {asked : Pass.Transcript}
    (h : Pass.Course d o.previous asked (.ok outcome)) (hdiffers : o.status ≠ some outcome.status) :
    outcome.status.operation ≠ none := by
  intro hnone
  obtain ⟨hkept, hacknowledged⟩ := h.status_of_operation hnone
  cases hstored : o.status with
  | none =>
    -- the first status was confirmed by nobody
    rw [Object.previous, hstored] at hacknowledged
    cases hacknowledged
  | some status =>
    rw [Object.previous, hstored, Option.getD_some] at hkept
    exact hdiffers (hstored.trans (congrArg some hkept.symm))

/-- All of an outcome is stored, and the report tells whether it was. -/
structure StoresAll (config : Config) (o : Object) (outcome : Outcome) (t : Trace)
    (report : Report) : Prop where
  /-- Which patches are sent does not depend on what comes of them. -/
  patches : ∃ finalizers status,
    patchesOf t = addition o outcome finalizers ++ statusPatch o outcome.status status
  /-- Whatever was stored, a patch of the finalizers adds the one of this operator behind those that
  the object had. -/
  writesFinalizers : ∀ l r, patchedFinalizers o l r ∈ t →
    WritesFinalizers (.patchFinalizers o l) o (o.finalizers ++ [o.kind.finalizer])
  /-- Whatever was stored, the status that is stored by the patch is that of the outcome. -/
  writesStatus : ∀ s r, patchedStatus o s r ∈ t →
    WritesStatus (.patchStatus o s) outcome.status
  ok_iff : (∃ requeue, report.result = .ok requeue) ↔ ∀ x ∈ patchesOf t, refusal? x = none
  /-- A status that could not be written is the worse fault. -/
  statusRefused : ∀ refusal, patchedStatus o outcome.status (.error refusal) ∈ t →
    report.result = .error (statusFault refusal)
  finalizersRefused : ∀ finalizers refusal, patchedFinalizers o finalizers (.error refusal) ∈ t →
    (∀ refusal', patchedStatus o outcome.status (.error refusal') ∉ t) →
    report.result = .error (finalizersFault refusal)
  requeue : ∀ requeue, report.result = .ok requeue →
    requeue = .after (if outcome.isFailure then config.errorRequeueMs else config.requeueMs)

/-- The requests to the server of a pass with an outcome are those of the pass about the
resource. -/
theorem Reaches.exists_exchanges (hreaches : Reaches c o t outcome)
    (h : Ends (pass config c o) t report) :
    ∃ d asked part, o.spec.toDesired = .ok d ∧ Pass.Course d o.previous asked (.ok outcome) ∧
      Realized (perform c o) asked part ∧ exchangesOf t = exchangesOf part := by
  obtain ⟨body, rfl, hstores⟩ := hreaches.stores h
  cases hstores with
  | reached hspec hpass hrealized hfinalizers hstatus =>
    obtain ⟨r, rfl, _⟩ := hfinalizers.exists_addition hpass.finalizer_ne_remove
    obtain ⟨s, rfl, _⟩ := hstatus.exists_patch
    refine ⟨_, _, _, hspec, hpass, hrealized, ?_⟩
    simp only [exchangesOf_enclosed, exchangesOf_append, exchangesOf_addition,
      exchangesOf_statusPatch, List.append_nil]

/-- The patches of a pass with an outcome, with the answers that make its report.  What was not
sent counts as granted. -/
theorem Reaches.exists_patches (hreaches : Reaches c o t outcome)
    (h : Ends (pass config c o) t report) :
    ∃ finalizers status,
      patchesOf t = addition o outcome finalizers ++ statusPatch o outcome.status status ∧
      report = grantedReport config outcome finalizers status ∧
      (¬ AddsFinalizer o outcome → finalizers = .ok ()) ∧
      (o.status = some outcome.status → status = .ok ()) ∧
      (o.status ≠ some outcome.status → outcome.status.operation ≠ none) := by
  obtain ⟨body, rfl, hstores⟩ := hreaches.stores h
  cases hstores with
  | reached hspec hpass hrealized hfinalizers hstatus =>
    obtain ⟨r, rfl, rfl, hr⟩ := hfinalizers.exists_addition hpass.finalizer_ne_remove
    obtain ⟨s, rfl, rfl, hs⟩ := hstatus.exists_patch
    refine ⟨r, s, ?_, rfl, hr, hs, operation_ne_none hpass⟩
    simp only [patchesOf_enclosed, patchesOf_append, patchesOf_of_realized hrealized,
      patchesOf_addition, patchesOf_statusPatch, List.nil_append]

section Sent

variable {finalizers status r : Except Refusal Unit}

/-- A patch of the finalizers that is found in a trace adds the one of this operator, and has the
answer that is given there. -/
theorem eq_of_patchedFinalizers_mem
    (hpatches : patchesOf t =
      addition o outcome finalizers ++ statusPatch o outcome.status status) {l : List String}
    (hmem : patchedFinalizers o l r ∈ t) :
    l = o.finalizers ++ [o.kind.finalizer] ∧ r = finalizers := by
  have hpatch := mem_patchesOf_iff.mpr ⟨hmem, rfl⟩
  rw [hpatches, List.mem_append] at hpatch
  rcases hpatch with hin | hin
  · cases eq_of_mem_addition hin
    exact ⟨rfl, rfl⟩
  · cases (eq_of_mem_statusPatch hin).1

/-- So has a patch of the status, which is that of the outcome and was not stored. -/
theorem eq_of_patchedStatus_mem
    (hpatches : patchesOf t =
      addition o outcome finalizers ++ statusPatch o outcome.status status) {written : Status}
    (hmem : patchedStatus o written r ∈ t) :
    written = outcome.status ∧ r = status ∧ o.status ≠ some outcome.status := by
  have hpatch := mem_patchesOf_iff.mpr ⟨hmem, rfl⟩
  rw [hpatches, List.mem_append] at hpatch
  rcases hpatch with hin | hin
  · cases eq_of_mem_addition hin
  · obtain ⟨heq, hdiffers⟩ := eq_of_mem_statusPatch hin
    cases heq
    exact ⟨rfl, rfl, hdiffers⟩

/-- A status that is not stored is sent. -/
theorem patchedStatus_mem
    (hpatches : patchesOf t =
      addition o outcome finalizers ++ statusPatch o outcome.status status)
    (hdiffers : o.status ≠ some outcome.status) : patchedStatus o outcome.status status ∈ t := by
  refine (mem_patchesOf_iff.mp ?_).1
  rw [hpatches, statusPatch, if_pos hdiffers]
  exact List.mem_append_right _ List.mem_cons_self

end Sent

/-- What a pass decides is what gets stored. -/
theorem stores_outcome (h : Ends (pass config c o) t report) (hreaches : Reaches c o t outcome) :
    StoresAll config o outcome t report := by
  obtain ⟨finalizers, status, hpatches, rfl, hfinalizers, hstatus, hoperation⟩ :=
    hreaches.exists_patches h
  refine {
    patches := ⟨finalizers, status, hpatches⟩
    writesFinalizers := ?_
    writesStatus := ?_
    ok_iff := ?_
    statusRefused := ?_
    finalizersRefused := ?_
    requeue := fun requeue hresult => (result_eq_ok_iff.mp hresult).2 }
  · intro l r hmem
    obtain ⟨rfl, _⟩ := eq_of_patchedFinalizers_mem hpatches hmem
    exact writesFinalizers_patchFinalizers o _
  · intro s r hmem
    obtain ⟨rfl, _, hdiffers⟩ := eq_of_patchedStatus_mem hpatches hmem
    exact writesStatus_patchStatus (hoperation hdiffers) o
  · rw [hpatches, List.forall_mem_append, addition, statusPatch,
      granted_iff refusal?_patchedFinalizers hfinalizers,
      granted_iff refusal?_patchedStatus fun hstored => hstatus (not_not.mp hstored)]
    constructor
    · rintro ⟨requeue, hresult⟩
      exact (result_eq_ok_iff.mp hresult).1
    · intro hgranted
      exact ⟨_, result_eq_ok_iff.mpr ⟨hgranted, rfl⟩⟩
  · intro refusal hmem
    obtain ⟨_, hrefused, _⟩ := eq_of_patchedStatus_mem hpatches hmem
    exact result_of_status_refused hrefused.symm
  · intro l refusal hmem hnone
    obtain ⟨_, hrefused⟩ := eq_of_patchedFinalizers_mem hpatches hmem
    refine result_of_finalizers_refused hrefused.symm ?_
    cases hcase : status with
    | ok _ => rfl
    | error refusal' =>
      -- a status that was refused was sent
      have hdiffers : o.status ≠ some outcome.status := by
        intro hstored
        cases (hstatus hstored).symm.trans hcase
      exact absurd (hcase ▸ patchedStatus_mem hpatches hdiffers) (hnone refusal')

/-! ## A pass that creates -/

/-- The answer of a server that has nothing there. -/
def missing : Http.Reply := .answered 404 (.whole [])

/-- What is asked to create an index. -/
def creation (url : Url) (payload : Desired.Payload) : Trace :=
  [sent ⟨.head, url, none⟩ missing, counted (.mutations .index .create),
    sent ⟨.put, url, some (Report.ofIndex payload)⟩ confirmed]

theorem ends_probe_missing {name : String} {url : Url} (hkind : o.kind = .index)
    (hurl : c.url? name = some url) (hweb : url.isWeb = true) :
    Ends (perform c o (.remote (.probe name))) [sent ⟨.head, url, none⟩ missing] (.ok false) := by
  refine ends_perform_remote_iff.mpr ⟨[⟨⟨.head, url, none⟩, missing⟩], ?_, rfl⟩
  rw [hkind]
  exact Connection.ends_perform_probe_iff.mpr ⟨_, .sent url hurl hweb missing, rfl⟩

theorem ends_create_confirmed {name : String} {url : Url} (hkind : o.kind = .index)
    (hurl : c.url? name = some url) (hweb : url.isWeb = true) (payload : Desired.Payload) :
    Ends (perform c o (.remote (.create name payload)))
      [sent ⟨.put, url, some (Report.ofIndex payload)⟩ confirmed] (.ok ()) := by
  refine ends_perform_remote_iff.mpr
    ⟨[⟨⟨.put, url, some (Report.ofIndex payload)⟩, confirmed⟩], ?_, rfl⟩
  rw [hkind]
  refine Connection.ends_change_iff.mpr ⟨_, .sent url hurl hweb confirmed, ?_⟩
  rw [Connection.confirmation, judge_confirmed]

/-- An index that is not there is created, and the outcome is stored. -/
theorem stores_creation {d : Desired} {url : Url} {payload : Desired.Payload} {u v : Trace}
    {finalizers status : Except Fault Unit} (hkind : o.kind = .index)
    (hspec : o.spec.toDesired = .ok d) (hindex : d.kind = .index)
    (hurl : c.url? d.name = some url) (hweb : url.isWeb = true) (hpayload : d.payload = .ok payload)
    (hfinalizers : StoresFinalizers o .ensure u finalizers)
    (hstatus : StoresStatus o (.succeeded d.name .create) v status) :
    Stores config c o (Pass.created d) (creation url payload ++ (u ++ v))
      (storedReport config (Pass.created d) finalizers status) := by
  have hcourse : Pass.Course d o.previous _ (.ok (Pass.created d)) :=
    .creates .absent (.confirmed payload hpayload)
  refine .reached hspec hcourse ?_ hfinalizers hstatus
  have hcounted : Ends (perform c o (.count (.mutations d.kind .create)))
      [counted (.mutations .index .create)] () := by
    rw [hindex]
    exact .ask _ (.done _)
  have hchanged : Realized (perform c o)
      (Pass.changed d.kind .create (.create d.name payload) (.ok ()))
      [counted (.mutations .index .create),
        sent ⟨.put, url, some (Report.ofIndex payload)⟩ confirmed] :=
    realized_cons_iff.mpr ⟨_, _, rfl, hcounted,
      realized_cons_iff.mpr ⟨_, [], rfl, ends_create_confirmed hkind hurl hweb payload, .nil⟩⟩
  exact realized_append_iff.mpr ⟨[sent ⟨.head, url, none⟩ missing], _, rfl,
    realized_cons_iff.mpr ⟨_, [], rfl, ends_probe_missing hkind hurl hweb, .nil⟩, hchanged⟩

/-- What is desired by the declaration of an index that says nothing but its name. -/
def bareIndex (name : String) : Desired := ⟨name, false, ⟨[("index", .obj [])]⟩, .obj [], none⟩

/-- The refusal of a write that comes after another one. -/
def conflict : Refusal := ⟨"the object has been modified", "Conflict"⟩

/-- The status is stored although the finalizer could not be. -/
theorem stores_outcome_conflict :
    ∃ t report, Ends (pass { esUrl := loopback.base } loopback (staying "logs")) t report ∧
      Reaches loopback (staying "logs") t (Pass.created (bareIndex "logs")) ∧
      patchedFinalizers (staying "logs") [Kind.index.finalizer] (.error conflict) ∈ t ∧
      StoresAll { esUrl := loopback.base } (staying "logs")
        (Pass.created (bareIndex "logs")) t report := by
  have hurl : loopback.url? "logs" = some (loopbackUrl "/logs") := by cbv
  have hstores : Stores { esUrl := loopback.base } loopback (staying "logs")
      (Pass.created (bareIndex "logs")) _ _ :=
    stores_creation rfl rfl rfl hurl (by decide) rfl
      (.patched [Kind.index.finalizer] rfl (.error conflict)) (.patched (by decide) (.ok ()))
  obtain ⟨hends, hreaches⟩ := hstores.reaches rfl
  refine ⟨_, _, hends, hreaches, ?_, stores_outcome hends hreaches⟩
  simp [enclosed]

end IndexKeeper.Controller
