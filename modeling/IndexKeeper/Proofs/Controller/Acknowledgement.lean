import IndexKeeper.Proofs.Controller.Release
import IndexKeeper.Proofs.Controller.Storing
import IndexKeeper.Proofs.Pass.Report

/-!
# What an acknowledged status stands for

A status says that it is acknowledged only if the server said so.  A call that changes something
says that it was made exactly if its request was confirmed (`Truthful`), and an outcome is
acknowledged only if every change of the pass was made; so behind an acknowledged status every
request that may have changed something was answered with a confirmation (`AllConfirm`).  A clean-up
is no exception: it writes no status, whatever came of its deletion.
-/

namespace IndexKeeper

/-- A change is one request at most, so one that was made has it confirmed. -/
theorem Connection.Truthful.confirms {α : Type} {c : Connection} {kind : Kind} {call : Call}
    {t : Requests} {r : Except RemoteError α} (h : Truthful c kind call t r)
    (hmade : ∃ v, r = .ok v) {x : Program.Exchange Http.Request fun _ => Http.Reply} (hx : x ∈ t)
    (hchange : x.question.method.isChange = true) : Confirms x.response := by
  obtain ⟨y, hy, hychange, hconfirms⟩ := h.ok_iff.mp hmade
  have hxin : x ∈ t.filter fun x => x.question.method.isChange := List.mem_filter.mpr ⟨hx, hchange⟩
  have hyin : y ∈ t.filter fun x => x.question.method.isChange :=
    List.mem_filter.mpr ⟨hy, hychange⟩
  rcases Nat.le_one_iff_eq_zero_or_eq_one.mp h.once with hzero | hone
  · rw [List.eq_nil_of_length_eq_zero hzero] at hxin
    cases hxin
  · obtain ⟨z, hz⟩ := List.length_eq_one_iff.mp hone
    rw [hz, List.mem_singleton] at hxin hyin
    rw [hxin, ← hyin]
    exact hconfirms

namespace Controller

open Program Connection

variable {config : Config} {c : Connection} {o : Object} {outcome : Outcome} {t : Trace}
  {report : Report}

/-- Every request that may have changed something was confirmed. -/
def AllConfirm (requests : Requests) : Prop :=
  ∀ x ∈ requests, x.question.method.isChange = true → Confirms x.response

/-- The changes of a pass that were all made were all confirmed. -/
theorem allConfirm_of_realized {asked : Pass.Transcript} (h : Realized (perform c o) asked t)
    (hmade : Pass.AllConfirmed asked) : AllConfirm (exchangesOf t) := by
  intro x hx hchange
  obtain ⟨call, r, requests, hmem, hmutation, hends, hin⟩ := exists_change_of_realized h hx hchange
  have hok := hmade call r hmutation (List.mem_filter.mp hmem).1
  exact (truthful_of_ends_perform hmutation hends).confirms hok hin hchange

/-- Behind an acknowledged outcome all changes were confirmed. -/
theorem Reaches.allConfirm (hreaches : Reaches c o t outcome) (h : Ends (pass config c o) t report)
    (hacknowledged : outcome.status.acknowledged = true) : AllConfirm (exchangesOf t) := by
  obtain ⟨d, asked, part, _, hpass, hrealized, hexchanges⟩ := hreaches.exists_exchanges h
  rw [hexchanges]
  exact allConfirm_of_realized hrealized (hpass.allConfirmed hacknowledged)

/-- A clean-up writes no status. -/
theorem patchedStatus_notMem_of_cleanup {status : Status} {r : Except Refusal Unit}
    (h : Ends (cleanup c o) t report) : patchedStatus o status r ∉ t := by
  intro hmem
  cases hguard : o.isGuarded with
  | false =>
    have hrequest := mem_requestsOf_iff.mpr ⟨hmem, rfl⟩
    rw [requestsOf_of_unguarded hguard h] at hrequest
    cases hrequest
  | true =>
    obtain ⟨_, ⟨answer, hpatches⟩, _⟩ := releases_of_ends hguard h
    have hpatch := mem_patchesOf_iff.mpr ⟨hmem, rfl⟩
    rw [hpatches] at hpatch
    cases List.mem_singleton.mp hpatch

/-- A status that is written as acknowledged is that of an outcome. -/
theorem exists_reaches_of_patchedStatus {status : Status} {r : Except Refusal Unit}
    (h : Ends (pass config c o) t report) (hmem : patchedStatus o status r ∈ t)
    (hacknowledged : status.acknowledged = true) :
    ∃ outcome, outcome.status = status ∧ Reaches c o t outcome := by
  obtain ⟨body, rfl, hbody⟩ := ends_pass_iff.mp h
  have hpatch := mem_patchesOf_iff.mpr ⟨hmem, rfl⟩
  rw [patchesOf_enclosed] at hpatch
  cases hdeleted : o.deleted with
  | true =>
    rw [hdeleted, if_pos rfl] at hbody
    exact absurd (mem_patchesOf_iff.mp hpatch).1 (patchedStatus_notMem_of_cleanup hbody)
  | false =>
    rw [hdeleted, if_neg Bool.false_ne_true] at hbody
    cases ends_apply_iff.mp hbody with
    | refused f hspec hstored =>
      obtain ⟨s, rfl, _⟩ := hstored.exists_patch
      rw [patchesOf_statusPatch] at hpatch
      cases (eq_of_mem_statusPatch hpatch).1
      cases hacknowledged
    | unread f hspec hpass hrealized =>
      rw [patchesOf_of_realized hrealized] at hpatch
      cases hpatch
    | stored outcome hstores =>
      have hreaches := (hstores.reaches hdeleted).2
      obtain ⟨r, s, hpatches, _⟩ := hreaches.exists_patches h
      exact ⟨outcome, (eq_of_patchedStatus_mem hpatches hmem).1.symm, hreaches⟩

/-- No status is acknowledged that the server did not acknowledge: every call that changes something
tells the truth, and behind an outcome with an acknowledged status, and behind every status that is
written as acknowledged, all changes were confirmed. -/
theorem no_false_acknowledgement (c : Connection) :
    (∀ kind call t r, call.isMutation = true → Ends (c.perform kind call) t r →
      Truthful c kind call t r) ∧
    ∀ config o t report, Ends (pass config c o) t report →
      (∀ outcome, Reaches c o t outcome → outcome.status.acknowledged = true →
        AllConfirm (exchangesOf t)) ∧
      ∀ status r, patchedStatus o status r ∈ t → status.acknowledged = true →
        AllConfirm (exchangesOf t) := by
  constructor
  · intro kind call t r hmutation hends
    exact truthful_of_ends_perform hmutation hends
  · intro config o t report h
    constructor
    · intro outcome hreaches hacknowledged
      exact hreaches.allConfirm h hacknowledged
    · intro status r hmem hacknowledged
      obtain ⟨outcome, rfl, hreaches⟩ := exists_reaches_of_patchedStatus h hmem hacknowledged
      exact hreaches.allConfirm h hacknowledged

/-- A deletion that was confirmed, and a pass that created its index and wrote so. -/
theorem no_false_acknowledgement_logs :
    Truthful loopback .index (.delete "logs")
      [⟨⟨.delete, loopbackUrl "/logs", none⟩, confirmed⟩] (.ok () : Except RemoteError Unit) ∧
    ∃ t report, Ends (pass { esUrl := loopback.base } loopback (staying "logs")) t report ∧
      patchedStatus (staying "logs") (.succeeded "logs" .create) (.ok ()) ∈ t ∧
      (∃ x ∈ exchangesOf t, x.question.method = .put) ∧ AllConfirm (exchangesOf t) := by
  have hurl : loopback.url? "logs" = some (loopbackUrl "/logs") := by cbv
  obtain ⟨htruthful, hconfirm⟩ := no_false_acknowledgement loopback
  constructor
  · exact htruthful .index (.delete "logs") _ _ rfl
      (ends_performIndex_delete hurl (by decide) (judge_confirmed _))
  · have hstores : Stores { esUrl := loopback.base } loopback (staying "logs")
        (Pass.created (bareIndex "logs")) _ _ :=
      stores_creation rfl rfl rfl hurl (by decide) rfl
        (.patched [Kind.index.finalizer] rfl (.ok ())) (.patched (by decide) (.ok ()))
    obtain ⟨hends, hreaches⟩ := hstores.reaches rfl
    refine ⟨_, _, hends, ?_, ?_, (hconfirm _ _ _ _ hends).1 _ hreaches rfl⟩
    · simp [enclosed, bareIndex]
    · rw [exchangesOf_enclosed]
      exact ⟨_, List.mem_cons_of_mem _ List.mem_cons_self, rfl⟩

end Controller

end IndexKeeper
