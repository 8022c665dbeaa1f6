import IndexKeeper.Proofs.Controller.Storing
import IndexKeeper.Proofs.Remote.Confirmation

/-!
# Passes without an outcome

An object that stays may get no outcome for two reasons: its declaration can't be reconciled, or the
resource can't be read.  The first is recorded in the status and touches nothing else (`Declines`),
and once it is recorded another pass sends nothing (`RecordsRefusal.idle`).  The second is reported
and touches nothing at all (`Abandons`).  `Unreadable` says what the server has to answer for it: the
reading begins a pass, so a request that reads again in the middle of an update is another matter.
-/

namespace IndexKeeper

/-! ## Declarations -/

namespace Spec

theorem name_of_desired {s : Spec} {d : Desired} (h : s.desired = .ok d) : d.name = s.name := by
  have hrest {template : Option TemplateDefinition}
      (h : (do
        let settings ← s.settings.toTree
        let schema ← readMappings s.mappings
        return { name := s.name, dropOnDelete := s.dropOnDelete, settings, schema, template } :
        Except Malformed Desired) = .ok d) : d.name = s.name := by
    obtain ⟨settings, _, h⟩ := bind_eq_ok_iff.mp h
    obtain ⟨schema, _, h⟩ := bind_eq_ok_iff.mp h
    cases h
    rfl
  rw [desired] at h
  split at h
  · exact hrest h
  · obtain ⟨template, _, h⟩ := bind_eq_ok_iff.mp h
    exact hrest h

theorem name_of_toDesired {s : Spec} {d : Desired} (h : s.toDesired = .ok d) : d.name = s.name := by
  rw [toDesired] at h
  split at h
  · cases hdesired : s.desired with
    | error m =>
      rw [hdesired] at h
      cases h
    | ok d' =>
      rw [hdesired] at h
      cases h
      exact name_of_desired hdesired
  · cases h

end Spec

/-! ## Answers to a reading -/

namespace Connection

open Http (Body)

/-- An answer that tells neither that something is there nor that it is not. -/
def Fails (reply : Http.Reply) : Prop := reply = .unanswered ∨ ∃ e, Refuses reply e

/-- An answer of success in which no resource can be read. -/
def Undecodable (kind : Kind) (name : String) (reply : Http.Reply) : Prop :=
  ∃ status body e, reply = .answered status body ∧ Succeeds status ∧
    observation kind name (.ok body) = .error e ∧ e ≠ .notFound

/-- The requests that begin a pass show that the resource cannot be read: it was asked for, and the
answer is no answer to that, or it was fetched after that and cannot be had. -/
inductive Unreadable (kind : Kind) (name : String) : Requests → Prop
  | probe {x : Program.Exchange Http.Request fun _ => Http.Reply} {rest : Requests}
    (hhead : x.question.method = .head) (hfails : Fails x.response) :
    Unreadable kind name (x :: rest)
  | fetch {x y : Program.Exchange Http.Request fun _ => Http.Reply} {rest : Requests}
    (hhead : x.question.method = .head) (hget : y.question.method = .get)
    (hfails : Fails y.response ∨ Undecodable kind name y.response) :
    Unreadable kind name (x :: y :: rest)

section Answers

variable {url : Url} {reply : Http.Reply} {kind : Kind} {name : String}

theorem exists_judge_of_fails (url : Url) (h : Fails reply) :
    ∃ e, judge url reply = .error e ∧ e ≠ .notFound := by
  rcases h with rfl | ⟨e, hrefuses⟩
  · exact ⟨_, rfl, RemoteError.noConfusion⟩
  · have he : e ≠ .notFound := by
      obtain ⟨status, body, text, _, _, _, _, rfl⟩ := hrefuses
      exact RemoteError.noConfusion
    exact ⟨e, judge_of_refuses hrefuses, he⟩

theorem exists_observation_of_undecodable (url : Url) (h : Undecodable kind name reply) :
    ∃ e, observation kind name (judge url reply) = .error e ∧ e ≠ .notFound := by
  obtain ⟨status, body, e, rfl, hsuccess, hobservation, he⟩ := h
  refine ⟨e, ?_, he⟩
  rw [judge_eq_ok_iff.mpr ⟨status, rfl, hsuccess⟩, hobservation]

/-- What was told to be there or not was answered. -/
theorem not_fails_of_presence {isThere : Bool} (h : presence (judge url reply) = .ok isThere) :
    ¬ Fails reply := by
  intro hfails
  obtain ⟨e, he, hne⟩ := exists_judge_of_fails url hfails
  rw [he] at h
  cases e with
  | notFound => exact hne rfl
  | _ => cases h

/-- What was fetched, or told not to be there, was answered so. -/
theorem readable_of_observation {r : Except RemoteError Observed}
    (h : observation kind name (judge url reply) = r) (hr : ∀ e, r = .error e → e = .notFound) :
    ¬ (Fails reply ∨ Undecodable kind name reply) := by
  rintro (hfails | hundecodable)
  · obtain ⟨e, he, hne⟩ := exists_judge_of_fails url hfails
    rw [he, observation_error] at h
    exact hne (hr e h.symm)
  · obtain ⟨e, he, hne⟩ := exists_observation_of_undecodable url hundecodable
    exact hne (hr e (h.symm.trans he))

end Answers

end Connection

namespace Controller

open Program Connection

variable {config : Config} {c : Connection} {o : Object} {t u : Trace} {report : Report}
  {name : String} {seen : Pass.Transcript} {kind : Kind}

/-! ## The requests of a reading -/

theorem exists_exchange_of_probe {isThere : Bool}
    (h : Ends (perform c o (.remote (.probe name))) t (.ok isThere)) :
    ∃ x, exchangesOf t = [x] ∧ ¬ Fails x.response := by
  obtain ⟨requests, hends, rfl⟩ := ends_perform_remote_iff.mp h
  obtain ⟨sent, hsent, hpresence⟩ := ends_perform_probe_iff.mp hends
  rw [exchangesOf_asTrace]
  cases hsent with
  | sent url hurl hweb reply => exact ⟨_, rfl, not_fails_of_presence hpresence.symm⟩
  | _ => cases hpresence

theorem exists_exchange_of_fetch {r : Except RemoteError Observed}
    (h : Ends (perform c o (.remote (.fetch name))) t r) (hr : ∀ e, r = .error e → e = .notFound) :
    ∃ y, exchangesOf t = [y] ∧ ¬ (Fails y.response ∨ Undecodable o.kind name y.response) := by
  obtain ⟨requests, hends, rfl⟩ := ends_perform_remote_iff.mp h
  obtain ⟨sent, hsent, hobservation⟩ := ends_perform_fetch_iff.mp hends
  rw [exchangesOf_asTrace]
  cases hsent with
  | sent url hurl hweb reply => exact ⟨_, rfl, readable_of_observation hobservation.symm hr⟩
  | _ =>
    rw [observation_error] at hobservation
    cases hr _ hobservation

/-- What was fetched, or told not to be there, was read, whatever follows. -/
theorem not_unreadable_of_fetched {isThere : Bool} {r : Except RemoteError Observed}
    (hrealized : Realized (perform c o)
      [Pass.replied (.probe name) (.ok isThere), Pass.replied (.fetch name) r] u)
    (hr : ∀ e, r = .error e → e = .notFound) (later : Requests) :
    ¬ Unreadable o.kind name (exchangesOf u ++ later) := by
  obtain ⟨probed, _, rfl, hprobe, hrest⟩ := realized_cons_iff.mp hrealized
  obtain ⟨fetched, _, rfl, hfetch, hnil⟩ := realized_cons_iff.mp hrest
  obtain rfl := realized_nil_iff.mp hnil
  obtain ⟨x, hx, hanswered⟩ := exists_exchange_of_probe hprobe
  obtain ⟨y, hy, hread⟩ := exists_exchange_of_fetch hfetch hr
  intro hunreadable
  rw [List.append_nil, exchangesOf_append, hx, hy] at hunreadable
  cases hunreadable with
  | probe hhead hfails => exact hanswered hfails
  | fetch hhead hget hfails => exact hread hfails

/-- A reading that found out whether the resource is there was not stopped by its answers, and what
follows an absent resource fetches nothing. -/
theorem not_unreadable_of_reads {found : Option Observed} {later : Requests}
    (hread : Pass.Reads name seen (.ok found)) (hrealized : Realized (perform c o) seen u)
    (hlater : found = none → ∀ y ∈ later, y.question.method.isChange = true) :
    ¬ Unreadable o.kind name (exchangesOf u ++ later) := by
  cases hread with
  | vanished =>
    exact not_unreadable_of_fetched hrealized (fun e he => (Except.error.inj he).symm) later
  | found observed => exact not_unreadable_of_fetched hrealized (fun e he => (by cases he)) later
  | absent =>
    obtain ⟨probed, _, rfl, hprobe, hnil⟩ := realized_cons_iff.mp hrealized
    obtain rfl := realized_nil_iff.mp hnil
    obtain ⟨x, hx, hanswered⟩ := exists_exchange_of_probe hprobe
    intro hunreadable
    rw [List.append_nil, hx] at hunreadable
    cases hunreadable with
    | probe hhead hfails => exact hanswered hfails
    | fetch hhead hget hfails =>
      have hchange := hlater rfl _ List.mem_cons_self
      rw [hget] at hchange
      cases hchange

/-- What is sent for a creation changes something. -/
theorem isChange_of_create {payload : Desired.Payload} {r : Except RemoteError Unit}
    (h : Realized (perform c o) (Pass.changed kind .create (.create name payload) r) u) :
    ∀ y ∈ exchangesOf u, y.question.method.isChange = true := by
  obtain ⟨requests, rfl, hends⟩ := exists_requests_of_changed h
  obtain ⟨body, sent, hsent⟩ := exists_sends_of_create hends
  intro y hy
  rw [exchangesOf_counted, exchangesOf_asTrace] at hy
  rw [(hsent.eq_request y hy).method]
  rfl

theorem isChange_of_creates {d : Desired} {asked : Pass.Transcript} {outcome : Outcome}
    (h : Pass.Creates d asked outcome) (hrealized : Realized (perform c o) asked u) :
    ∀ y ∈ exchangesOf u, y.question.method.isChange = true := by
  cases h with
  | malformed m hp =>
    obtain rfl := realized_nil_iff.mp hrealized
    exact List.forall_mem_nil _
  | failed payload hp e => exact isChange_of_create hrealized
  | confirmed payload hp => exact isChange_of_create hrealized

/-- A pass that goes on to an outcome was not stopped by its reading. -/
theorem not_unreadable_of_course {d : Desired} {previous : Status} {asked : Pass.Transcript}
    {outcome : Outcome} (h : Pass.Course d previous asked (.ok outcome))
    (hrealized : Realized (perform c o) asked u) : ¬ Unreadable o.kind d.name (exchangesOf u) := by
  cases h with
  | creates hread hcreate =>
    obtain ⟨first, rest, rfl, hfirst, hrest⟩ := realized_append_iff.mp hrealized
    rw [exchangesOf_append]
    exact not_unreadable_of_reads hread hfirst fun _ => isChange_of_creates hcreate hrest
  | converges observed hread hconv =>
    obtain ⟨first, rest, rfl, hfirst, hrest⟩ := realized_append_iff.mp hrealized
    rw [exchangesOf_append]
    exact not_unreadable_of_reads hread hfirst fun hnone => (by cases hnone)

/-! ## The declaration can't be reconciled -/

/-- A refusal of a declaration is recorded, and nothing else is sent. -/
structure Declines (config : Config) (o : Object) (f : Fault) (t : Trace) (report : Report) :
    Prop where
  requests : ∃ r, requestsOf t = statusPatch o (o.refusedStatus f) r
  recorded : (∀ refusal, patchedStatus o (o.refusedStatus f) (.error refusal) ∉ t) →
    report.result = .ok (.after config.errorRequeueMs)
  refused : ∀ refusal, patchedStatus o (o.refusedStatus f) (.error refusal) ∈ t →
    report.result = .error (statusFault refusal)

/-- An object as it is found after the refusal of its declaration was recorded, and the declaration
is refused in the same words again. -/
structure RecordsRefusal (o : Object) (f : Fault) (o' : Object) : Prop where
  live : o'.deleted = false
  status : o'.status = some (o.refusedStatus f)
  name : o'.spec.name = o.spec.name
  again : ∃ f', o'.spec.toDesired = .error f' ∧ f'.message = f.message

section Declined

variable {f : Fault} {o' : Object}

/-- The one request of a pass that refuses a declaration, with the answer that makes its report. -/
theorem exists_statusPatch (hdeleted : o.deleted = false) (hspec : o.spec.toDesired = .error f)
    (h : Ends (pass config c o) t report) :
    ∃ r, requestsOf t = statusPatch o (o.refusedStatus f) r ∧
      report.result = (r.mapError statusFault).map (fun _ => .after config.errorRequeueMs) ∧
      (o.status = some (o.refusedStatus f) → r = .ok ()) := by
  obtain ⟨body, rfl, hbody⟩ := ends_pass_iff.mp h
  rw [hdeleted, if_neg Bool.false_ne_true] at hbody
  cases ends_apply_iff.mp hbody with
  | refused f' hother hstored =>
    cases hspec.symm.trans hother
    obtain ⟨r, rfl, rfl, hr⟩ := hstored.exists_patch
    exact ⟨r, by rw [requestsOf_enclosed, requestsOf_statusPatch], rfl, hr⟩
  | unread f' hother _ _ => cases hspec.symm.trans hother
  | stored outcome hstores =>
    cases hstores with
    | reached hother _ _ _ _ => cases hspec.symm.trans hother

theorem declines_of_ends (hdeleted : o.deleted = false) (hspec : o.spec.toDesired = .error f)
    (h : Ends (pass config c o) t report) : Declines config o f t report := by
  obtain ⟨r, hrequests, hresult, hr⟩ := exists_statusPatch hdeleted hspec h
  refine ⟨⟨r, hrequests⟩, ?_, ?_⟩
  · intro hgranted
    cases r with
    | ok _ => exact hresult
    | error refusal =>
      -- a patch that was refused was sent
      have hdiffers : o.status ≠ some (o.refusedStatus f) := by
        intro hstored
        cases hr hstored
      refine absurd (mem_requestsOf_iff.mp ?_).1 (hgranted refusal)
      rw [hrequests, statusPatch, if_pos hdiffers]
      exact List.mem_cons_self
  · intro refusal hmem
    have hrequest := mem_requestsOf_iff.mpr ⟨hmem, rfl⟩
    rw [hrequests] at hrequest
    cases (eq_of_mem_statusPatch hrequest).1
    exact hresult

/-- A refusal in the same words leads to the same status. -/
theorem RecordsRefusal.refusedStatus_eq {f' : Fault} (h : RecordsRefusal o f o')
    (hmessage : f'.message = f.message) : o'.refusedStatus f' = o.refusedStatus f := by
  have hprevious : o'.previous = o.refusedStatus f := by
    rw [Object.previous, h.status, Option.getD_some]
  have hoperation : o'.previous.failureOperation = o.previous.failureOperation := by
    rw [hprevious, Object.refusedStatus, Status.failureOperation, Status.failureOperation]
    cases o.previous.isUnacknowledgedCreate <;> rfl
  rw [Object.refusedStatus, Object.refusedStatus, hoperation, h.name, Status.failed, hmessage,
    Status.failed]

/-- Once the refusal is recorded, a pass sends nothing. -/
theorem RecordsRefusal.idle (hrecords : RecordsRefusal o f o')
    (h : Ends (pass config c o') t report) : requestsOf t = [] := by
  obtain ⟨f', hspec, hmessage⟩ := hrecords.again
  obtain ⟨r, hrequests, _, _⟩ := exists_statusPatch hrecords.live hspec h
  have hstored : o'.status = some (o'.refusedStatus f') := by
    rw [hrecords.refusedStatus_eq hmessage, hrecords.status]
  rw [hrequests, statusPatch, if_neg (not_not_intro hstored)]

/-- The document of an object after the refusal of its declaration was recorded. -/
def recorded (o : Object) (f : Fault) (document : Json) : Json :=
  if o.status = some (o.refusedStatus f) then document
  else (ApiRequest.patchStatus o (o.refusedStatus f)).applied document

/-- The object that is read from it records the refusal. -/
theorem exists_recordsRefusal {document : Json} (hdeleted : o.deleted = false)
    (hspec : o.spec.toDesired = .error f) (hread : Object.ofJson? kind document = some o) :
    ∃ o', Object.ofJson? kind (recorded o f document) = some o' ∧ RecordsRefusal o f o' := by
  rw [recorded]
  split
  · next hstored => exact ⟨o, hread, hdeleted, hstored, rfl, f, hspec, rfl⟩
  · have hoperation : (o.refusedStatus f).operation ≠ none := Option.some_ne_none _
    exact ⟨_, ofJson?_applied_patchStatus hoperation _ hread, hdeleted, rfl, rfl, f, hspec, rfl⟩

end Declined

/-! ## The resource can't be read -/

/-- An error is reported, and nothing was changed. -/
structure Abandons (t : Trace) (report : Report) : Prop where
  failed : ∃ f, report.result = .error f
  unchanged : ∀ x ∈ exchangesOf t, x.question.method.isChange = false
  unpatched : patchesOf t = []

/-- Where an object that stays and whose declaration can be reconciled gets no outcome, nothing is
changed. -/
theorem abandons_of_not_reaches {d : Desired} (hdeleted : o.deleted = false)
    (hspec : o.spec.toDesired = .ok d) (h : Ends (pass config c o) t report)
    (hnone : ∀ outcome, ¬ Reaches c o t outcome) : Abandons t report := by
  obtain ⟨body, rfl, hbody⟩ := ends_pass_iff.mp h
  rw [hdeleted, if_neg Bool.false_ne_true] at hbody
  cases ends_apply_iff.mp hbody with
  | refused f hother _ => cases hspec.symm.trans hother
  | stored outcome hstores => exact absurd (hstores.reaches hdeleted).2 (hnone outcome)
  | unread f hother hpass hrealized =>
    cases hpass with
    | unread e hread =>
      refine ⟨⟨_, rfl⟩, ?_, ?_⟩
      · rw [exchangesOf_enclosed]
        exact isChange_of_changesOf hrealized hread.changesOf
      · rw [patchesOf_enclosed]
        exact patchesOf_of_realized hrealized

/-- A pass that reached an outcome was not stopped by its reading. -/
theorem Reaches.not_unreadable {outcome : Outcome} (hreaches : Reaches c o t outcome)
    (h : Ends (pass config c o) t report) :
    ¬ Unreadable o.kind o.spec.name (exchangesOf t) := by
  obtain ⟨d, asked, part, hspec, hpass, hrealized, hexchanges⟩ := hreaches.exists_exchanges h
  rw [hexchanges, ← Spec.name_of_toDesired hspec]
  exact not_unreadable_of_course hpass hrealized

/-! ## Both -/

/-- A pass over an object that stays leaves both sides as they are where it gets no outcome, but for
the record of a refused declaration; and another pass over the object with this record sends
nothing. -/
theorem pass_without_outcome (hdeleted : o.deleted = false) (h : Ends (pass config c o) t report) :
    (∀ f, o.spec.toDesired = .error f → Declines config o f t report ∧
      (∀ kind document, Object.ofJson? kind document = some o →
        ∃ o', Object.ofJson? kind (recorded o f document) = some o' ∧ RecordsRefusal o f o') ∧
      ∀ o', RecordsRefusal o f o' → ∀ t' report', Ends (pass config c o') t' report' →
        requestsOf t' = []) ∧
      (Unreadable o.kind o.spec.name (exchangesOf t) → Abandons t report) := by
  constructor
  · intro f hspec
    refine ⟨declines_of_ends hdeleted hspec h, ?_, fun o' hrecords t' report' => hrecords.idle⟩
    exact fun kind document => exists_recordsRefusal hdeleted hspec
  · intro hunreadable
    cases hspec : o.spec.toDesired with
    | ok d =>
      exact abandons_of_not_reaches hdeleted hspec h
        fun outcome hreaches => hreaches.not_unreadable h hunreadable
    | error f =>
      -- nothing was read
      obtain ⟨r, hrequests, _⟩ := exists_statusPatch hdeleted hspec h
      have hnone : exchangesOf t = [] := by
        rw [← exchangesOf_requestsOf, hrequests, exchangesOf_statusPatch]
      rw [hnone] at hunreadable
      cases hunreadable

/-- The answer of a server that is in trouble. -/
def unavailable : Http.Reply := .answered 503 (.whole [])

/-- What a request comes to with this answer. -/
def unavailability : RemoteError := .status 503 (reported (.whole []))

theorem ends_probe_unavailable {url : Url} (hkind : o.kind = .index) (hurl : c.url? name = some url)
    (hweb : url.isWeb = true) :
    Ends (perform c o (.remote (.probe name))) [sent ⟨.head, url, none⟩ unavailable]
      (.error unavailability) := by
  refine ends_perform_remote_iff.mpr ⟨[⟨⟨.head, url, none⟩, unavailable⟩], ?_, rfl⟩
  rw [hkind]
  exact ends_perform_probe_iff.mpr ⟨_, .sent url hurl hweb unavailable, rfl⟩

/-- A declaration without a name is refused, and the index of one with a name can't be read while
the server is in trouble. -/
theorem pass_without_outcome_nameless :
    (∃ f t report, (staying "").spec.toDesired = .error f ∧
      patchedStatus (staying "") ((staying "").refusedStatus f) (.ok ()) ∈ t ∧
      Declines { esUrl := loopback.base } (staying "") f t report) ∧
    ∃ t report, sent ⟨.head, loopbackUrl "/logs", none⟩ unavailable ∈ t ∧ Abandons t report := by
  constructor
  · obtain ⟨f, hspec⟩ : ∃ f, (staying "").spec.toDesired = .error f := ⟨_, rfl⟩
    have hrefused : Applies { esUrl := loopback.base } loopback (staying "") _ _ :=
      .refused f hspec (.patched (Option.some_ne_none _).symm (.ok ()))
    have hends : Ends (pass { esUrl := loopback.base } loopback (staying "")) _ _ :=
      ends_pass_iff.mpr ⟨_, rfl, ends_apply_iff.mpr hrefused⟩
    refine ⟨f, _, _, hspec, ?_, ((pass_without_outcome rfl hends).1 f hspec).1⟩
    simp [enclosed]
  · have hurl : loopback.url? "logs" = some (loopbackUrl "/logs") := by cbv
    have hrealized : Realized (perform loopback (staying "logs"))
        [Pass.replied (.probe "logs") (.error unavailability)]
        [sent ⟨.head, loopbackUrl "/logs", none⟩ unavailable] :=
      realized_cons_iff.mpr
        ⟨_, [], rfl, ends_probe_unavailable rfl hurl (by decide), .nil⟩
    have hcourse : Pass.Course (bareIndex "logs") (staying "logs").previous _ _ :=
      .unread unavailability (.probeFailed _)
    have hunread : Applies { esUrl := loopback.base } loopback (staying "logs") _ _ :=
      .unread _ rfl hcourse hrealized
    have hends : Ends (pass { esUrl := loopback.base } loopback (staying "logs")) _ _ :=
      ends_pass_iff.mpr ⟨_, rfl, ends_apply_iff.mpr hunread⟩
    refine ⟨_, _, ?_, (pass_without_outcome rfl hends).2 ?_⟩
    · simp [enclosed]
    · rw [exchangesOf_enclosed]
      exact .probe rfl (Or.inr ⟨unavailability, 503, .whole [], _, rfl, by decide, by decide,
        shownAs_iff.mpr rfl, rfl⟩)

end Controller

end IndexKeeper
