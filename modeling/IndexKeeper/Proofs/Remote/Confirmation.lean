import IndexKeeper.Proofs.Remote.Acknowledged
import IndexKeeper.Proofs.Remote.Exchange
import IndexKeeper.Proofs.Text.Utf8

/-!
# What an adapter makes of the answers

A call that changes something sends one request for it, and counts as made exactly if the answer to
this request has a status of success and a body that says that the change is acknowledged
(`Confirms`, with `Acknowledgement.Says`).  Any other answer is an error: absence if the status says
so, else the status with the text of its body (`ShownAs`).  The update of a template sends its
request only after the template was fetched and is an object.  `Truthful` says all this of one call,
and `truthful_of_ends_perform` of every call of both adapters, whatever the server answers.
-/

namespace IndexKeeper

/-- Whether a request with a method may change what the server stores. -/
def Http.Method.isChange : Http.Method → Bool
  | put | delete => true
  | head | get => false

/-- Whether a call changes a document that has to be fetched before. -/
def Call.readsFirst (kind : Kind) : Call → Bool
  | updateSettings _ _ | updateSchema _ _ => kind == .template
  | _ => false

namespace Connection

open Program
open Http (Body Method)

/-! ## Answers -/

/-- The statuses of success. -/
def Succeeds (status : Nat) : Prop := 200 ≤ status ∧ status < 300

instance (status : Nat) : Decidable (Succeeds status) := inferInstanceAs (Decidable (_ ∧ _))

/-- An answer with a status of success whose body says that the change is acknowledged. -/
def Confirms (reply : Http.Reply) : Prop :=
  ∃ status bytes, reply = .answered status (.whole bytes) ∧ Succeeds status ∧
    Acknowledgement.Says true bytes

/-- The entry of a name: the one under the name, or the only one, under whatever name. -/
def IsEntry (name : String) (entries : List (String × Json)) (entry : Json) : Prop :=
  Keyed.get? name entries = some entry ∨
    Keyed.get? name entries = none ∧ ∃ key, entries = [(key, entry)]

/-- An answer with a status of success whose body has an object as the entry of a name. -/
def ShowsObject (name : String) (reply : Http.Reply) : Prop :=
  ∃ status bytes entries members, reply = .answered status (.whole bytes) ∧ Succeeds status ∧
    Json.read bytes = .ok (.obj entries) ∧ IsEntry name entries (.obj members)

/-- What an error shows of a body: the text that it is, or a text with what stands for no character
replaced, and nothing of a body that broke off. -/
inductive ShownAs : Body → String → Prop
  | text (s : String) : ShownAs (.whole (Utf8.encode s)) s
  | bytes {bytes : List UInt8} (h : ∀ s, bytes ≠ Utf8.encode s) :
    ShownAs (.whole bytes) (Utf8.decodeLossy bytes)
  | broken : ShownAs .broken ""

/-- An answer with a status that is neither one of success nor that of absence. -/
def Refuses (reply : Http.Reply) (e : RemoteError) : Prop :=
  ∃ status body text, reply = .answered status body ∧ status ≠ 404 ∧ ¬ Succeeds status ∧
    ShownAs body text ∧ e = .status status text

/-- An answer with the status of absence. -/
def IsMissing (reply : Http.Reply) : Prop := ∃ body, reply = .answered 404 body

section Answers

variable {url : Url} {reply : Http.Reply} {name operation : String} {e : RemoteError}

theorem isSuccess_iff {status : Nat} : isSuccess status = true ↔ Succeeds status := by
  simp [isSuccess, Succeeds]

theorem isEntry_of_entry {content entry : Json} (h : Report.entry name content = .ok entry) :
    ∃ entries, content = .obj entries ∧ IsEntry name entries entry := by
  rw [Report.entry.eq_def] at h
  split at h
  · next entries =>
    refine ⟨entries, rfl, ?_⟩
    split at h
    · next found hfound =>
      cases h
      exact .inl hfound
    · next hnone =>
      split at h
      · cases h
      · cases h
        exact .inr ⟨hnone, _, rfl⟩
      · cases h
  · cases h

theorem judge_of_isMissing (h : IsMissing reply) : judge url reply = .error .notFound := by
  obtain ⟨body, rfl⟩ := h
  rfl

theorem shownAs_iff {body : Body} {text : String} : ShownAs body text ↔ text = reported body := by
  constructor
  · intro h
    cases h with
    | text => exact (Utf8.decodeLossy_encode text).symm
    | bytes => rfl
    | broken => rfl
  · rintro rfl
    cases body with
    | broken => exact .broken
    | whole bytes =>
      by_cases h : ∃ s, bytes = Utf8.encode s
      · obtain ⟨s, rfl⟩ := h
        rw [reported, Utf8.decodeLossy_encode]
        exact .text s
      · exact .bytes (not_exists.mp h)

theorem judge_of_refuses (h : Refuses reply e) : judge url reply = .error e := by
  obtain ⟨status, body, text, rfl, hne, hfailed, hshown, rfl⟩ := h
  rw [shownAs_iff.mp hshown, judge, if_neg hne,
    if_neg (fun hsuccess => hfailed (isSuccess_iff.mp hsuccess))]

theorem judge_eq_ok_iff {body : Body} :
    judge url reply = .ok body ↔
      ∃ status, reply = .answered status body ∧ Succeeds status := by
  constructor
  · intro h
    cases reply with
    | unanswered => cases h
    | answered status answer =>
      rw [judge] at h
      split at h
      · cases h
      · split at h
        · next hsuccess =>
          cases h
          exact ⟨status, rfl, isSuccess_iff.mp hsuccess⟩
        · cases h
  · rintro ⟨status, rfl, hsuccess⟩
    have hne : status ≠ 404 := by
      rintro rfl
      exact absurd hsuccess.2 (by decide)
    rw [judge, if_neg hne, if_pos (isSuccess_iff.mpr hsuccess)]

/-- What is read from a body was read from bytes that are all there. -/
theorem decode_eq_ok_iff {α : Type} {read : List UInt8 → Except ReadError α} {body : Body}
    {a : α} : decode read body = .ok a ↔ ∃ bytes, body = .whole bytes ∧ read bytes = .ok a := by
  cases body with
  | broken =>
    refine iff_of_false (fun h => (by cases h)) ?_
    rintro ⟨bytes, hbytes, _⟩
    cases hbytes
  | whole bytes =>
    have hdecode : decode read (.whole bytes) = (read bytes).mapError fun e => .decode (.body e) :=
      rfl
    rw [hdecode]
    cases hread : read bytes <;> simp [Except.mapError, hread]

@[simp] theorem confirmation_error (operation : String) (e : RemoteError) :
    confirmation operation (.error e) = .error e := rfl

/-- An error of the request for a resource is that of the resource. -/
@[simp] theorem observation_error (kind : Kind) (name : String) (e : RemoteError) :
    observation kind name (.error e) = .error e := by
  cases kind <;> rfl

theorem confirmation_eq_ok_iff {sent : Except RemoteError Body} :
    confirmation operation sent = .ok () ↔
      sent.bind (decode Acknowledgement.read) = .ok true := by
  rw [confirmation]
  cases sent.bind (decode Acknowledgement.read) with
  | error e => simp
  | ok confirmed => cases confirmed <;> simp

/-- A change is confirmed by the answers that confirm it, and by no others. -/
theorem confirmation_judge_eq_ok_iff :
    confirmation operation (judge url reply) = .ok () ↔ Confirms reply := by
  rw [confirmation_eq_ok_iff, bind_eq_ok_iff]
  constructor
  · rintro ⟨body, hbody, hread⟩
    obtain ⟨status, rfl, hsuccess⟩ := judge_eq_ok_iff.mp hbody
    obtain ⟨bytes, rfl, hbytes⟩ := decode_eq_ok_iff.mp hread
    exact ⟨status, bytes, rfl, hsuccess, Acknowledgement.read_eq_ok_iff.mp hbytes⟩
  · rintro ⟨status, bytes, rfl, hsuccess, hsays⟩
    exact ⟨_, judge_eq_ok_iff.mpr ⟨status, rfl, hsuccess⟩,
      decode_eq_ok_iff.mpr ⟨bytes, rfl, Acknowledgement.read_eq_ok_iff.mpr hsays⟩⟩

theorem showsObject_of_templateMembers {members : List (String × Json)}
    (h : templateMembers name (judge url reply) = .ok members) : ShowsObject name reply := by
  rw [templateMembers] at h
  split at h
  · cases h
  · next hentry =>
    obtain ⟨content, hcontent, hobject⟩ := bind_eq_ok_iff.mp hentry
    obtain ⟨body, hbody, hread⟩ := bind_eq_ok_iff.mp hcontent
    obtain ⟨status, rfl, hsuccess⟩ := judge_eq_ok_iff.mp hbody
    obtain ⟨bytes, rfl, hbytes⟩ := decode_eq_ok_iff.mp hread
    obtain ⟨entries, rfl, hisEntry⟩ := isEntry_of_entry hobject
    exact ⟨status, bytes, entries, _, rfl, hsuccess, hbytes, hisEntry⟩
  · cases h

end Answers

/-! ## Requests -/

namespace Sends

variable {c : Connection} {method : Method} {path : String} {body : Option Json} {t : Requests}
  {sent : Except RemoteError Body}

/-- At most one request goes out. -/
theorem length_le (h : Sends c method path body t sent) : t.length ≤ 1 := by
  cases h with
  | sent url hurl hweb reply => exact Nat.le_refl 1
  | _ => exact Nat.zero_le 1

theorem eq_singleton (h : Sends c method path body t sent) : ∀ x ∈ t, t = [x] := by
  intro x hx
  cases h with
  | sent url hurl hweb reply => rw [List.mem_singleton.mp hx]
  | _ => cases hx

/-- Either nothing is sent, and that is an error, or the one request that is meant. -/
theorem eq_nil_or_singleton (h : Sends c method path body t sent) :
    (t = [] ∧ ∃ e, sent = .error e) ∨ ∃ x, t = [x] ∧ GoesTo method (c.url? path) x.question := by
  have hgoes := h.eq_request
  cases h with
  | sent url hurl hweb reply => exact Or.inr ⟨_, rfl, hgoes _ List.mem_cons_self⟩
  | _ => exact Or.inl ⟨rfl, _, rfl⟩

/-- What a request comes to is what is made of its answer. -/
theorem eq_judge (h : Sends c method path body t sent) :
    ∀ x ∈ t, sent = judge x.question.url x.response := by
  intro x hx
  cases h with
  | sent url hurl hweb reply =>
    obtain rfl := List.mem_singleton.mp hx
    rfl
  | _ => cases hx

/-- Without an error a request was sent. -/
theorem exists_of_eq_ok {answer : Body} (h : Sends c method path body t sent)
    (hok : sent = .ok answer) :
    ∃ url reply, t = [⟨⟨method, url, body⟩, reply⟩] ∧ sent = judge url reply := by
  cases h with
  | sent url hurl hweb reply => exact ⟨url, reply, rfl, rfl⟩
  | _ => cases hok

theorem eq_notFound (h : Sends c method path body t sent) :
    ∀ x ∈ t, IsMissing x.response → sent = .error .notFound := by
  intro x hx hmissing
  rw [h.eq_judge x hx, judge_of_isMissing hmissing]

theorem eq_error (h : Sends c method path body t sent) :
    ∀ x ∈ t, ∀ e, Refuses x.response e → sent = .error e := by
  intro x hx e hrefuses
  rw [h.eq_judge x hx, judge_of_refuses hrefuses]

/-- A change is confirmed exactly if its request was sent and got an answer that confirms it. -/
theorem confirmed_iff (h : Sends c method path body t sent) (operation : String) :
    (∃ v, confirmation operation sent = .ok v) ↔ ∃ x ∈ t, Confirms x.response := by
  constructor
  · rintro ⟨v, hv⟩
    obtain ⟨answer, hanswer, _⟩ := bind_eq_ok_iff.mp (confirmation_eq_ok_iff.mp hv)
    obtain ⟨url, reply, rfl, hjudge⟩ := h.exists_of_eq_ok hanswer
    rw [hjudge] at hv
    exact ⟨_, List.mem_cons_self, confirmation_judge_eq_ok_iff.mp hv⟩
  · rintro ⟨x, hx, hconfirms⟩
    rw [h.eq_judge x hx]
    exact ⟨(), confirmation_judge_eq_ok_iff.mpr hconfirms⟩

/-- A template that was fetched came in an answer that shows it. -/
theorem exists_of_templateMembers {name : String} {members : List (String × Json)}
    (h : Sends c method path body t sent) (hmembers : templateMembers name sent = .ok members) :
    ∃ url reply, t = [⟨⟨method, url, body⟩, reply⟩] ∧ ShowsObject name reply := by
  cases hsent : sent with
  | error e =>
    rw [hsent] at hmembers
    cases hmembers
  | ok answer =>
    obtain ⟨url, reply, rfl, hjudge⟩ := h.exists_of_eq_ok hsent
    rw [hjudge] at hmembers
    exact ⟨url, reply, rfl, showsObject_of_templateMembers hmembers⟩

end Sends

/-! ## Calls -/

/-- A call tells the truth: it says that a change was made exactly if it was confirmed, and else
what the server said. -/
structure Truthful {α : Type} (c : Connection) (kind : Kind) (call : Call) (t : Requests)
    (r : Except RemoteError α) : Prop where
  ok_iff : (∃ v, r = .ok v) ↔
    ∃ x ∈ t, x.question.method.isChange = true ∧ Confirms x.response
  /-- There is one request for the change at most. -/
  once : (t.filter fun x => x.question.method.isChange).length ≤ 1
  goesTo : ∀ x ∈ t, x.question.method.isChange = true →
    GoesTo call.method (c.url? (call.path kind)) x.question
  fetched : call.readsFirst kind = true → ∀ x ∈ t, x.question.method.isChange = true →
    ∃ y, t = [y, x] ∧ y.question.method = .get ∧ ShowsObject call.name y.response
  missing : ∀ x ∈ t, IsMissing x.response → r = .error .notFound
  refused : ∀ x ∈ t, ∀ e, Refuses x.response e → r = .error e

section Calls

variable {c : Connection} {kind : Kind} {call : Call} {t : Requests} {r : Except RemoteError Unit}

/-- A change that is one request. -/
theorem truthful_of_ends_change {body : Option Json} {operation : String}
    (hchange : call.method.isChange = true) (hdirect : call.readsFirst kind = false)
    (h : Ends (c.change call.method (call.path kind) body operation) t r) :
    Truthful c kind call t r := by
  obtain ⟨sent, hsent, rfl⟩ := ends_change_iff.mp h
  have hmethod : ∀ x ∈ t, x.question.method.isChange = true := by
    intro x hx
    rw [(hsent.eq_request x hx).method]
    exact hchange
  refine {
    ok_iff := ?_
    once := Nat.le_trans (List.length_filter_le _ t) hsent.length_le
    goesTo := fun x hx _ => hsent.eq_request x hx
    fetched := fun hfirst => absurd (hdirect.symm.trans hfirst) Bool.false_ne_true
    missing := fun x hx hmissing => congrArg _ (hsent.eq_notFound x hx hmissing)
    refused := fun x hx e hrefuses => congrArg _ (hsent.eq_error x hx e hrefuses) }
  rw [hsent.confirmed_iff]
  constructor
  · rintro ⟨x, hx, hconfirms⟩
    exact ⟨x, hx, hmethod x hx, hconfirms⟩
  · rintro ⟨x, hx, _, hconfirms⟩
    exact ⟨x, hx, hconfirms⟩

/-- A part of a template that could not be fetched. -/
theorem truthful_of_unread {path : String} {sent : Except RemoteError Body} {e : RemoteError}
    (hget : Sends c .get path none t sent)
    (hmembers : templateMembers call.name sent = .error e) :
    Truthful c kind call t (.error e : Except RemoteError Unit) := by
  have hread : ∀ x ∈ t, ¬ x.question.method.isChange = true := by
    intro x hx
    rw [(hget.eq_request x hx).method]
    exact Bool.false_ne_true
  -- the error of the fetch is that of the call
  have hfailed : ∀ f, sent = .error f → (.error e : Except RemoteError Unit) = .error f := by
    rintro f rfl
    exact congrArg _ (Except.error.inj hmembers).symm
  refine {
    ok_iff := ?_
    once := ?_
    goesTo := fun x hx hchange => absurd hchange (hread x hx)
    fetched := fun _ x hx hchange => absurd hchange (hread x hx)
    missing := fun x hx hmissing => hfailed _ (hget.eq_notFound x hx hmissing)
    refused := fun x hx f hrefuses => hfailed _ (hget.eq_error x hx f hrefuses) }
  · refine iff_of_false (fun ⟨v, hv⟩ => (by cases hv)) ?_
    rintro ⟨x, hx, hchange, _⟩
    exact hread x hx hchange
  · rw [List.filter_eq_nil_iff.mpr hread]
    exact Nat.zero_le 1

/-- A part of a template that was fetched and put back. -/
theorem truthful_of_put {u : Requests} {sent answer : Except RemoteError Body}
    {members : List (String × Json)} {body : Option Json} (operation : String)
    (hmethod : call.method = .put) (hget : Sends c .get (call.path kind) none t sent)
    (hmembers : templateMembers call.name sent = .ok members)
    (hput : Sends c .put (call.path kind) body u answer) :
    Truthful c kind call (t ++ u) (confirmation operation answer) := by
  obtain ⟨url, reply, rfl, hshows⟩ := hget.exists_of_templateMembers hmembers
  have hchange : ∀ x ∈ u, x.question.method.isChange = true := by
    intro x hx
    rw [(hput.eq_request x hx).method]
    rfl
  have hread : ∀ e, sent ≠ .error e := by
    rintro e rfl
    cases hmembers
  -- the fetch went well, so what the call comes to is said by the answer to the put
  refine {
    ok_iff := ?_
    once := ?_
    goesTo := ?_
    fetched := ?_
    missing := ?_
    refused := ?_ }
  · rw [hput.confirmed_iff]
    constructor
    · rintro ⟨x, hx, hconfirms⟩
      exact ⟨x, List.mem_cons_of_mem _ hx, hchange x hx, hconfirms⟩
    · rintro ⟨x, hx, hmutates, hconfirms⟩
      rcases List.mem_cons.mp hx with rfl | hx
      · cases hmutates
      · exact ⟨x, hx, hconfirms⟩
  · exact Nat.le_trans (List.length_filter_le _ u) hput.length_le
  · intro x hx hmutates
    rcases List.mem_cons.mp hx with rfl | hx
    · cases hmutates
    · rw [hmethod]
      exact hput.eq_request x hx
  · intro _ x hx hmutates
    rcases List.mem_cons.mp hx with rfl | hx
    · cases hmutates
    · rw [hput.eq_singleton x hx]
      exact ⟨_, rfl, rfl, hshows⟩
  · intro x hx hmissing
    rcases List.mem_cons.mp hx with rfl | hx
    · exact absurd (hget.eq_notFound _ List.mem_cons_self hmissing) (hread _)
    · rw [hput.eq_notFound x hx hmissing, confirmation_error]
  · intro x hx e hrefuses
    rcases List.mem_cons.mp hx with rfl | hx
    · exact absurd (hget.eq_error _ List.mem_cons_self e hrefuses) (hread e)
    · rw [hput.eq_error x hx e hrefuses, confirmation_error]

theorem truthful_of_ends_replaceSection {part : String} {value : Json}
    (hmethod : call.method = .put)
    (h : Ends (c.replaceSection call.name part value) t r) : Truthful c .template call t r := by
  cases ends_replaceSection_iff.mp h with
  | unread hget hmembers => exact truthful_of_unread hget hmembers
  | put hget hmembers hput => exact truthful_of_put _ hmethod hget hmembers hput

end Calls

/-- Every call that changes something tells the truth, whatever the server answers. -/
theorem truthful_of_ends_perform {c : Connection} {kind : Kind} {call : Call} {t : Requests}
    {r : call.Answer} (hchange : call.isMutation = true) (h : Ends (c.perform kind call) t r) :
    Truthful c kind call t r := by
  cases call with
  | probe name => cases hchange
  | fetch name => cases hchange
  | create name payload =>
    cases kind <;> exact truthful_of_ends_change rfl rfl h
  | delete name =>
    cases kind <;> exact truthful_of_ends_change rfl rfl h
  | updateSettings name settings =>
    cases kind with
    | index => exact truthful_of_ends_change rfl rfl h
    | template => exact truthful_of_ends_replaceSection rfl h
  | updateSchema name schema =>
    cases kind with
    | index => exact truthful_of_ends_change rfl rfl h
    | template => exact truthful_of_ends_replaceSection rfl h

end Connection

end IndexKeeper
