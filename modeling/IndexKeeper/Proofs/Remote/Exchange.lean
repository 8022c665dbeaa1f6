import IndexKeeper.Proofs.Remote.Address

/-!
# What comes of calls

A call is one request, or for the update of a template a fetch and then a request.  For each step
there is a function that says what it comes to, given what came of its request: `presence` of a
resource, `observation` of one, `confirmation` of a change.  `Sends` lists the ways in which a
request goes out or does not, so the transcripts of a call are those of `Sends` with such a function
applied (`ends_perform_probe_iff`, `ends_perform_fetch_iff`, `ends_change_iff`), and those of a
template's update are two of them, one after the other (`ends_replaceSection_iff`).
-/

namespace IndexKeeper

/-- The path of the document of a resource. -/
def Connection.documentPath : Kind → String → String
  | .index, name => name
  | .template, name => templatePath name

/-- The path of the requests of a call.  A template has no addresses for its parts. -/
def Call.path (kind : Kind) (call : Call) : String :=
  match kind with
  | .index => call.indexPath
  | .template => Connection.templatePath call.name

namespace Connection

open Program
open Http (Body Method)

variable {c : Connection} {t : Requests} {method : Method} {path operation name : String}
  {body : Option Json} {kind : Kind}

/-! ## One request -/

/-- The ways in which a request is sent. -/
inductive Sends (c : Connection) (method : Method) (path : String) (body : Option Json) :
    Requests → Except RemoteError Body → Prop
  | unusable (hurl : c.url? path = none) :
    Sends c method path body [] (.error (.transport .unusableUrl))
  | unsupported (url : Url) (hurl : c.url? path = some url) (hweb : url.isWeb = false) :
    Sends c method path body [] (.error (.transport (.unsupportedUrl url.text)))
  | sent (url : Url) (hurl : c.url? path = some url) (hweb : url.isWeb = true)
    (reply : Http.Reply) :
    Sends c method path body [⟨⟨method, url, body⟩, reply⟩] (judge url reply)

theorem ends_send_iff {r : Except RemoteError Body} :
    Ends (c.send method path body) t r ↔ Sends c method path body t r := by
  constructor
  · intro h
    rw [send] at h
    split at h
    · next hurl =>
      obtain ⟨rfl, rfl⟩ := ends_done_iff.mp h
      exact .unusable hurl
    · next url hurl =>
      split at h
      · next hweb =>
        obtain ⟨reply, rest, rfl, hrest⟩ := ends_ask_iff.mp h
        obtain ⟨rfl, rfl⟩ := ends_done_iff.mp hrest
        exact .sent url hurl hweb reply
      · next hweb =>
        obtain ⟨rfl, rfl⟩ := ends_done_iff.mp h
        exact .unsupported url hurl (Bool.eq_false_iff.mpr hweb)
  · intro h
    cases h with
    | sent url hurl hweb reply => exact ends_send hurl hweb reply
    | unusable hurl =>
      rw [url?] at hurl
      rw [send, hurl]
      exact .done _
    | unsupported url hurl hweb =>
      rw [url?] at hurl
      rw [send, hurl]
      simp only [hweb]
      exact .done _

/-- A request that was sent is the one that was meant. -/
theorem Sends.eq_request {r : Except RemoteError Body} (h : Sends c method path body t r) :
    ∀ x ∈ t, GoesTo method (c.url? path) x.question :=
  request_of_ends_send (ends_send_iff.mpr h)

/-! ## Reading -/

/-- Whether something is there, given what came of asking. -/
def presence : Except RemoteError Body → Except RemoteError Bool
  | .ok _ => .ok true
  | .error .notFound => .ok false
  | .error e => .error e

/-- A document, given what came of asking for it. -/
def document (sent : Except RemoteError Body) : Except RemoteError Json :=
  sent.bind (decode Json.read)

/-- The members of a stored template, given what came of asking for it. -/
def templateMembers (name : String) (sent : Except RemoteError Body) :
    Except RemoteError (List (String × Json)) :=
  match (document sent).bind (Report.entry name) with
  | .error e => .error e
  | .ok (.obj members) => .ok members
  | .ok _ => .error (.decode (.templateNotObject name))

/-- A resource, given what came of asking for it. -/
def observation (kind : Kind) (name : String) (sent : Except RemoteError Body) :
    Except RemoteError Observed :=
  match kind with
  | .index => ((document sent).bind (Report.entry name)).bind Report.index
  | .template => (templateMembers name sent).bind fun members => Report.template (.obj members)

theorem ends_probe_iff {r : Except RemoteError Bool} :
    Ends (c.probe path) t r ↔ ∃ sent, Sends c .head path none t sent ∧ r = presence sent := by
  have hprobe : c.probe path = (c.send .head path >>= fun sent => .done (presence sent)) := by
    refine congrArg (c.send .head path >>= ·) (funext fun sent => ?_)
    cases sent with
    | ok body => rfl
    | error e => cases e <;> rfl
  rw [hprobe, ends_map_iff]
  simp only [ends_send_iff]

theorem ends_fetch_iff {r : Except RemoteError Json} :
    Ends (c.fetch path) t r ↔ ∃ sent, Sends c .get path none t sent ∧ r = document sent := by
  have hfetch : c.fetch path = (c.send .get path >>= fun sent => .done (document sent)) := rfl
  rw [hfetch, ends_map_iff]
  simp only [ends_send_iff]

theorem ends_fetchTemplate_iff {r : Except RemoteError (List (String × Json))} :
    Ends (c.fetchTemplate name) t r ↔
      ∃ sent, Sends c .get (templatePath name) none t sent ∧ r = templateMembers name sent := by
  have hfetch : c.fetchTemplate name = (c.send .get (templatePath name) >>= fun sent =>
      .done (templateMembers name sent)) := by
    have hassoc : c.fetchTemplate name = (c.send .get (templatePath name) >>= fun sent =>
        .done (document sent) >>= fun fetched =>
          match fetched.bind (Report.entry name) with
          | .error e => return .error e
          | .ok (.obj members) => return .ok members
          | .ok _ => return .error (.decode (.templateNotObject name))) := bind_assoc _ _ _
    rw [hassoc]
    refine congrArg (c.send .get (templatePath name) >>= ·) (funext fun sent => ?_)
    rw [done_bind, templateMembers]
    cases (document sent).bind (Report.entry name) with
    | error e => rfl
    | ok entry => cases entry <;> rfl
  rw [hfetch, ends_map_iff]
  simp only [ends_send_iff]

theorem ends_perform_probe_iff {r : Except RemoteError Bool} :
    Ends (c.perform kind (.probe name)) t r ↔
      ∃ sent, Sends c .head (documentPath kind name) none t sent ∧ r = presence sent := by
  cases kind with
  | index => exact ends_probe_iff
  | template => exact ends_probe_iff

theorem ends_perform_fetch_iff {r : Except RemoteError Observed} :
    Ends (c.perform kind (.fetch name)) t r ↔
      ∃ sent, Sends c .get (documentPath kind name) none t sent ∧
        r = observation kind name sent := by
  cases kind with
  | index =>
    have hfetch : c.perform .index (.fetch name) = (c.fetch name >>= fun fetched =>
      .done ((fetched.bind (Report.entry name)).bind Report.index)) := rfl
    rw [hfetch, ends_map_iff]
    simp only [ends_fetch_iff]
    constructor
    · rintro ⟨_, ⟨sent, hsent, rfl⟩, rfl⟩
      exact ⟨sent, hsent, rfl⟩
    · rintro ⟨sent, hsent, rfl⟩
      exact ⟨_, ⟨sent, hsent, rfl⟩, rfl⟩
  | template =>
    have hfetch : c.perform .template (.fetch name) = (c.fetchTemplate name >>= fun members =>
      .done (members.bind fun members => Report.template (.obj members))) := rfl
    rw [hfetch, ends_map_iff]
    simp only [ends_fetchTemplate_iff]
    constructor
    · rintro ⟨_, ⟨sent, hsent, rfl⟩, rfl⟩
      exact ⟨sent, hsent, rfl⟩
    · rintro ⟨sent, hsent, rfl⟩
      exact ⟨_, ⟨sent, hsent, rfl⟩, rfl⟩

/-! ## Changing -/

/-- What a change comes to, given what came of its request. -/
def confirmation (operation : String) (sent : Except RemoteError Body) : Except RemoteError Unit :=
  match sent.bind (decode Acknowledgement.read) with
  | .error e => .error e
  | .ok true => .ok ()
  | .ok false => .error (.notAcknowledged operation)

theorem ends_change_iff {r : Except RemoteError Unit} :
    Ends (c.change method path body operation) t r ↔
      ∃ sent, Sends c method path body t sent ∧ r = confirmation operation sent := by
  have hchange : c.change method path body operation =
      (c.send method path body >>= fun sent => .done (confirmation operation sent)) := by
    refine congrArg (c.send method path body >>= ·) (funext fun sent => ?_)
    rw [confirmation]
    cases sent.bind (decode Acknowledgement.read) with
    | error e => rfl
    | ok confirmed => cases confirmed <;> rfl
  rw [hchange, ends_map_iff]
  simp only [ends_send_iff]

/-- A creation is one request that puts a document. -/
theorem exists_sends_of_create {payload : Desired.Payload} {r : Except RemoteError Unit}
    (h : Ends (c.perform kind (.create name payload)) t r) :
    ∃ body sent, Sends c .put (documentPath kind name) body t sent := by
  cases kind with
  | index =>
    obtain ⟨sent, hsent, _⟩ := ends_change_iff.mp h
    exact ⟨_, sent, hsent⟩
  | template =>
    obtain ⟨sent, hsent, _⟩ := ends_change_iff.mp h
    exact ⟨_, sent, hsent⟩

/-- A deletion is one request about the document. -/
theorem exists_sends_of_delete {r : Except RemoteError Unit}
    (h : Ends (c.perform kind (.delete name)) t r) :
    ∃ sent, Sends c .delete (documentPath kind name) none t sent := by
  cases kind with
  | index =>
    obtain ⟨sent, hsent, _⟩ := ends_change_iff.mp h
    exact ⟨sent, hsent⟩
  | template =>
    obtain ⟨sent, hsent, _⟩ := ends_change_iff.mp h
    exact ⟨sent, hsent⟩

/-- The ways in which a part of a stored template is replaced: the template cannot be had, or it is
put back with the part replaced. -/
inductive Replaces (c : Connection) (name part : String) (value : Json) :
    Requests → Except RemoteError Unit → Prop
  | unread {t : Requests} {sent : Except RemoteError Body} {e : RemoteError}
    (hget : Sends c .get (templatePath name) none t sent)
    (hmembers : templateMembers name sent = .error e) : Replaces c name part value t (.error e)
  | put {t u : Requests} {sent answer : Except RemoteError Body} {members : List (String × Json)}
    (hget : Sends c .get (templatePath name) none t sent)
    (hmembers : templateMembers name sent = .ok members)
    (hput : Sends c .put (templatePath name) (some (.obj (Keyed.insert part value members))) u
      answer) :
    Replaces c name part value (t ++ u)
      (confirmation ("update " ++ part ++ " of template " ++ name) answer)

theorem ends_replaceSection_iff {part : String} {value : Json} {r : Except RemoteError Unit} :
    Ends (c.replaceSection name part value) t r ↔ Replaces c name part value t r := by
  rw [replaceSection, ends_bind_iff]
  constructor
  · rintro ⟨first, members, rest, rfl, hfirst, hrest⟩
    obtain ⟨sent, hget, rfl⟩ := ends_fetchTemplate_iff.mp hfirst
    cases hmembers : templateMembers name sent with
    | error e =>
      rw [hmembers] at hrest
      obtain ⟨rfl, rfl⟩ := ends_done_iff.mp hrest
      rw [List.append_nil]
      exact .unread hget hmembers
    | ok members =>
      rw [hmembers] at hrest
      obtain ⟨answer, hput, rfl⟩ := ends_change_iff.mp hrest
      exact .put hget hmembers hput
  · intro h
    cases h with
    | unread hget hmembers =>
      refine ⟨t, _, [], (List.append_nil t).symm, ends_fetchTemplate_iff.mpr ⟨_, hget, rfl⟩, ?_⟩
      rw [hmembers]
      exact .done _
    | put hget hmembers hput =>
      refine ⟨_, _, _, rfl, ends_fetchTemplate_iff.mpr ⟨_, hget, rfl⟩, ?_⟩
      rw [hmembers]
      exact ends_change_iff.mpr ⟨_, hput, rfl⟩

end Connection

end IndexKeeper
