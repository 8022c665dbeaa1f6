import IndexKeeper.Proofs.Http.Segment
import IndexKeeper.Proofs.Interaction
import IndexKeeper.Remote.Adapter

/-!
# Where requests go

Every request of a call about an index has the method of the call and goes to the URL of its path
(`request_of_ends_performIndex`).  The URL of an index is made from its name by reading a text, and
reading keeps two names apart only if both are plain (`eq_of_url?_eq`); the slashes that start a
name are dropped even before.
-/

namespace IndexKeeper

open Program

namespace Call

/-- The method of the requests of a call about an index. -/
def method : Call → Http.Method
  | probe _ => .head
  | fetch _ => .get
  | create _ _ | updateSettings _ _ | updateSchema _ _ => .put
  | delete _ => .delete

/-- The path of the requests of a call about an index. -/
def indexPath : Call → String
  | probe name | fetch name | create name _ | delete name => name
  | updateSettings name _ => name ++ "/_settings"
  | updateSchema name _ => name ++ "/_mapping"

theorem eq_delete_of_method {call : Call} (h : call.method = .delete) :
    call = .delete call.indexPath := by
  cases call with
  | delete name => rfl
  | _ => cases h

end Call

/-- The only entry there is counts for any name. -/
theorem Report.entry_singleton (name key : String) (entry : Json) :
    Report.entry name (.obj [(key, entry)]) = .ok entry := by
  rw [Report.entry]
  cases hfound : Keyed.get? name [(key, entry)] with
  | none => rfl
  | some found =>
    have hsame : found = entry := by
      simp only [Keyed.get?] at hfound
      split at hfound
      · exact (Option.some.inj hfound).symm
      · cases hfound
    rw [hsame]

namespace Connection

/-- What an exchange asked, with the answers. -/
abbrev Requests := List (Exchange Http.Request fun _ => Http.Reply)

/-- The URL of a path, if it has one. -/
def url? (c : Connection) (path : String) : Option Url :=
  (Url.ofText? (c.address path)).map (·.withoutSent)

/-! ## Requests of calls -/

/-- A request has a method and goes to a URL of the web. -/
structure GoesTo (method : Http.Method) (url : Option Url) (r : Http.Request) : Prop where
  method : r.method = method
  url : url = some r.url
  isWeb : r.url.isWeb = true

variable {c : Connection} {t : Requests}

theorem request_of_ends_send {method : Http.Method} {path : String} {body : Option Json}
    {r : Except RemoteError Http.Body} (h : Ends (c.send method path body) t r) :
    ∀ x ∈ t, GoesTo method (c.url? path) x.question := by
  intro x hx
  rw [send] at h
  split at h
  · obtain ⟨rfl, _⟩ := ends_done_iff.mp h
    cases hx
  · next url hurl =>
    split at h
    · next hweb =>
      obtain ⟨reply, rest, rfl, hrest⟩ := ends_ask_iff.mp h
      obtain ⟨rfl, _⟩ := ends_done_iff.mp hrest
      obtain rfl := List.mem_singleton.mp hx
      exact ⟨rfl, hurl, hweb⟩
    · obtain ⟨rfl, _⟩ := ends_done_iff.mp h
      cases hx

/-- What follows an exchange and asks nothing adds nothing to what it asked. -/
theorem exists_ends_of_bind {α β : Type} {p : Http.Exchange α} {f : α → Http.Exchange β} {b : β}
    (hf : ∀ a, ∃ b, f a = .done b) (h : Ends (p >>= f) t b) : ∃ a, Ends p t a := by
  obtain ⟨first, a, rest, rfl, hfirst, hrest⟩ := ends_bind_iff.mp h
  obtain ⟨b', hb'⟩ := hf a
  rw [hb'] at hrest
  obtain ⟨rfl, _⟩ := ends_done_iff.mp hrest
  rw [List.append_nil]
  exact ⟨a, hfirst⟩

theorem request_of_ends_change {method : Http.Method} {path operation : String}
    {body : Option Json} {r : Except RemoteError Unit}
    (h : Ends (c.change method path body operation) t r) :
    ∀ x ∈ t, GoesTo method (c.url? path) x.question := by
  obtain ⟨sent, hsend⟩ := exists_ends_of_bind (fun a => by
    cases (a.bind (decode Acknowledgement.read) : Except RemoteError Bool) with
    | error e => exact ⟨_, rfl⟩
    | ok confirmed => cases confirmed <;> exact ⟨_, rfl⟩) h
  exact request_of_ends_send hsend

/-- The requests of a call about an index. -/
theorem request_of_ends_performIndex {call : Call} {r : call.Answer}
    (h : Ends (c.performIndex call) t r) :
    ∀ x ∈ t, GoesTo call.method (c.url? call.indexPath) x.question := by
  cases call with
  | probe name =>
    obtain ⟨sent, hsend⟩ := exists_ends_of_bind (fun a => by
      cases a with
      | ok body => exact ⟨_, rfl⟩
      | error e => cases e <;> exact ⟨_, rfl⟩) h
    exact request_of_ends_send hsend
  | fetch name =>
    obtain ⟨fetched, hfetch⟩ := exists_ends_of_bind (fun a => ⟨_, rfl⟩) h
    obtain ⟨sent, hsend⟩ := exists_ends_of_bind (fun a => ⟨_, rfl⟩) hfetch
    exact request_of_ends_send hsend
  | create name payload => exact request_of_ends_change h
  | updateSettings name settings => exact request_of_ends_change h
  | updateSchema name schema => exact request_of_ends_change h
  | delete name => exact request_of_ends_change h

/-! ## Exchanges that there are -/

section Sent

variable {name : String} {url : Url}

/-- A request to a URL of the web is sent, and may get any reply. -/
theorem ends_send {method : Http.Method} {path : String} {body : Option Json}
    (hurl : c.url? path = some url) (hweb : url.isWeb = true) (reply : Http.Reply) :
    Ends (c.send method path body) [⟨⟨method, url, body⟩, reply⟩] (judge url reply) := by
  rw [url?] at hurl
  rw [send, hurl]
  simp only [hweb, if_true]
  exact ends_ask_iff.mpr ⟨reply, [], rfl, .done _⟩

theorem ends_performIndex_fetch (hurl : c.url? name = some url) (hweb : url.isWeb = true)
    (reply : Http.Reply) :
    Ends (c.performIndex (.fetch name)) [⟨⟨.get, url, none⟩, reply⟩]
      ((((judge url reply).bind (decode Json.read)).bind (Report.entry name)).bind
        Report.index) := by
  have hfetch : Ends (c.fetch name) [⟨⟨.get, url, none⟩, reply⟩]
      ((judge url reply).bind (decode Json.read)) :=
    ends_bind_iff.mpr ⟨_, _, [], rfl, ends_send hurl hweb reply, .done _⟩
  exact ends_bind_iff.mpr ⟨_, _, [], rfl, hfetch, .done _⟩

theorem ends_performIndex_delete (hurl : c.url? name = some url) (hweb : url.isWeb = true)
    {reply : Http.Reply}
    (hreply : (judge url reply).bind (decode Acknowledgement.read) = .ok true) :
    Ends (c.performIndex (.delete name)) [⟨⟨.delete, url, none⟩, reply⟩] (.ok ()) := by
  refine ends_bind_iff.mpr ⟨_, _, [], rfl, ends_send hurl hweb reply, ?_⟩
  rw [hreply]
  exact .done _

end Sent

/-! ## Names and URLs -/

/-- The base address of a connection is a URL without query and fragment. -/
def HasServer (c : Connection) : Prop :=
  ∃ server, Url.ofText? c.base = some server ∧ server.query = none ∧ server.fragment = none

theorem address_of_isPlain (c : Connection) {name : String}
    (h : UrlPath.isPlain name.toList = true) :
    c.address name = String.ofList (c.base.toList ++ '/' :: name.toList) := by
  have hslash : name.toList.dropWhile (· == '/') = name.toList := by
    rw [List.dropWhile_eq_self_iff]
    intro hlength hstart
    have hany := (UrlPath.of_isPlainChar
      ((UrlPath.isPlain_iff.mp h).1 _ (List.getElem_mem hlength))).2.1
    rw [beq_iff_eq.mp hstart] at hany
    exact absurd hany (by decide)
  rw [address, hslash]
  apply String.toList_inj.mp
  simp

/-- Plain names without capitals that have one URL are the same. -/
theorem eq_of_url?_eq {name other : String} {url : Url} (hserver : c.HasServer)
    (hname : UrlPath.isPlain name.toList = true) (hother : UrlPath.isPlain other.toList = true)
    (hlower : ∀ c ∈ name.toList, c.isUpper = false)
    (hlower' : ∀ c ∈ other.toList, c.isUpper = false)
    (hurl : c.url? name = some url) (hurl' : c.url? other = some url)
    (hweb : url.isWeb = true) : name = other := by
  obtain ⟨server, hbase, hquery, hfragment⟩ := hserver
  obtain ⟨u, hu, hsent⟩ := Option.map_eq_some_iff.mp hurl
  obtain ⟨v, hv, hsent'⟩ := Option.map_eq_some_iff.mp hurl'
  rw [address_of_isPlain c hname] at hu
  rw [address_of_isPlain c hother] at hv
  rw [← String.ofList_toList (s := c.base)] at hbase
  -- leaving out the credentials changes neither scheme nor path
  have hscheme : url.scheme = u.scheme := by rw [← hsent]; rfl
  have hscheme' : url.scheme = v.scheme := by rw [← hsent']; rfl
  have hpath : u.path = v.path := by
    have hpath' := congrArg Url.path (hsent.trans hsent'.symm)
    exact hpath'
  have hscheme_web := Url.isWebScheme_of_isWeb hweb
  exact String.toList_inj.mp <| Url.name_eq_of_path_eq hbase hquery hfragment hname hother hlower
    hlower' hu hv (hscheme ▸ hscheme_web) (hscheme' ▸ hscheme_web) hpath

end Connection

end IndexKeeper
