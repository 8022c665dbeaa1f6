import IndexKeeper.Proofs.Controller.Course
import IndexKeeper.Proofs.Manifest.Name
import IndexKeeper.Proofs.Pass.Deletion
import Mathlib

/-!
# What a clean-up deletes at the server

Two objects may declare one index.  A clean-up compares the names that the other objects declare
with its own, but what it deletes is what the server finds at a URL.  `exists_list_of_delete` goes
from a request back to the call that made it: a request that deletes is sent to the URL of the
declared name, and only if no live object that was listed declares that name.  So the index of
another live object is deleted only if two names have one URL.  Plain names never do; a name that
starts with a slash does.
-/

namespace IndexKeeper.Controller

open Program Pass

/-- Wherever objects were listed, some objects are among them. -/
def ListsAll (objects : List Object) (t : Trace) : Prop :=
  ∀ kind found, listedObjects kind (.ok found) ∈ t → ∀ o ∈ objects, o ∈ found

/-! ## One question of a pass -/

variable {c : Connection} {o : Object}

/-- The names that other live objects declare come from one list of objects. -/
theorem exists_list_of_ends_siblings {t : Trace} {names : List String}
    (h : Ends (siblings o) t (.ok names)) :
    ∃ found, listedObjects o.kind (.ok found) ∈ t ∧
      names = (found.filter fun other => other.uid != o.uid && !other.deleted).map
        fun other => other.spec.name := by
  obtain ⟨answer, rest, rfl, hrest⟩ := ends_ask_iff.mp h
  cases answer with
  | error e =>
    obtain ⟨_, hnames⟩ := ends_done_iff.mp hrest
    cases hnames
  | ok found =>
    obtain ⟨rfl, hnames⟩ := ends_done_iff.mp hrest
    cases hnames
    exact ⟨found, List.mem_cons_self, rfl⟩

/-- Every request to the server that a question of a pass about an index leads to is that of a
call. -/
theorem exists_call_of_ends_perform (hkind : o.kind = .index) {e : IndexKeeper.Effect} {t : Trace}
    {r : e.Answer} (h : Ends (perform c o e) t r) {request : Http.Request} {reply : Http.Reply}
    (hmem : sent request reply ∈ t) :
    ∃ call, e = .remote call ∧
      Connection.GoesTo call.method (c.url? call.indexPath) request := by
  cases e with
  | remote call =>
    obtain ⟨requests, hends, rfl⟩ := ends_perform_remote_iff.mp h
    rw [hkind] at hends
    have hin : ⟨request, reply⟩ ∈ exchangesOf (asTrace requests) := mem_exchangesOf_iff.mpr hmem
    rw [exchangesOf_asTrace] at hin
    exact ⟨call, rfl, Connection.request_of_ends_performIndex hends _ hin⟩
  | siblings =>
    obtain ⟨answer, rfl⟩ := exists_listing_of_ends h
    cases List.mem_singleton.mp hmem
  | count m =>
    rw [eq_counted_of_ends h] at hmem
    cases List.mem_singleton.mp hmem

/-! ## A whole clean-up -/

/-- The requests of a clean-up are those of `finalize`, over a connection. -/
theorem exists_finalize_of_ends_cleanup {t : Trace} {report : Report}
    (h : Ends (cleanup c o) t report) {request : Http.Request} {reply : Http.Reply}
    (hmem : sent request reply ∈ t) :
    ∃ asked outcome part, Ends (finalize o.spec.deletionTarget o.previous) asked outcome ∧
      Realized (perform c o) asked part ∧ sent request reply ∈ part ∧ ∀ x ∈ part, x ∈ t := by
  cases ends_cleanup_iff.mp h with
  | unguarded _ => cases hmem
  | released hguard hends hrealized hstored =>
    refine ⟨_, _, _, hends, hrealized, ?_, fun x hx => List.mem_append_left _ hx⟩
    rcases List.mem_append.mp hmem with hfound | hfound
    · exact hfound
    · -- writing finalizers sends nothing to the server
      cases hstored with
      | kept _ => cases hfound
      | patched finalizers _ answer => cases List.mem_singleton.mp hfound

/-- A request that deletes goes to the URL of the declared name, and no live object that was listed
declares that name. -/
theorem exists_list_of_delete (hkind : o.kind = .index) {t : Trace} {report : Report}
    (h : Ends (cleanup c o) t report) {request : Http.Request} {reply : Http.Reply}
    (hmem : sent request reply ∈ t) (hmethod : request.method = .delete) :
    c.url? o.spec.name = some request.url ∧ request.url.isWeb = true ∧
      ∃ found, listedObjects .index (.ok found) ∈ t ∧
        ∀ other ∈ found, other.uid ≠ o.uid → other.deleted = false →
          other.spec.name ≠ o.spec.name := by
  obtain ⟨asked, outcome, part, hends, hrealized, hpart, hsub⟩ :=
    exists_finalize_of_ends_cleanup h hmem
  obtain ⟨x, hx, own, hown, hin⟩ := hrealized.exists_of_mem_spelled hpart
  obtain ⟨q, answer⟩ := x
  obtain ⟨call, rfl, hgoes⟩ := exists_call_of_ends_perform hkind hown hin
  -- the only call that sends such a request is the deletion of the declared name
  obtain ⟨name, rfl⟩ : ∃ name, call = .delete name :=
    ⟨_, Call.eq_delete_of_method (hgoes.method.symm.trans hmethod)⟩
  obtain ⟨r, hdrops, _⟩ := drops_of_finalize hends
  obtain ⟨rfl, _, names, hlisted, hnames⟩ := hdrops.of_delete hx
  obtain ⟨listing, hlisting, hlistingsub⟩ := hrealized.exists_of_mem hlisted
  obtain ⟨found, hfound, rfl⟩ := exists_list_of_ends_siblings hlisting
  refine ⟨hgoes.url, hgoes.isWeb, found, hkind ▸ hsub _ (hlistingsub _ hfound), ?_⟩
  intro other hother huid hlive hname
  refine hnames (List.mem_map.mpr ⟨other, List.mem_filter.mpr ⟨hother, ?_⟩, hname⟩)
  simp [huid, hlive]

/-- Objects whose declarations break no rule and whose names are plain do not delete each other's
indices: no request of a clean-up that deletes goes to the URL of another live object. -/
theorem delete_url_ne (hserver : c.HasServer) {objects : List Object}
    (hkind : ∀ x ∈ objects, x.kind = .index) (hvalid : ∀ x ∈ objects, x.spec.check = [])
    {other : Object} (ho : o ∈ objects) (hother : other ∈ objects) (huid : other.uid ≠ o.uid)
    (hlive : other.deleted = false) (hplain : UrlPath.isPlain o.spec.name.toList = true)
    (hplain' : UrlPath.isPlain other.spec.name.toList = true) {t : Trace} {report : Report}
    (hends : Ends (cleanup c o) t report) (hlists : ListsAll objects t) {request : Http.Request}
    {reply : Http.Reply} (hmem : sent request reply ∈ t) (hmethod : request.method = .delete) :
    c.url? other.spec.name ≠ some request.url := by
  intro hurl
  obtain ⟨hown, hweb, found, hfound, hnames⟩ :=
    exists_list_of_delete (hkind o ho) hends hmem hmethod
  have hsame := Connection.eq_of_url?_eq hserver hplain' hplain
    (Spec.isUpper_eq_false_of_check (hvalid other hother))
    (Spec.isUpper_eq_false_of_check (hvalid o ho)) hurl hown hweb
  exact hnames other (hlists .index found hfound other hother) huid hlive hsame

/-! ## A clean-up that deletes -/

/-- An object that is being deleted and takes its index, which was created, with it. -/
def leaving (name : String) : Object where
  name := "leaving"
  uid := some "1"
  finalizers := [Kind.index.finalizer]
  deleted := true
  spec := { name, dropOnDelete := true }
  status := some (.succeeded name .create)

/-- An object that stays. -/
def staying (name : String) : Object where
  name := "staying"
  uid := some "2"
  spec := { name }

theorem uid_ne (name other : String) : (staying other).uid ≠ (leaving name).uid := by
  simp [leaving, staying]

/-- Both objects break no rule if their names break none. -/
theorem valid_pair {name other : String} (hname : Spec.checkName name = [])
    (hother : Spec.checkName other = []) :
    ∀ x ∈ [leaving name, staying other], x.kind = .index ∧ x.spec.check = [] := by
  have hcheck {name : String} (h : Spec.checkName name = []) (dropOnDelete : Bool) :
      Spec.check { name, dropOnDelete } = [] := by
    rw [Spec.check, h]
    rfl
  intro x hx
  rcases List.mem_cons.mp hx with rfl | hx
  · exact ⟨rfl, hcheck hname true⟩
  · obtain rfl := List.mem_singleton.mp hx
    exact ⟨rfl, hcheck hother false⟩

/-- The answer in which a server shows an index with the marker. -/
def shown : Http.Reply :=
  .answered 200 (.whole (Utf8.encode
    (Json.obj [("index", .obj [(Report.schemaField, bareSchema)])]).text))

/-- The answer in which a server confirms a deletion. -/
def confirmed : Http.Reply :=
  .answered 200 (.whole (Utf8.encode (Json.obj [(Acknowledgement.field, .bool true)]).text))

/-- What is asked when an object goes and its index is deleted while another object stays. -/
def deletion (name other : String) (url : Url) : Trace :=
  [listedObjects .index (.ok [leaving name, staying other]), sent ⟨.get, url, none⟩ shown,
    ⟨.count (.mutations .index .delete), ()⟩, sent ⟨.delete, url, none⟩ confirmed,
    ⟨.kubernetes (.patchFinalizers (leaving name) []), .ok ()⟩]

theorem listsAll_deletion (name other : String) (url : Url) :
    ListsAll [leaving name, staying other] (deletion name other url) := by
  intro kind found hmem x hx
  obtain ⟨rfl, hfound⟩ : kind = .index ∧ found = [leaving name, staying other] := by
    simpa [deletion, listedObjects, sent] using hmem
  rw [hfound]
  exact hx

theorem delete_mem_deletion (name other : String) (url : Url) :
    sent ⟨.delete, url, none⟩ confirmed ∈ deletion name other url := by
  simp [deletion]

theorem judge_shown (url : Url) (name : String) :
    (((Connection.judge url shown).bind (Connection.decode Json.read)).bind
      (IndexKeeper.Report.entry name)).bind IndexKeeper.Report.index =
      .ok ⟨.empty, some bareSchema, none⟩ := by
  have hread : (Connection.judge url shown).bind (Connection.decode Json.read) =
      .ok (.obj [("index", .obj [(Report.schemaField, bareSchema)])]) := by cbv
  rw [hread, Except.bind, IndexKeeper.Report.entry_singleton]
  rfl

theorem judge_confirmed (url : Url) :
    (Connection.judge url confirmed).bind (Connection.decode Acknowledgement.read) = .ok true := by
  cbv

/-- An object that goes deletes its index if the name is another one than that of the object that
stays, whatever their URLs are. -/
theorem ends_deletion {name other : String} {url : Url} (hurl : c.url? name = some url)
    (hweb : url.isWeb = true) (hne : name ≠ other) :
    ∃ report, Ends (cleanup c (leaving name)) (deletion name other url) report := by
  have hlist : Ends (perform c (leaving name) .siblings)
      [listedObjects .index (.ok [leaving name, staying other])] (.ok [other]) :=
    ends_ask_iff.mpr ⟨.ok [leaving name, staying other], [], rfl, .done _⟩
  have hfetch : Ends (perform c (leaving name) (.remote (.fetch name)))
      [sent ⟨.get, url, none⟩ shown] (.ok ⟨.empty, some bareSchema, none⟩) := by
    rw [← judge_shown url name]
    exact ends_realize_iff.mpr
      ⟨_, Connection.ends_performIndex_fetch hurl hweb shown, realized_asTrace _⟩
  have hcount : Ends (perform c (leaving name) (.count (.mutations .index .delete)))
      [⟨.count (.mutations .index .delete), ()⟩] () := .ask _ (.done _)
  have hdelete : Ends (perform c (leaving name) (.remote (.delete name)))
      [sent ⟨.delete, url, none⟩ confirmed] (.ok ()) :=
    ends_realize_iff.mpr
      ⟨_, Connection.ends_performIndex_delete hurl hweb (judge_confirmed url), realized_asTrace _⟩
  have hfinalize : Ends (finalize (leaving name).spec.deletionTarget (leaving name).previous)
      (listed (.ok [other]) :: replied (.fetch name) (.ok ⟨.empty, some bareSchema, none⟩) ::
        changed .index .delete (.delete name) (.ok ())) _ :=
    ends_finalize_deleted rfl rfl (fun hmem => hne (List.mem_singleton.mp hmem)) ownedSchema?_bare
  have hstore : Ends (storeFinalizers (leaving name) .remove)
      [⟨.kubernetes (.patchFinalizers (leaving name) []), .ok ()⟩] (.ok ()) :=
    ends_ask_iff.mpr ⟨.ok (), [], rfl, .done _⟩
  have hpass := ends_realize_iff.mpr ⟨_, hfinalize,
    .cons hlist (.cons hfetch (.cons hcount (.cons hdelete .nil)))⟩
  exact ⟨_, ends_bind_iff.mpr ⟨_, _, _, rfl, hpass,
    ends_bind_iff.mpr ⟨_, _, [], rfl, hstore, .done _⟩⟩⟩

/-- A server on this machine. -/
def loopback : Connection := ⟨"http://[::1]:9200"⟩

/-- The URL of a path at the server on this machine. -/
def loopbackUrl (path : String) : Url :=
  ⟨"http", some ⟨none, "[::1]", some 9200⟩, path, none, none⟩

theorem loopback_hasServer : loopback.HasServer := by
  have hserver : Url.ofText? loopback.base = some (loopbackUrl "/") := by cbv
  exact ⟨_, hserver, rfl, rfl⟩

theorem delete_url_ne_logs :
    ∃ t report request reply, Ends (cleanup loopback (leaving "logs")) t report ∧
      ListsAll [leaving "logs", staying "metrics"] t ∧ sent request reply ∈ t ∧
      request.method = .delete ∧
      loopback.url? (staying "metrics").spec.name ≠ some request.url := by
  have hurl : loopback.url? "logs" = some (loopbackUrl "/logs") := by cbv
  have hvalid := valid_pair (by decide : Spec.checkName "logs" = [])
    (by decide : Spec.checkName "metrics" = [])
  have hplain : UrlPath.isPlain "logs".toList = true := by decide
  have hplain' : UrlPath.isPlain "metrics".toList = true := by decide
  obtain ⟨report, hends⟩ := ends_deletion hurl (by decide) (by decide : "logs" ≠ "metrics")
  have hlists := listsAll_deletion "logs" "metrics" (loopbackUrl "/logs")
  have hmem := delete_mem_deletion "logs" "metrics" (loopbackUrl "/logs")
  refine ⟨_, report, _, _, hends, hlists, hmem, rfl, ?_⟩
  exact delete_url_ne loopback_hasServer (fun x hx => (hvalid x hx).1) (fun x hx => (hvalid x hx).2)
    List.mem_cons_self (List.mem_cons_of_mem _ List.mem_cons_self) (uid_ne "logs" "metrics") rfl
    hplain hplain' hends hlists hmem rfl

/-- A slash may start a name and is dropped where the URL is made, so an object whose name starts
with one deletes the index of the object that declares the name without it. -/
theorem delete_url_eq_of_slash :
    ∃ c objects o other t report request reply, c.HasServer ∧
      (∀ x ∈ objects, x.kind = .index ∧ x.spec.check = []) ∧ o ∈ objects ∧ other ∈ objects ∧
      other.uid ≠ o.uid ∧ other.deleted = false ∧ Ends (cleanup c o) t report ∧
      ListsAll objects t ∧ sent request reply ∈ t ∧ request.method = .delete ∧
      c.url? other.spec.name = some request.url := by
  have hurl : loopback.url? "/ab" = some (loopbackUrl "/ab") := by cbv
  have hvalid := valid_pair (by decide : Spec.checkName "/ab" = [])
    (by decide : Spec.checkName "ab" = [])
  obtain ⟨report, hends⟩ := ends_deletion hurl (by decide) (by decide : "/ab" ≠ "ab")
  exact ⟨loopback, [leaving "/ab", staying "ab"], leaving "/ab", staying "ab", _, report, _, _,
    loopback_hasServer, hvalid, List.mem_cons_self, List.mem_cons_of_mem _ List.mem_cons_self,
    uid_ne "/ab" "ab", rfl, hends, listsAll_deletion "/ab" "ab" (loopbackUrl "/ab"),
    delete_mem_deletion "/ab" "ab" (loopbackUrl "/ab"), rfl, hurl⟩

end IndexKeeper.Controller
