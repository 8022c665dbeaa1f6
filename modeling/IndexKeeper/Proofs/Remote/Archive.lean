import IndexKeeper.Proofs.Json.Depth
import IndexKeeper.Proofs.Remote.Document
import IndexKeeper.Proofs.Remote.Exchange
import Mathlib

/-!
# Archives

An archive is a server as the adapters need it: it keeps the documents that are put, shows each
under a key of its own choice and confirms every change.  Over an archive a call comes to what the
reader makes of the kept document.  If that is readable, a template's updates replace their parts of
it and change nothing else (`run_performAll`); if it nests too deep, each update fails and all stays
as it was (`run_performAll_of_overflows`).
-/

namespace IndexKeeper

/-! ## The archive -/

open Http (Request Reply)

/-- A server that keeps what is put to a URL and shows it there. -/
structure Archive where
  /-- The key under which a document is shown. -/
  label : Url → String
  documents : Url → Option Json

namespace Archive

/-- An archive without documents. -/
def empty : Archive := ⟨fun _ => "logs", fun _ => none⟩

/-- Keep a document at a URL, or none. -/
def store (s : Archive) (url : Url) (document : Option Json) : Archive :=
  { s with documents := fun u => if u = url then document else s.documents u }

theorem documents_store_self (s : Archive) (url : Url) (document : Option Json) :
    (s.store url document).documents url = document :=
  if_pos rfl

theorem documents_store_of_ne (s : Archive) {url other : Url} (h : other ≠ url)
    (document : Option Json) : (s.store url document).documents other = s.documents other :=
  if_neg h

/-- The answer with a document. -/
def shown (content : Json) : Reply := .answered 200 (.whole (Utf8.encode content.text))

/-- The answer that confirms a change. -/
def acknowledged : Reply := shown (.obj [(Acknowledgement.field, .bool true)])

/-- Answer a request: what is put is kept and confirmed, and shown when it is asked for. -/
def respond (s : Archive) (r : Request) : Reply × Archive :=
  match r.method with
  | .put => (acknowledged, s.store r.url r.body)
  | .delete => (acknowledged, s.store r.url none)
  | .head | .get =>
    match s.documents r.url with
    | some document => (shown (.obj [(s.label r.url, document)]), s)
    | none => (.answered 404 (.whole []), s)

end Archive

namespace Connection

open Program
open Archive (respond)
open Json (Readable Overflows maxDepth)

/-- A path leads to a URL of the web. -/
structure LeadsTo (c : Connection) (path : String) (url : Url) : Prop where
  found : c.url? path = some url
  isWeb : url.isWeb = true

variable {c : Connection} {path name : String} {url : Url} {kind : Kind} {s : Archive}

/-! ## One request -/

theorem confirmation_acknowledged (operation : String) (url : Url) :
    confirmation operation (judge url Archive.acknowledged) = .ok () := by
  cbv

/-- What is put to a URL is kept and confirmed. -/
theorem answered_put (s : Archive) (url : Url) (body : Option Json) :
    Answered respond s [⟨⟨.put, url, body⟩, Archive.acknowledged⟩] (s.store url body) :=
  answered_cons_iff.mpr ⟨rfl, answered_nil_iff.mpr rfl⟩

/-- A change that is put is kept and confirmed. -/
theorem run_change (h : c.LeadsTo path url) (body : Option Json) (operation : String) :
    (c.change .put path body operation).run respond s =
      ⟨.ok (), s.store url body, [⟨.put, url, body⟩]⟩ := by
  have hsends : Sends c .put path body [⟨⟨.put, url, body⟩, Archive.acknowledged⟩]
      (judge url Archive.acknowledged) := .sent url h.found h.isWeb _
  have hends : Ends (c.change .put path body operation)
      [⟨⟨.put, url, body⟩, Archive.acknowledged⟩] (.ok ()) :=
    ends_change_iff.mpr ⟨_, hsends, (confirmation_acknowledged operation url).symm⟩
  exact run_eq_of_ends hends (answered_put s url body)

/-- A document is read from the text that it is shown as. -/
theorem document_judge_shown (content : Json) (url : Url) :
    document (judge url (Archive.shown content)) =
      (Json.ofText content.text).mapError fun e => .decode (.body e) :=
  rfl

/-- A readable document is read as it is kept. -/
theorem document_shown {content : Json} (h : Readable maxDepth content) (url : Url) :
    document (judge url (Archive.shown content)) = .ok content := by
  rw [document_judge_shown, Json.ofText_text h]
  rfl

theorem readable_entry {depth : Nat} {v : Json} (h : Readable depth v) (label : String) :
    Readable (depth + 1) (.obj [(label, v)]) := by
  refine .obj (List.pairwise_singleton _ _) fun e he => ?_
  rw [List.mem_singleton] at he
  rw [he]
  exact h

/-- What is asked of the answer that shows a document is asked of the document. -/
theorem observation_shown {members : List (String × Json)}
    (h : Readable (maxDepth - 1) (.obj members)) (label : String) (url : Url) :
    observation kind name (judge url (Archive.shown (.obj [(label, .obj members)]))) =
      Report.observed kind (.obj members) := by
  have hdocument := document_shown (readable_entry h label) url
  cases kind with
  | index =>
    rw [observation, hdocument]
    simp only [Except.bind, Report.entry_singleton]
    rfl
  | template =>
    rw [observation, templateMembers, hdocument]
    simp only [Except.bind, Report.entry_singleton]
    rfl

/-- What was asked for nests too deep to be read. -/
def Unread {α : Type} (r : Except RemoteError α) : Prop :=
  ∃ line column, r = .error (.decode (.body ⟨.tooDeep, line, column⟩))

/-- A document that is kept and nests too deep is not read. -/
theorem unread_document_shown {v : Json} (h : Overflows (maxDepth - 1) v) (label : String)
    (url : Url) : Unread (document (judge url (Archive.shown (.obj [(label, v)])))) := by
  have hentry : Overflows maxDepth (.obj [(label, v)]) :=
    .member [] [] (by simp) h
  obtain ⟨line, column, hread⟩ := Json.isTooDeep_ofText hentry
  refine ⟨line, column, ?_⟩
  rw [document_judge_shown, hread]
  rfl

theorem unread_templateMembers_shown {v : Json} (h : Overflows (maxDepth - 1) v)
    (name label : String) (url : Url) :
    Unread (templateMembers name (judge url (Archive.shown (.obj [(label, v)])))) := by
  obtain ⟨line, column, hdocument⟩ := unread_document_shown h label url
  refine ⟨line, column, ?_⟩
  rw [templateMembers, hdocument]
  rfl

theorem unread_observation_shown {v : Json} (h : Overflows (maxDepth - 1) v) (label : String)
    (url : Url) :
    Unread (observation kind name (judge url (Archive.shown (.obj [(label, v)])))) := by
  cases kind with
  | index =>
    obtain ⟨line, column, hdocument⟩ := unread_document_shown h label url
    refine ⟨line, column, ?_⟩
    rw [observation, hdocument]
    rfl
  | template =>
    obtain ⟨line, column, hmembers⟩ := unread_templateMembers_shown h name label url
    refine ⟨line, column, ?_⟩
    rw [observation, hmembers]
    rfl

/-- The answer that shows what is kept at a URL. -/
theorem respond_get {v : Json} (hkept : s.documents url = some v) :
    respond s ⟨.get, url, none⟩ = (Archive.shown (.obj [(s.label url, v)]), s) := by
  rw [respond]
  simp only [hkept]

/-- What is kept at a URL is asked for and shown. -/
theorem answered_get {v : Json} (hkept : s.documents url = some v) :
    Answered respond s [⟨⟨.get, url, none⟩, Archive.shown (.obj [(s.label url, v)])⟩] s := by
  rw [answered_cons_iff, respond_get hkept, answered_nil_iff]
  exact ⟨rfl, rfl⟩

/-- A fetch comes to what the answer that shows the document does. -/
theorem run_fetch {v : Json} (hpath : c.LeadsTo (documentPath kind name) url)
    (hkept : s.documents url = some v) :
    (c.perform kind (.fetch name)).run respond s =
      ⟨observation kind name (judge url (Archive.shown (.obj [(s.label url, v)]))), s,
        [⟨.get, url, none⟩]⟩ := by
  have hsends : Sends c .get (documentPath kind name) none _ _ :=
    .sent url hpath.found hpath.isWeb (Archive.shown (.obj [(s.label url, v)]))
  exact run_eq_of_ends (ends_perform_fetch_iff.mpr ⟨_, hsends, rfl⟩) (answered_get hkept)

/-! ## Creations -/

theorem run_create {p : Desired.Payload} (hpath : c.LeadsTo (documentPath kind name) url) :
    (c.perform kind (.create name p)).run respond s =
      ⟨.ok (), s.store url (some (Report.body kind p)),
        [⟨.put, url, some (Report.body kind p)⟩]⟩ := by
  cases kind with
  | index => exact run_change hpath _ _
  | template => exact run_change hpath _ _

/-! ## Updates of a template -/

/-- An update of a part of a template. -/
inductive Update
  | settings (t : Tree)
  | schema (v : Json)

namespace Update

/-- The part that is replaced. -/
def part : Update → String
  | settings _ => Report.settingsField
  | schema _ => Report.schemaField

/-- What the part is replaced by. -/
def value : Update → Json
  | settings t => t.toJson
  | schema v => v

/-- The update of a template as an exchange. -/
def perform (c : Connection) (name : String) : Update → Http.Exchange (Except RemoteError Unit)
  | settings t => c.perform .template (.updateSettings name t)
  | schema v => c.perform .template (.updateSchema name v)

/-- Updates, one after the other, with what each comes to. -/
def performAll (c : Connection) (name : String) :
    List Update → Http.Exchange (List (Except RemoteError Unit))
  | [] => return []
  | u :: rest => do
    let first ← u.perform c name
    let others ← performAll c name rest
    return first :: others

/-- Members with the parts replaced in order. -/
def applyAll (updates : List Update) (members : List (String × Json)) : List (String × Json) :=
  updates.foldl (fun members u => Keyed.insert u.part u.value members) members

/-- What was last written to a part, if anything was. -/
def last? (key : String) (updates : List Update) : Option Json :=
  (updates.reverse.find? fun u => u.part == key).map value

theorem perform_eq (c : Connection) (name : String) (u : Update) :
    u.perform c name = c.replaceSection name u.part u.value := by
  cases u <;> rfl

theorem applyAll_append (updates : List Update) (u : Update) (members : List (String × Json)) :
    applyAll (updates ++ [u]) members =
      Keyed.insert u.part u.value (applyAll updates members) := by
  rw [applyAll, applyAll, List.foldl_append]
  rfl

theorem last?_append (key : String) (updates : List Update) (u : Update) :
    last? key (updates ++ [u]) = if u.part = key then some u.value else last? key updates := by
  rw [last?, last?, List.reverse_append, List.reverse_singleton, List.singleton_append,
    List.find?_cons]
  split
  · next hpart => rw [if_pos (beq_iff_eq.mp hpart), Option.map_some]
  · next hpart => rw [if_neg (beq_eq_false_iff_ne.mp hpart)]

/-- Parts that were written hold what was last written to them, all others what they held. -/
theorem get?_applyAll (key : String) (updates : List Update) (members : List (String × Json)) :
    Keyed.get? key (applyAll updates members) =
      (last? key updates).or (Keyed.get? key members) := by
  induction updates using List.reverseRecOn with
  | nil => rfl
  | append_singleton updates u ih =>
    rw [applyAll_append, last?_append, Keyed.get?_insert, ih]
    by_cases hpart : u.part = key
    · rw [if_pos hpart.symm, if_pos hpart, Option.some_or]
    · rw [if_neg (Ne.symm hpart), if_neg hpart]

theorem ordered_applyAll (updates : List Update) {members : List (String × Json)}
    (h : Keyed.Ordered members) : Keyed.Ordered (applyAll updates members) := by
  induction updates generalizing members with
  | nil => exact h
  | cons u rest ih => exact ih (h.insert u.part u.value)

end Update

/-- Members with settings and schema as they were last written, and all else as it was. -/
structure Replaced (updates : List Update) (members members' : List (String × Json)) : Prop where
  ordered : Keyed.Ordered members'
  written : ∀ key, Keyed.get? key members' =
    (Update.last? key updates).or (Keyed.get? key members)
  others : ∀ key, key ≠ Report.settingsField → key ≠ Report.schemaField →
    Keyed.get? key members' = Keyed.get? key members

theorem replaced_applyAll (updates : List Update) {members : List (String × Json)}
    (h : Keyed.Ordered members) : Replaced updates members (Update.applyAll updates members) where
  ordered := Update.ordered_applyAll updates h
  written key := Update.get?_applyAll key updates members
  others key hsettings hschema := by
    have hnever : Update.last? key updates = none := by
      rw [Update.last?, Option.map_eq_none_iff, List.find?_eq_none]
      intro u _ hpart
      rw [beq_iff_eq] at hpart
      cases u with
      | settings t => exact hsettings hpart.symm
      | schema v => exact hschema hpart.symm
    rw [Update.get?_applyAll, hnever, Option.none_or]

/-- An update replaces its part of a template that is kept and readable. -/
theorem run_replaceSection {members : List (String × Json)} (part : String) (value : Json)
    (hpath : c.LeadsTo (templatePath name) url) (hkept : s.documents url = some (.obj members))
    (hreadable : Readable (maxDepth - 1) (.obj members)) :
    ∃ asked, (c.replaceSection name part value).run respond s =
      ⟨.ok (), s.store url (some (.obj (Keyed.insert part value members))), asked⟩ := by
  have hget : Sends c .get (templatePath name) none _ _ :=
    .sent url hpath.found hpath.isWeb (Archive.shown (.obj [(s.label url, .obj members)]))
  have hmembers : templateMembers name
      (judge url (Archive.shown (.obj [(s.label url, .obj members)]))) = .ok members := by
    rw [templateMembers, document_shown (readable_entry hreadable (s.label url)) url]
    simp only [Except.bind, Report.entry_singleton]
  have hput : Sends c .put (templatePath name)
      (some (.obj (Keyed.insert part value members))) _ _ :=
    .sent url hpath.found hpath.isWeb Archive.acknowledged
  have hends := ends_replaceSection_iff.mpr (.put hget hmembers hput)
  rw [confirmation_acknowledged] at hends
  exact ⟨_, run_eq_of_ends hends
    (answered_append_iff.mpr ⟨s, answered_get hkept, answered_put s url _⟩)⟩

/-- A template that nests too deep is not read, and stays as it is. -/
theorem run_replaceSection_of_overflows {v : Json} (part : String) (value : Json)
    (hpath : c.LeadsTo (templatePath name) url) (hkept : s.documents url = some v)
    (h : Overflows (maxDepth - 1) v) :
    ∃ r asked, (c.replaceSection name part value).run respond s = ⟨r, s, asked⟩ ∧ Unread r := by
  have hget : Sends c .get (templatePath name) none _ _ :=
    .sent url hpath.found hpath.isWeb (Archive.shown (.obj [(s.label url, v)]))
  obtain ⟨line, column, hmembers⟩ :=
    unread_templateMembers_shown h name (s.label url) url
  have hends : Ends (c.replaceSection name part value) _ _ :=
    ends_replaceSection_iff.mpr (.unread hget hmembers)
  exact ⟨_, _, run_eq_of_ends hends (answered_get hkept), line, column, rfl⟩

theorem readable_insert {depth : Nat} {members : List (String × Json)} {value : Json}
    (h : Readable (depth + 1) (.obj members)) (hvalue : Readable depth value) (part : String) :
    Readable (depth + 1) (.obj (Keyed.insert part value members)) := by
  cases h with
  | obj hkeys hmembers =>
    refine .obj (hkeys.insert part value) fun e he => ?_
    rcases Keyed.mem_insert he with rfl | he
    · exact hvalue
    · exact hmembers e he

/-- Updates replace their parts of a template that is kept, and change nothing else. -/
theorem run_performAll (hpath : c.LeadsTo (templatePath name) url) {updates : List Update}
    {members : List (String × Json)} (hkept : s.documents url = some (.obj members))
    (hreadable : updates ≠ [] → Readable (maxDepth - 1) (.obj members))
    (hvalues : ∀ u ∈ updates.dropLast, Readable (maxDepth - 2) u.value) :
    ((Update.performAll c name updates).run respond s).value = updates.map (fun _ => .ok ()) ∧
      ((Update.performAll c name updates).run respond s).state.documents url =
        some (.obj (Update.applyAll updates members)) ∧
      ∀ other ≠ url, ((Update.performAll c name updates).run respond s).state.documents other =
        s.documents other := by
  induction updates generalizing s members with
  | nil => exact ⟨rfl, hkept, fun _ _ => rfl⟩
  | cons u rest ih =>
    have hmembers := hreadable (List.cons_ne_nil u rest)
    obtain ⟨asked, hfirst⟩ := run_replaceSection (s := s) u.part u.value hpath hkept hmembers
    rw [← Update.perform_eq] at hfirst
    -- what is put is fetched again only if another update follows
    have hnext : rest ≠ [] →
        Readable (maxDepth - 1) (.obj (Keyed.insert u.part u.value members)) := by
      intro hne
      have hmem : u ∈ (u :: rest).dropLast := by
        rw [List.dropLast_cons_of_ne_nil hne]
        exact List.mem_cons_self
      exact readable_insert hmembers (hvalues u hmem) u.part
    have hothers : ∀ v ∈ rest.dropLast, Readable (maxDepth - 2) v.value := by
      intro v hv
      have hne : rest ≠ [] := by
        rintro rfl
        cases hv
      refine hvalues v ?_
      rw [List.dropLast_cons_of_ne_nil hne]
      exact List.mem_cons_of_mem u hv
    obtain ⟨hvalue, hdocument, hframe⟩ :=
      ih (Archive.documents_store_self s url _) hnext hothers
    rw [Update.performAll]
    simp only [run_bind, hfirst, pure_eq, run_done, hvalue, hdocument, List.map_cons]
    refine ⟨trivial, rfl, fun other hother => ?_⟩
    rw [hframe other hother, Archive.documents_store_of_ne s hother]

/-- Updates of a template that nests too deep leave everything as it is. -/
theorem run_performAll_of_overflows (hpath : c.LeadsTo (templatePath name) url)
    (updates : List Update) {v : Json} (hkept : s.documents url = some v)
    (h : Overflows (maxDepth - 1) v) :
    ((Update.performAll c name updates).run respond s).state = s ∧
      ((Update.performAll c name updates).run respond s).value.length = updates.length ∧
      ∀ r ∈ ((Update.performAll c name updates).run respond s).value, Unread r := by
  induction updates with
  | nil => exact ⟨rfl, rfl, fun r hr => by cases hr⟩
  | cons u rest ih =>
    obtain ⟨r, asked, hfirst, hunread⟩ :=
      run_replaceSection_of_overflows u.part u.value hpath hkept h
    rw [← Update.perform_eq] at hfirst
    obtain ⟨hstate, hlength, hall⟩ := ih
    rw [Update.performAll]
    simp only [run_bind, hfirst, pure_eq, run_done, hstate, List.length_cons, hlength]
    exact ⟨trivial, trivial, List.forall_mem_cons.mpr ⟨hunread, hall⟩⟩

end Connection

end IndexKeeper
