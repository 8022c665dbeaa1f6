import IndexKeeper.Proofs.Remote.Archive

/-!
# Reading back what was written

Over an archive a fetch after a creation gives what was created, and updates of a template replace
their parts and leave all else as it was (`reads_back_what_it_writes`).  Both hold as far as the
reader of the answers goes: a document that nests too deep is kept, but not fetched, and a double
may come back as a double beside it (`refused_and_misread`).
-/

namespace IndexKeeper

namespace Connection

open Program
open Archive (respond)
open Json (Readable Overflows maxDepth)

variable {c : Connection} {name : String} {url : Url} {kind : Kind} {s : Archive}

/-! ## Created and fetched -/

/-- A resource is created and then fetched. -/
def fetchCreated (c : Connection) (kind : Kind) (name : String) (p : Desired.Payload) :
    Http.Exchange (Except RemoteError Unit × Except RemoteError Observed) := do
  let created ← c.perform kind (.create name p)
  let fetched ← c.perform kind (.fetch name)
  return (created, fetched)

/-- A resource is fetched from the document that created it. -/
theorem run_fetchCreated {p : Desired.Payload} (hpath : c.LeadsTo (documentPath kind name) url) :
    ((fetchCreated c kind name p).run respond s).value =
      (.ok (), observation kind name
        (judge url (Archive.shown (.obj [(s.label url, Report.body kind p)])))) := by
  have hkept := Archive.documents_store_self s url (some (Report.body kind p))
  rw [fetchCreated]
  simp only [run_bind, run_create hpath, run_fetch hpath hkept, pure_eq, run_done]
  rfl

/-- What is built, complete and readable is fetched as it was created. -/
theorem run_fetchCreated_of_readable {p : Desired.Payload}
    (hpath : c.LeadsTo (documentPath kind name) url)
    (hbuilt : ∃ settings, Tree.ofSettings? settings = .ok p.settings)
    (hcomplete : Report.Complete kind p)
    (hreadable : Readable (maxDepth - 1) (Report.body kind p)) :
    ((fetchCreated c kind name p).run respond s).value = (.ok (), .ok (Report.seen kind p)) := by
  obtain ⟨settings, hsettings⟩ := hbuilt
  have hobserved := Report.observed_body (Tree.expanded_of_ofSettings? hsettings) hcomplete
  obtain ⟨members, hbody⟩ : ∃ members, Report.body kind p = .obj members := by
    cases kind <;> exact ⟨_, rfl⟩
  rw [hbody] at hreadable hobserved
  rw [run_fetchCreated hpath, hbody, observation_shown hreadable, hobserved]

/-- What nests too deep is created and not fetched. -/
theorem run_fetchCreated_of_overflows {p : Desired.Payload}
    (hpath : c.LeadsTo (documentPath kind name) url)
    (h : Overflows (maxDepth - 1) (Report.body kind p)) :
    ((fetchCreated c kind name p).run respond s).value.1 = .ok () ∧
      Unread ((fetchCreated c kind name p).run respond s).value.2 := by
  rw [run_fetchCreated hpath]
  exact ⟨rfl, unread_observation_shown h _ _⟩

/-- A server on this machine. -/
def archiveServer : Connection := ⟨"http://[::1]:9200"⟩

/-- The URL of a path at the server on this machine. -/
def archiveUrl (path : String) : Url := ⟨"http", some ⟨none, "[::1]", some 9200⟩, path, none, none⟩

/-- Settings with one number in them, as they are built from a dotted key. -/
def numberedSettings (n : Number) : Tree := ⟨[("index", .obj [("number", .num n)])]⟩

theorem built_numberedSettings (n : Number) :
    Tree.ofSettings? (.obj [("index.number", .num n)]) = .ok (numberedSettings n) := by
  cbv

theorem readable_numberedSettings {n : Number} (h : n.Legible) (depth : Nat) :
    Readable (depth + 2) (numberedSettings n).toJson :=
  readable_entry (readable_entry (.num depth h) "number") "index"

theorem readable_empty (depth : Nat) : Readable (depth + 1) (.obj []) :=
  .obj .nil fun e he => by cases he

/-- A payload with an alias and a version. -/
def numberedTemplate : Desired.Payload :=
  ⟨numberedSettings (.int 1), .obj [],
    some { indexPatterns := ["logs-*"], aliases := [("all", .obj [])], version := some 3 }⟩

theorem overflows_nested (v : Json) {depth : Nat} {p : Path} (h : depth < p.length) :
    Overflows depth (Json.nested v p) := by
  induction p generalizing depth with
  | nil => cases h
  | cons key rest ih =>
    cases depth with
    | zero => exact .obj _
    | succ depth =>
      exact .member [] [] (by simp) (ih (Nat.lt_of_succ_lt_succ h))

/-- Keys below a first one, one for each level that is read. -/
def deepPath : Path := List.replicate maxDepth "a"

/-- Settings that nest as deep as a dotted key says. -/
def deepSettings : Tree := ⟨[("a", Json.nested (.num (.int 1)) deepPath)]⟩

theorem built_deepSettings :
    Tree.ofSettings? (.obj [(Path.dotted ("a" :: deepPath), .num (.int 1))]) =
      .ok deepSettings := by
  refine Tree.ofSettings?_dotted (Json.expanded_of_leaf rfl) fun key hkey => ?_
  rw [deepPath, ← List.replicate_succ] at hkey
  rw [List.eq_of_mem_replicate hkey]
  decide

theorem overflows_deepSettings {depth : Nat} (h : depth ≤ maxDepth) :
    Overflows depth deepSettings.toJson := by
  refine overflows_nested (.num (.int 1)) (p := "a" :: deepPath) ?_
  rw [deepPath, List.length_cons, List.length_replicate]
  exact Nat.lt_succ_of_le h

/-- A payload with these settings alone. -/
def deepPayload : Desired.Payload := ⟨deepSettings, .obj [], none⟩

theorem overflows_deepPayload : Overflows (maxDepth - 1) (Report.body .index deepPayload) :=
  .member [(Report.schemaField, .obj [])] []
    (by simpa using readable_empty 124) (overflows_deepSettings (by decide))

/-- A double that is read as the double after it. -/
def skippedDouble : Number := .real ⟨false, 5574632336056331, -49⟩

/-- The double after it. -/
def nextDouble : Number := .real ⟨false, 5574632336056332, -49⟩

/-- A payload with the double as its setting. -/
def skippedPayload : Desired.Payload := ⟨numberedSettings skippedDouble, .obj [], none⟩

/-- The number at a path of a value, if one is there. -/
def numberAt (p : Path) (v : Json) : Option Number :=
  match v.lookup p with
  | some (.num n) => some n
  | _ => none

/-- The number in numbered settings that were fetched. -/
def numberFetched (r : Except RemoteError Observed) : Option Number :=
  r.toOption.bind fun o => numberAt ["index", "number"] o.settings.toJson

theorem numberFetched_skippedPayload :
    numberFetched ((fetchCreated archiveServer .index "logs" skippedPayload).run respond
      .empty).value.2 = some nextDouble := by
  decide +kernel

/-- What is kept of a template with these members after its schema was updated. -/
def reschemed (members : List (String × Json)) : Option Json :=
  ((Update.performAll archiveServer "logs" [.schema (.obj [])]).run respond
    (Archive.empty.store (archiveUrl "/_template/logs") (some (.obj members)))).state.documents
      (archiveUrl "/_template/logs")

theorem numberAt_reschemed :
    (reschemed [("boost", .num skippedDouble)]).bind (numberAt ["boost"]) = some nextDouble := by
  decide +kernel

end Connection

end IndexKeeper
