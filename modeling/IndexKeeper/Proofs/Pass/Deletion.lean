import IndexKeeper.Proofs.Pass.Cleanup
import IndexKeeper.Proofs.Pass.Permission

/-!
# When a clean-up deletes

A clean-up deletes exactly if nothing speaks against it: the declaration asks for it, its last pass
was confirmed, no other declaration names the resource (`Unopposed`), and what is fetched carries
the marker (`Marked`).  `Drops.cleanupCalls` gives all calls of a clean-up in terms of these two
conditions, for every way in which the other declarations are listed and the cluster answers:
whatever fails, the clean-up ends, the finalizer goes and the status stays.
-/

namespace IndexKeeper.Pass

open Program

/-! ## What speaks for a deletion -/

/-- Nothing speaks against a deletion before the resource is read. -/
structure Unopposed (t : DeletionTarget) (previous : Status)
    (siblings : Except Fault (List String)) : Prop where
  wanted : t.dropOnDelete = true
  acknowledged : previous.acknowledged = true
  unshared : ∃ names, siblings = .ok names ∧ t.name ∉ names

/-- What was fetched is a resource with the marker. -/
def Marked (fetched : Except RemoteError Observed) : Prop :=
  ∃ observed, fetched = .ok observed ∧ observed.ownedSchema?.isSome = true

theorem marked_ok_iff {observed : Observed} :
    Marked (.ok observed) ↔ observed.ownedSchema?.isSome = true := by
  constructor
  · rintro ⟨o, heq, howned⟩
    cases heq
    exact howned
  · intro howned
    exact ⟨observed, rfl, howned⟩

theorem not_marked_error (e : RemoteError) : ¬ Marked (.error e) := by
  rintro ⟨o, heq, _⟩
  cases heq

theorem not_unopposed_error {t : DeletionTarget} {previous : Status} (f : Fault) :
    ¬ Unopposed t previous (.error f) := by
  rintro ⟨_, _, names, heq, _⟩
  cases heq

theorem not_unopposed_of_mem {t : DeletionTarget} {previous : Status} {names : List String}
    (h : t.name ∈ names) : ¬ Unopposed t previous (.ok names) := by
  rintro ⟨_, _, others, heq, hothers⟩
  cases heq
  exact hothers h

/-! ## The calls of a clean-up -/

/-- The calls of a clean-up, given whether something speaks against the deletion and whether the
resource is marked. -/
inductive CleanupCalls (t : DeletionTarget) (unopposed marked : Prop) : List Call → Prop
  | nothing (h : ¬ unopposed) : CleanupCalls t unopposed marked []
  | reading (h : unopposed) (hmarked : ¬ marked) :
    CleanupCalls t unopposed marked [.fetch t.name]
  | deletion (h : unopposed) (hmarked : marked) :
    CleanupCalls t unopposed marked [.fetch t.name, .delete t.name]

/-- What a deletion in a transcript says of the clean-up that asked for it. -/
theorem Drops.of_delete {t : DeletionTarget} {previous : Status} {asked : Transcript}
    {r : Except Fault String} (h : Drops t previous asked r) {name : String}
    {answer : Except RemoteError Unit} (hdelete : replied (.delete name) answer ∈ asked) :
    name = t.name ∧ previous.acknowledged = true ∧
      ∃ names, listed (.ok names) ∈ asked ∧ t.name ∉ names := by
  cases h with
  | found hdrop hprevious names hnames observed hdel =>
    refine ⟨?_, hprevious, names, List.mem_cons_self, hnames⟩
    cases hdel with
    | notOwned hschema => simp [listed, replied] at hdelete
    | failed schema hschema e =>
      obtain ⟨hname, _⟩ : name = t.name ∧ answer = .error e := by
        simpa [listed, replied, changed, counted] using hdelete
      exact hname
    | confirmed schema hschema =>
      obtain ⟨hname, _⟩ : name = t.name ∧ answer = .ok () := by
        simpa [listed, replied, changed, counted] using hdelete
      exact hname
  | _ => simp [listed, replied] at hdelete

/-- The schema that holds the marker and nothing else. -/
def bareSchema : Json :=
  .obj [(Ownership.metaField, .obj [(Ownership.ownerField, .str Ownership.identity)])]

theorem ownedSchema?_bare :
    Observed.ownedSchema? ⟨.empty, some bareSchema, none⟩ = some bareSchema :=
  Observed.ownedSchema?_eq_some_iff.mpr ⟨rfl, by decide⟩

/-- A clean-up that nothing speaks against may have the deletion of a marked resource confirmed. -/
theorem ends_finalize_deleted {t : DeletionTarget} {status : Status} {names : List String}
    {observed : Observed} {schema : Json} (hdrop : t.dropOnDelete = true)
    (hacknowledged : status.acknowledged = true) (hnames : t.name ∉ names)
    (hschema : observed.ownedSchema? = some schema) :
    Ends (finalize t status)
      (listed (.ok names) :: replied (.fetch t.name) (.ok observed) ::
        changed t.kind .delete (.delete t.name) (.ok ()))
      ⟨status, .remove, "successfully deleted ES " ++ t.kind.label ++ " " ++ t.name⟩ := by
  have hdelete : Ends (deleteOwned t observed)
      (changed t.kind .delete (.delete t.name) (.ok ()))
      (.ok ("successfully deleted ES " ++ t.kind.label ++ " " ++ t.name)) := by
    rw [deleteOwned, hschema]
    exact ends_mutate_bind_iff.mpr ⟨.ok (), [], rfl, .done _⟩
  have hdrops : Ends (dropResource t status)
      (listed (.ok names) :: replied (.fetch t.name) (.ok observed) ::
        changed t.kind .delete (.delete t.name) (.ok ()))
      (.ok ("successfully deleted ES " ++ t.kind.label ++ " " ++ t.name)) := by
    rw [dropResource, hdrop, hacknowledged]
    refine ends_siblings_bind_iff.mpr ⟨.ok names, _, rfl, ?_⟩
    simp only [List.contains_iff_mem, hnames, if_false]
    exact ends_call_bind_iff.mpr ⟨.ok observed, _, rfl, hdelete⟩
  exact ends_bind_iff.mpr ⟨_, _, [], rfl, hdrops, .done _⟩

section Environment

variable {σ : Type} {respond : σ → (q : Effect) → q.Answer × σ} {s s' : σ}
  {t : DeletionTarget} {previous : Status} {asked : Transcript}

/-- The answer to the listing of the other declarations, which a clean-up asks for first. -/
def listing (respond : σ → (q : Effect) → q.Answer × σ) (s : σ) : Except Fault (List String) :=
  (respond s .siblings).1

/-- The answer to a fetch that follows the listing. -/
def fetching (respond : σ → (q : Effect) → q.Answer × σ) (s : σ) (name : String) :
    Except RemoteError Observed :=
  (respond (respond s .siblings).2 (.remote (.fetch name))).1

theorem Deletes.cleanupCalls {observed : Observed} {r : Except Fault String}
    {unopposed : Prop} (h : Deletes t observed asked r) (hunopposed : unopposed) :
    CleanupCalls t unopposed (Marked (.ok observed))
      (.fetch t.name :: callsOf (asked.map Exchange.question)) := by
  rw [marked_ok_iff]
  cases h with
  | notOwned hschema => exact .reading hunopposed (by rw [hschema]; simp)
  | failed schema hschema e => exact .deletion hunopposed (by rw [hschema]; rfl)
  | confirmed schema hschema => exact .deletion hunopposed (by rw [hschema]; rfl)

/-- A clean-up calls for nothing, reads, or reads and deletes; which of these it does is decided by
the two conditions. -/
theorem Drops.cleanupCalls {r : Except Fault String} (h : Drops t previous asked r)
    (hanswered : Answered respond s asked s') :
    CleanupCalls t (Unopposed t previous (listing respond s)) (Marked (fetching respond s t.name))
      (callsOf (asked.map Exchange.question)) := by
  cases h with
  | notAsked hdrop =>
    refine .nothing fun hun => ?_
    have hwanted := hun.wanted
    rw [hdrop] at hwanted
    cases hwanted
  | notAcknowledged hdrop hprevious =>
    refine .nothing fun hun => ?_
    have hacknowledged := hun.acknowledged
    rw [hprevious] at hacknowledged
    cases hacknowledged
  | unlisted hdrop hprevious f =>
    obtain ⟨hlisting, _⟩ := answered_cons_iff.mp hanswered
    rw [listing, hlisting]
    exact .nothing (not_unopposed_error f)
  | shared hdrop hprevious names hnames =>
    obtain ⟨hlisting, _⟩ := answered_cons_iff.mp hanswered
    rw [listing, hlisting]
    exact .nothing (not_unopposed_of_mem hnames)
  | gone hdrop hprevious names hnames =>
    obtain ⟨hlisting, hrest⟩ := answered_cons_iff.mp hanswered
    obtain ⟨hfetching, _⟩ := answered_cons_iff.mp hrest
    rw [listing, fetching, hlisting, hfetching]
    exact .reading ⟨hdrop, hprevious, names, rfl, hnames⟩ (not_marked_error .notFound)
  | unread hdrop hprevious names hnames e he =>
    obtain ⟨hlisting, hrest⟩ := answered_cons_iff.mp hanswered
    obtain ⟨hfetching, _⟩ := answered_cons_iff.mp hrest
    rw [listing, fetching, hlisting, hfetching]
    exact .reading ⟨hdrop, hprevious, names, rfl, hnames⟩ (not_marked_error e)
  | found hdrop hprevious names hnames observed hdel =>
    obtain ⟨hlisting, hrest⟩ := answered_cons_iff.mp hanswered
    obtain ⟨hfetching, _⟩ := answered_cons_iff.mp hrest
    rw [listing, fetching, hlisting, hfetching]
    exact hdel.cleanupCalls ⟨hdrop, hprevious, names, rfl, hnames⟩

/-- The calls of a run of a clean-up, and what it returns. -/
theorem cleanupCalls_finalize (respond : σ → (q : Effect) → q.Answer × σ) (s : σ)
    (t : DeletionTarget) (previous : Status) :
    CleanupCalls t (Unopposed t previous (listing respond s)) (Marked (fetching respond s t.name))
        (callsOf ((finalize t previous).run respond s).asked) ∧
      ((finalize t previous).run respond s).value.status = previous ∧
      ((finalize t previous).run respond s).value.finalizer = .remove := by
  obtain ⟨asked, hends, hanswered, hasked⟩ := exists_transcript respond (finalize t previous) s
  obtain ⟨r, hdrops, hstatus, hfinalizer⟩ := drops_of_finalize hends
  rw [hasked]
  exact ⟨hdrops.cleanupCalls hanswered, hstatus, hfinalizer⟩

/-- A clean-up is exact and never blocks.  However the other declarations are listed and the cluster
answers, it lets the finalizer go and keeps the status; it deletes exactly if nothing speaks against
the deletion and the fetched resource is marked, once and with no other change; and it makes no call
if something speaks against the deletion before the resource is read. -/
theorem finalize_exact (respond : σ → (q : Effect) → q.Answer × σ) (s : σ) (t : DeletionTarget)
    (previous : Status) :
    ((finalize t previous).run respond s).value.finalizer = .remove ∧
      ((finalize t previous).run respond s).value.status = previous ∧
      (.delete t.name ∈ callsOf ((finalize t previous).run respond s).asked ↔
        Unopposed t previous (listing respond s) ∧ Marked (fetching respond s t.name)) ∧
      ((callsOf ((finalize t previous).run respond s).asked).filter Call.isMutation = [] ∨
        (callsOf ((finalize t previous).run respond s).asked).filter Call.isMutation =
          [.delete t.name]) ∧
      (callsOf ((finalize t previous).run respond s).asked = [] ↔
        ¬ Unopposed t previous (listing respond s)) := by
  obtain ⟨hcalls, hstatus, hfinalizer⟩ := cleanupCalls_finalize respond s t previous
  refine ⟨hfinalizer, hstatus, ?_⟩
  generalize callsOf ((finalize t previous).run respond s).asked = calls at hcalls
  cases hcalls with
  | nothing h => simp [h]
  | reading h hmarked => simp [h, hmarked, Call.isMutation]
  | deletion h hmarked => simp [h, hmarked, Call.isMutation]

end Environment

end IndexKeeper.Pass
