import IndexKeeper.Proofs.Cluster.Calls

/-!
# Histories of a cluster

A history is a list of passes, clean-ups and injected errors, in any order and for any declarations.
`after` is the cluster that it leaves.  A stored resource without the marker is there through every
history, unless a fetch of it is answered as if it were not there (`stored?_after_of_foreign`):
after such an answer a pass creates it.
-/

namespace IndexKeeper.Cluster

open Program Pass

/-- What happens to a cluster. -/
inductive Step
  | reconcile (d : Desired) (previous : Status)
  | finalize (t : DeletionTarget) (previous : Status) (siblings : Except Fault (List String))
  /-- An error waits for the next call of a kind. -/
  | fail (kind : CallKind) (e : RemoteError)

/-- The run of a pass. -/
def reconcile (c : Cluster) (d : Desired) (previous : Status) :
    Run Effect Cluster (Except Fault Outcome) :=
  (Pass.reconcile d previous).run (respond (.ok [])) c

/-- The run of a clean-up. -/
def finalize (c : Cluster) (t : DeletionTarget) (previous : Status)
    (siblings : Except Fault (List String)) : Run Effect Cluster Outcome :=
  (Pass.finalize t previous).run (respond siblings) c

/-- The cluster after a step. -/
def perform (c : Cluster) : Step → Cluster
  | .reconcile d previous => (c.reconcile d previous).state
  | .finalize t previous siblings => (c.finalize t previous siblings).state
  | .fail kind e => { c with waiting := c.waiting ++ [(kind, e)] }

/-- The cluster after a history. -/
def after (c : Cluster) (steps : List Step) : Cluster := steps.foldl perform c

@[simp] theorem after_cons (c : Cluster) (s : Step) (steps : List Step) :
    c.after (s :: steps) = (c.perform s).after steps := rfl

/-- No pass of a history has a stored resource fetched as if it were not there. -/
def HonestHistory : Cluster → List Step → Prop
  | _, [] => True
  | c, s :: rest =>
    (∀ d previous, s = .reconcile d previous →
      Honest (.ok []) c (c.reconcile d previous).asked) ∧
    HonestHistory (c.perform s) rest

variable {c c' : Cluster} {siblings : Except Fault (List String)} {name : String} {o : Observed}

/-! ## Resources without the marker -/

/-- What is found without the marker is not changed. -/
theorem changesOf_of_converges_of_foreign {d : Desired} {previous : Status} {t : Transcript}
    {r : Outcome} (h : Converges d previous o t r) (hforeign : o.ownedSchema? = none) :
    changesOf t = [] := by
  cases h with
  | notOwned _ => rfl
  | adopted schema hschema _ =>
    simp [hforeign] at hschema
  | refused schema hschema _ _ _ =>
    simp [hforeign] at hschema
  | executed schema hschema _ _ _ _ =>
    simp [hforeign] at hschema

/-- A pass spares a stored resource without the marker. -/
theorem spares_of_course_of_foreign {d : Desired} {previous : Status} {t : Transcript}
    {r : Except Fault Outcome} (hcourse : Course d previous t r)
    (h : Answered (respond siblings) c t c')
    (hhonest : Honest siblings c (t.map Exchange.question)) (hstored : c.stored? name = some o)
    (hforeign : o.ownedSchema? = none) : ∀ x ∈ t, Spares name x := by
  apply spares_of_changesOf
  by_cases hname : d.name = name
  · -- the pass is for this resource: it finds it, sees no marker, and stops
    subst hname
    have hnothing : changesOf t = [] := by
      rcases converges_of_stored hcourse h hhonest hstored with
        hnothing | ⟨seen, rest, mid, out, rfl, hseen, _, _, hconv⟩
      · exact hnothing
      · rw [changesOf_append, hseen, changesOf_of_converges_of_foreign hconv hforeign]
        rfl
    rw [hnothing]
    simp
  · obtain ⟨seen, rest, rfl, hseen, hpermitted⟩ := hcourse.permitted
    rw [changesOf_append, hseen, List.nil_append]
    exact spares_of_permitted hpermitted hname

/-- A deletion of one resource spares the others. -/
theorem spares_of_deletes {target : DeletionTarget} {observed : Observed} {t : Transcript}
    {r : Except Fault String} (h : Deletes target observed t r) (hname : target.name ≠ name) :
    ∀ x ∈ changesOf t, Spares name x := by
  have hdelete : ∀ answer : Except RemoteError Unit,
      ∀ x ∈ changesOf (changed target.kind .delete (.delete target.name) answer),
        Spares name x := by
    intro answer x hx
    rw [changesOf_changed rfl, List.mem_singleton] at hx
    rw [hx]
    exact spares_replied (.delete target.name) hname answer
  cases h with
  | notOwned _ => simp
  | failed _ _ e => exact hdelete (.error e)
  | confirmed _ _ => exact hdelete (.ok ())

/-- What is found without the marker is not deleted. -/
theorem changesOf_of_deletes_of_foreign {target : DeletionTarget} {t : Transcript}
    {r : Except Fault String} (h : Deletes target o t r) (hforeign : o.ownedSchema? = none) :
    changesOf t = [] := by
  cases h with
  | notOwned _ => rfl
  | failed schema hschema _ =>
    simp [hforeign] at hschema
  | confirmed schema hschema =>
    simp [hforeign] at hschema

/-- Listing and fetching change nothing. -/
theorem changesOf_found (target : String) (r : Except Fault (List String))
    (observed : Except RemoteError Observed) (t : Transcript) :
    changesOf (listed r :: replied (.fetch target) observed :: t) = changesOf t := rfl

/-- A clean-up spares a stored resource without the marker. -/
theorem spares_of_drops_of_foreign {target : DeletionTarget} {previous : Status} {t : Transcript}
    {r : Except Fault String} (hdrops : Drops target previous t r)
    (h : Answered (respond siblings) c t c') (hstored : c.stored? name = some o)
    (hforeign : o.ownedSchema? = none) : ∀ x ∈ t, Spares name x := by
  apply spares_of_changesOf
  cases hdrops with
  | found hdrop hprevious names hnames observed hdel =>
    by_cases hname : target.name = name
    · -- what was fetched is what is stored, and that has no marker
      subst hname
      obtain ⟨_, hrest⟩ := answered_cons_iff.mp h
      obtain ⟨hfetch, _⟩ := answered_cons_iff.mp hrest
      have heq : some observed = some o := (stored?_of_fetch hfetch).symm.trans hstored
      cases heq
      rw [changesOf_found, changesOf_of_deletes_of_foreign hdel hforeign]
      simp
    · rw [changesOf_found]
      exact spares_of_deletes hdel hname
  | notAsked _ => simp
  | notAcknowledged _ _ => simp
  | unlisted _ _ f => exact fun x hx => by cases hx
  | shared _ _ names _ => exact fun x hx => by cases hx
  | gone _ _ names _ => exact fun x hx => by cases hx
  | unread _ _ names _ e _ => exact fun x hx => by cases hx

/-- A step leaves a stored resource without the marker as it is. -/
theorem stored?_perform_of_foreign {s : Step} (hstored : c.stored? name = some o)
    (hforeign : o.ownedSchema? = none)
    (hhonest : ∀ d previous, s = .reconcile d previous →
      Honest (.ok []) c (c.reconcile d previous).asked) :
    (c.perform s).stored? name = some o := by
  cases s with
  | reconcile d previous =>
    obtain ⟨t, hends, hanswered, hasked⟩ :=
      exists_transcript (respond (.ok [])) (Pass.reconcile d previous) c
    have hhonest' := hhonest d previous rfl
    rw [reconcile, hasked] at hhonest'
    have hspare := spares_of_course_of_foreign (course_of_ends hends) hanswered hhonest' hstored
      hforeign
    exact (stored?_of_spares hanswered hspare).trans hstored
  | finalize target previous siblings =>
    obtain ⟨t, hends, hanswered, _⟩ :=
      exists_transcript (respond siblings) (Pass.finalize target previous) c
    obtain ⟨r, hdrops, _⟩ := drops_of_finalize hends
    have hspare := spares_of_drops_of_foreign hdrops hanswered hstored hforeign
    exact (stored?_of_spares hanswered hspare).trans hstored
  | fail kind e => exact hstored

theorem stored?_after_of_foreign {steps : List Step} (hstored : c.stored? name = some o)
    (hforeign : o.ownedSchema? = none) (hhonest : c.HonestHistory steps) :
    (c.after steps).stored? name = some o := by
  induction steps generalizing c with
  | nil => exact hstored
  | cons s rest ih =>
    rw [after_cons]
    exact ih (stored?_perform_of_foreign hstored hforeign hhonest.1) hhonest.2

/-- The guard of ownership.  However the cluster answers, a pass asks only for the changes that are
permitted after what it has read, and for no deletion; and in every history of passes and clean-ups
a stored resource without the marker stays as it is. -/
theorem ownership_guard :
    (∀ (d : Desired) (previous : Status) (t : Transcript) (r : Except Fault Outcome),
      Ends (Pass.reconcile d previous) t r →
        (∃ seen rest, t = seen ++ rest ∧ changesOf seen = [] ∧
          Permitted d seen (changesOf rest)) ∧
        ∀ x ∈ t, ∀ name, x.question ≠ .remote (.delete name)) ∧
    ∀ (c : Cluster) (steps : List Step) (name : String) (o : Observed),
      c.stored? name = some o → o.ownedSchema? = none → c.HonestHistory steps →
        (c.after steps).stored? name = some o := by
  constructor
  · intro d previous t r hends
    have hcourse := course_of_ends hends
    exact ⟨hcourse.permitted, hcourse.not_delete⟩
  · intro c steps name o hstored hforeign hhonest
    exact stored?_after_of_foreign hstored hforeign hhonest

theorem ownership_guard_logs :
    (after ⟨[("logs", ⟨.empty, some (.obj []), none⟩)], [], []⟩
        [.reconcile ⟨"logs", true, .empty, .obj [], none⟩ {},
          .finalize ⟨"logs", .index, true⟩ (.succeeded "logs" .create) (.ok [])]).stored? "logs" =
      some ⟨.empty, some (.obj []), none⟩ := by
  refine ownership_guard.2 _ _ "logs" _ rfl rfl ⟨?_, ?_, trivial⟩
  · intro d previous _
    exact honest_of_no_waiting rfl _
  · intro d previous hstep
    cases hstep

end IndexKeeper.Cluster
