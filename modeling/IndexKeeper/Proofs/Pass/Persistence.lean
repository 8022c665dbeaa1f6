import IndexKeeper.Proofs.Pass.Confirmation
import IndexKeeper.Proofs.Pass.Finding
import IndexKeeper.Proofs.Pass.Outcome

/-!
# What a failure leaves behind

The status of a failed pass is what the next pass starts from.  It leads the next pass the same
way: given the same answers, that pass asks the same and ends with the same outcome
(`Course.again`).

A creation that was tried and not confirmed is adopted by the next pass that finds the resource.
Only a pass that found nothing leaves such a creation; a pass that found a resource keeps one that
was there before it and makes none (`Course.unconfirmed_of_found`).  `Lived` follows a declaration
from any status on, and `Lived.origin` traces an unconfirmed creation back to the pass that left it.
-/

namespace IndexKeeper.Pass

open Program

variable {d : Desired} {previous : Status} {observed : Observed} {t : Transcript} {o : Outcome}

/-! ## The same failure again -/

theorem SendsSchema.again {schema : Json} (h : SendsSchema d previous schema t o)
    (hfailure : o.isFailure = true) (g : Fault) :
    SendsSchema d (rejected d previous g).status schema t o := by
  cases h with
  | failed e =>
    rw [← rejected_status_rejected d previous (.remote e) g]
    exact .failed e
  | confirmed => cases hfailure

theorem Executes.again {p : Plan} (h : Executes d previous p t o) (hfailure : o.isFailure = true)
    (g : Fault) : Executes d (rejected d previous g).status p t o := by
  cases h with
  | replaceMalformed m hp =>
    rw [← rejected_status_rejected d previous (.malformed m) g]
    exact .replaceMalformed m hp
  | replaceFailed payload hp e =>
    rw [← rejected_status_rejected d previous (.remote e) g]
    exact .replaceFailed payload hp e
  | replaced payload hp => cases hfailure
  | idle =>
    rw [(clean_unchanged d previous).isFailure] at hfailure
    cases hfailure
  | schemaOnly schema hsend => exact .schemaOnly schema (hsend.again hfailure g)
  | settingsFailed settings schema e =>
    rw [← rejected_status_rejected d previous (.remote e) g]
    exact .settingsFailed settings schema e
  | settingsOnly settings => cases hfailure
  | both settings schema hsend => exact .both settings schema (hsend.again hfailure g)

theorem Converges.again (h : Converges d previous observed t o) (hfailure : o.isFailure = true)
    (g : Fault) : Converges d (rejected d previous g).status observed t o := by
  cases h with
  | notOwned hschema =>
    rw [← rejected_status_rejected d previous (.notOwned d.name) g]
    exact .notOwned hschema
  | adopted schema hschema hprevious => cases hfailure
  | refused schema hschema hprevious f hplan =>
    rw [← rejected_status_rejected d previous f g]
    -- a rejection leaves no unconfirmed creation where there was none
    exact .refused schema hschema ((isUnacknowledgedCreate_rejected d previous g).trans hprevious) f
      hplan
  | executed schema hschema hprevious p hplan hexec =>
    exact .executed schema hschema ((isUnacknowledgedCreate_rejected d previous g).trans hprevious)
      p hplan (hexec.again hfailure g)

/-- A pass that failed may go the same way after the status that it left. -/
theorem Course.again (h : Course d previous t (.ok o)) (hfailure : o.isFailure = true) :
    Course d o.status t (.ok o) := by
  cases h with
  | creates hread hcreate => exact .creates hread hcreate
  | converges observed hread hconv =>
    rcases hconv.clean_or_rejected with hclean | ⟨f, hf⟩
    · rw [hclean.isFailure] at hfailure
      cases hfailure
    · have hagain := hconv.again hfailure f
      rw [← hf] at hagain
      exact .converges observed hread hagain

/-! ## Unconfirmed creations -/

/-- A resource that was fetched was found. -/
theorem Course.finds_of_fetched {r : Except Fault Outcome} {name : String}
    (h : Course d previous t r) (hfetched : replied (.fetch name) (.ok observed) ∈ t) :
    Finds d.name t (.ok (some observed)) := by
  have hreading : replied (.fetch name) (.ok observed) ∈ readingsOf t :=
    List.mem_filter.mpr ⟨hfetched, rfl⟩
  -- of the ways to read, only one has this answer
  have hfound : ∀ found, Finds d.name t found → found = .ok (some observed) := by
    intro found hfinds
    rw [Finds] at hfinds
    generalize readingsOf t = seen at hfinds hreading
    cases hfinds with
    | found observed' =>
      simp only [replied, List.mem_cons, List.not_mem_nil, or_false] at hreading
      rcases hreading with heq | heq
      · cases heq
      · cases heq
        rfl
    | _ => simp [replied] at hreading
  rcases h.finds with ⟨e, hfinds, _⟩ | ⟨found, o, hfinds, _⟩
  · cases hfound _ hfinds
  · cases hfound _ hfinds
    exact hfinds

/-- Going on with a resource makes no unconfirmed creation. -/
theorem Converges.unconfirmed (h : Converges d previous observed t o)
    (hunconfirmed : o.status.isUnacknowledgedCreate = true) :
    previous.isUnacknowledgedCreate = true := by
  rcases h.clean_or_rejected with hclean | ⟨f, rfl⟩
  · rw [hclean.isUnacknowledgedCreate] at hunconfirmed
    cases hunconfirmed
  · rw [isUnacknowledgedCreate_rejected] at hunconfirmed
    exact hunconfirmed

/-- A pass that found a resource keeps an unconfirmed creation and makes none. -/
theorem Course.unconfirmed_of_found (h : Course d previous t (.ok o))
    (hfound : Finds d.name t (.ok (some observed)))
    (hunconfirmed : o.status.isUnacknowledgedCreate = true) :
    previous.isUnacknowledgedCreate = true := by
  obtain ⟨rest, o', hconv, _, ho⟩ := h.of_found hfound
  cases ho
  exact hconv.unconfirmed hunconfirmed

/-- A pass that found nothing and leaves an unconfirmed creation did not create. -/
theorem Creates.unconfirmed (h : Creates d t o)
    (hunconfirmed : o.status.isUnacknowledgedCreate = true) : ∃ f, o = notCreated d f := by
  rcases h.clean_or_notCreated with hclean | hnot
  · rw [hclean.isUnacknowledgedCreate] at hunconfirmed
    cases hunconfirmed
  · exact hnot

/-! ## Adoption -/

theorem created_ne_adopted (d : Desired) : created d ≠ adopted d := by
  intro h
  have hmessage := congrArg (fun o => o.message.toList.head?) h
  simp [adopted, created, String.toList_append] at hmessage

theorem unchanged_ne_adopted (d : Desired) (previous : Status) :
    unchanged d previous ≠ adopted d := by
  intro h
  have hmessage := congrArg (fun o => o.message.toList.head?) h
  simp [adopted, unchanged, String.toList_append] at hmessage

theorem updated_ne_adopted (d : Desired) : updated d ≠ adopted d := by
  intro h
  cases congrArg (fun o => o.status.operation) h

theorem ne_adopted_of_isFailure (hfailure : o.isFailure = true) : o ≠ adopted d := by
  rintro rfl
  rw [(clean_adopted d).isFailure] at hfailure
  cases hfailure

theorem Creates.ne_adopted (h : Creates d t o) : o ≠ adopted d := by
  rcases h.clean_or_notCreated with hclean | ⟨f, rfl⟩
  · rw [(h.eq_created hclean.isFailure).1]
    exact created_ne_adopted d
  · exact ne_adopted_of_isFailure (isFailure_notCreated d f)

theorem Executes.ne_adopted {p : Plan} (h : Executes d previous p t o) : o ≠ adopted d := by
  rcases h.outcome_cases with rfl | rfl | ⟨f, rfl⟩
  · exact updated_ne_adopted d
  · exact unchanged_ne_adopted d previous
  · exact ne_adopted_of_isFailure (isFailure_rejected d previous f)

/-- Only an unconfirmed creation is adopted, once the resource is found with the marker. -/
theorem Converges.of_adopted (h : Converges d previous observed t o) (ho : o = Pass.adopted d) :
    previous.isUnacknowledgedCreate = true ∧ observed.ownedSchema?.isSome = true := by
  cases h with
  | adopted schema hschema hprevious => exact ⟨hprevious, Option.isSome_of_eq_some hschema⟩
  | notOwned hschema => exact absurd ho (ne_adopted_of_isFailure (isFailure_rejected _ _ _))
  | refused schema hschema hprevious f hplan =>
    exact absurd ho (ne_adopted_of_isFailure (isFailure_rejected _ _ _))
  | executed schema hschema hprevious p hplan hexec => exact absurd ho hexec.ne_adopted

theorem Course.of_adopted (h : Course d previous t (.ok o)) (ho : o = adopted d) :
    previous.isUnacknowledgedCreate = true ∧
      ∃ observed, Finds d.name t (.ok (some observed)) ∧ observed.ownedSchema?.isSome = true := by
  cases h with
  | creates hread hcreate => exact absurd ho hcreate.ne_adopted
  | converges observed hread hconv =>
    obtain ⟨hprevious, howned⟩ := hconv.of_adopted ho
    exact ⟨hprevious, observed, hread.finds hconv.readingsOf, howned⟩

/-! ## From a status on -/

/-- What may happen to a declaration from a status on, the latest event first, with the status that
it keeps. -/
inductive Lived (start : Status) : List Event → Status → Prop
  | nil : Lived start [] start
  | cons {events : List Event} {status : Status} (h : Lived start events status) (e : Event)
    (hpossible : e.Possible status) : Lived start (e :: events) (e.statusAfter status)

/-- A life is lived from the first status on. -/
theorem Life.lived {events : List Event} {status : Status} (h : Life events status) :
    Lived {} events status := by
  induction h with
  | new => exact .nil
  | next hlife e hpossible ih => exact .cons ih e hpossible

/-- A pass found no resource. -/
def Event.FoundNothing : Event → Prop
  | .pass d asked _ => Finds d.name asked (.ok none)
  | .cleanup .. => False

/-- The last pass that found nothing left a creation unconfirmed. -/
inductive LeftOpen (origin : Desired) (asked : Transcript) (f : Fault) : List Event → Prop
  | here (earlier : List Event) (before : Status)
    (hpossible : Ends (reconcile origin before) asked (.ok (notCreated origin f)))
    (hfound : Finds origin.name asked (.ok none)) :
    LeftOpen origin asked f (.pass origin asked (.ok (notCreated origin f)) :: earlier)
  | later (e : Event) {events : List Event} (h : LeftOpen origin asked f events)
    (he : ¬ e.FoundNothing) : LeftOpen origin asked f (e :: events)

/-- An event keeps an unconfirmed creation, unless it is a pass that found nothing: that one
creates, and leaves the creation unconfirmed if it does not succeed. -/
theorem Event.Possible.unconfirmed {e : Event} {status : Status} (h : e.Possible status)
    (hunconfirmed : (e.statusAfter status).isUnacknowledgedCreate = true) :
    (status.isUnacknowledgedCreate = true ∧ ¬ e.FoundNothing) ∨
      ∃ origin asked f, ∀ earlier, LeftOpen origin asked f (e :: earlier) := by
  cases e with
  | cleanup target asked o =>
    obtain ⟨_, _, hstatus, _⟩ := drops_of_finalize h
    change o.status.isUnacknowledgedCreate = true at hunconfirmed
    rw [hstatus] at hunconfirmed
    exact Or.inl ⟨hunconfirmed, id⟩
  | pass d asked r =>
    have hcourse := course_of_ends h
    rcases hcourse.finds with ⟨e, hfound, rfl, _⟩ | ⟨found, o, hfound, rfl⟩
    · refine Or.inl ⟨hunconfirmed, ?_⟩
      intro hnothing
      cases hfound.unique hnothing
    cases found with
    | none =>
      obtain ⟨rest, o', hcreate, _, ho⟩ := hcourse.of_missing hfound
      cases ho
      obtain ⟨f, rfl⟩ := hcreate.unconfirmed hunconfirmed
      exact Or.inr ⟨d, asked, f, fun earlier => .here earlier status h hfound⟩
    | some observed =>
      refine Or.inl ⟨hcourse.unconfirmed_of_found hfound hunconfirmed, ?_⟩
      intro hnothing
      cases hfound.unique hnothing

/-- An unconfirmed creation was there at the start, and no pass found nothing since, or the last
pass that found nothing left it. -/
theorem Lived.origin {start status : Status} {events : List Event} (h : Lived start events status)
    (hunconfirmed : status.isUnacknowledgedCreate = true) :
    (start.isUnacknowledgedCreate = true ∧ ∀ e ∈ events, ¬ e.FoundNothing) ∨
      ∃ origin asked f, LeftOpen origin asked f events := by
  induction h with
  | nil => exact Or.inl ⟨hunconfirmed, fun e he => (by cases he)⟩
  | @cons events status _ e hpossible ih =>
    rcases hpossible.unconfirmed hunconfirmed with ⟨hbefore, hpresent⟩ | ⟨origin, asked, f, hopen⟩
    · rcases ih hbefore with ⟨hstart, hnone⟩ | ⟨origin, asked, f, hopen⟩
      · exact Or.inl ⟨hstart, List.forall_mem_cons.mpr ⟨hpresent, hnone⟩⟩
      · exact Or.inr ⟨origin, asked, f, .later e hopen hpresent⟩
    · exact Or.inr ⟨origin, asked, f, hopen events⟩

/-! ## The feedback of failures -/

/-- A pass that failed goes the same way again when it is answered the same; a pass that fetched a
resource makes no unconfirmed creation; and a later pass adopts what such a pass left only if a
creation was unconfirmed before it, or was left so in between by a pass that found nothing. -/
theorem failures_persist :
    (∀ {σ : Type} (respond : σ → (q : Effect) → q.Answer × σ) (again last : σ) (d : Desired)
      (previous : Status) (t : Transcript) (o : Outcome),
      Ends (reconcile d previous) t (.ok o) → o.isFailure = true → Answered respond again t last →
        (reconcile d o.status).run respond again = ⟨.ok o, last, t.map Exchange.question⟩) ∧
    (∀ (d : Desired) (previous : Status) (t : Transcript) (o : Outcome) (name : String)
      (observed : Observed),
      Ends (reconcile d previous) t (.ok o) → replied (.fetch name) (.ok observed) ∈ t →
        (o.status.isUnacknowledgedCreate = true → previous.isUnacknowledgedCreate = true) ∧
        ∀ events status d' t', Lived o.status events status →
          Ends (reconcile d' status) t' (.ok (adopted d')) →
            (previous.isUnacknowledgedCreate = true ∧ ∀ e ∈ events, ¬ e.FoundNothing) ∨
              ∃ origin asked f, LeftOpen origin asked f events) := by
  constructor
  · intro σ respond again last d previous t o hends hfailure hanswered
    exact run_eq_of_ends ((course_of_ends hends).again hfailure).ends hanswered
  · intro d previous t o name observed hends hfetched
    have hcourse := course_of_ends hends
    have hkeeps := hcourse.unconfirmed_of_found (hcourse.finds_of_fetched hfetched)
    refine ⟨hkeeps, ?_⟩
    intro events status d' t' hlived hadopts
    have hunconfirmed := ((course_of_ends hadopts).of_adopted rfl).1
    exact (hlived.origin hunconfirmed).imp_left (fun h => ⟨hkeeps h.1, h.2⟩)

theorem failures_persist_logs :
    (reconcile (bareIndex "logs") (rejected (bareIndex "logs") {} (.notOwned "logs")).status).run
        (Cluster.respond (.ok [])) ⟨[("logs", {})], [], []⟩ =
      ⟨.ok (rejected (bareIndex "logs") {} (.notOwned "logs")), ⟨[("logs", {})], [], []⟩,
        [.remote (.probe "logs"), .remote (.fetch "logs")]⟩ := by
  have hcourse : Course (bareIndex "logs") {}
      [replied (.probe "logs") (.ok true), replied (.fetch "logs") (.ok {})]
      (.ok (rejected (bareIndex "logs") {} (.notOwned "logs"))) :=
    .converges {} (.found {}) (.notOwned rfl)
  exact failures_persist.1 _ _ _ _ _ _ _ hcourse.ends (isFailure_rejected _ _ _)
    (.cons _ (.cons _ (.nil _)))

end IndexKeeper.Pass
