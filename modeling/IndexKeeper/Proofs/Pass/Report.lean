import IndexKeeper.Proofs.Pass.Finding
import IndexKeeper.Proofs.Pass.Outcome
import IndexKeeper.Proofs.Settings.Difference

/-!
# What an outcome reports

A pass ends with a fault exactly if the resource can not be read, and then it has changed nothing.
Every other pass has an outcome, and `Reports` says what that tells: whether the cluster confirmed
all that was asked of it, what stopped the pass if something did, and which operation a failure
speaks of.

What can stop a pass is a change that the cluster did not confirm, or a refusal of its own
(`Refused`): the resource does not carry the marker, a fixed setting would have to change, or the
desired schema takes no marker.  The conditions of a refusal are about what was found and what is
desired, not about the outcome.
-/

namespace IndexKeeper.Pass

open Program

section Transcript

variable (d : Desired) (previous : Status) (t : Transcript)

/-! ## What stops a pass -/

/-- A pass goes on to compare a resource with what is desired. -/
structure Compares (o : Observed) : Prop where
  found : Finds d.name t (.ok (some o))
  owned : o.ownedSchema?.isSome = true
  settled : previous.isUnacknowledgedCreate = false

/-- A pass has use for a schema with the marker: to create the resource, to put a drifted template
anew, or to compare the schema after the settings. -/
inductive NeedsSchema : Prop
  | missing (h : Finds d.name t (.ok none))
  | drifted (o : Observed) (h : Compares d previous t o) (hdrift : definitionDrifted d o = true)
  | compared (o : Observed) (h : Compares d previous t o) (hdrift : definitionDrifted d o = false)
    (changed : Bool)
    (hchanges : Tree.changes? d.settings o.settings d.enforcesFixed = .ok changed)

/-- The faults for which a pass stops by itself. -/
inductive Refused : Fault → Prop
  | notOwned (o : Observed) (hfound : Finds d.name t (.ok (some o)))
    (hschema : o.ownedSchema? = none) : Refused (.notOwned d.name)
  | fixed (o : Observed) (h : Compares d previous t o) (hdrift : definitionDrifted d o = false)
    (path was want : String)
    (hchanges : Tree.changes? d.settings o.settings d.enforcesFixed =
      .error (.immutableSetting path was want)) : Refused (.immutableSetting path was want)
  | malformed (m : Malformed) (hmark : Ownership.mark d.schema = .error m)
    (hneeded : NeedsSchema d previous t) : Refused (.malformed m)

/-- The faults that stop a pass: its own, or the error of a change that was asked for. -/
inductive StoppedBy : Fault → Prop
  | refused {f : Fault} (h : Refused d previous t f) : StoppedBy f
  | failed (c : Call) (hchange : c.isMutation = true) (e : RemoteError)
    (h : replied c (.error e) ∈ t) : StoppedBy (.remote e)

/-- Every change that was asked for was confirmed. -/
def AllConfirmed : Prop :=
  ∀ (c : Call) (r : c.Answer), c.isMutation = true → replied c r ∈ t → ∃ v, r = .ok v

/-- The outcomes that record a fault. -/
inductive Records (f : Fault) : Outcome → Prop
  | notCreated (h : Finds d.name t (.ok none)) : Records f (notCreated d f)
  | rejected (o : Observed) (h : Finds d.name t (.ok (some o))) : Records f (rejected d previous f)

/-- What an outcome tells of the pass. -/
structure Reports (o : Outcome) : Prop where
  acknowledged_iff : o.status.acknowledged = true ↔
    AllConfirmed t ∧ ∀ f, ¬ Refused d previous t f
  error_iff : o.status.acknowledged = true ↔ o.status.latestError = ""
  finalizer_iff : o.status.acknowledged = true ↔ o.finalizer = .ensure
  unchanged : o.status.acknowledged = false → o.finalizer = .unchanged
  stopped : o.status.acknowledged = false → ∃ f, StoppedBy d previous t f
  error : ∀ f, StoppedBy d previous t f → o.status.latestError = f.message
  operation : o.status.acknowledged = false →
    (o.status.operation = some .create ↔
      Finds d.name t (.ok none) ∨ previous.isUnacknowledgedCreate = true)

end Transcript

variable {d : Desired} {previous : Status} {t : Transcript} {r : Except Fault Outcome}

/-! ## What is recorded -/

namespace Records

variable {f : Fault} {o : Outcome}

theorem acknowledged (h : Records d previous t f o) : o.status.acknowledged = false := by
  cases h <;> rfl

theorem latestError (h : Records d previous t f o) : o.status.latestError = f.message := by
  cases h <;> rfl

theorem finalizer (h : Records d previous t f o) : o.finalizer = .unchanged := by
  cases h <;> rfl

theorem operation (h : Records d previous t f o) :
    o.status.operation = some .create ↔
      Finds d.name t (.ok none) ∨ previous.isUnacknowledgedCreate = true := by
  cases h with
  | notCreated hmissing => exact ⟨fun _ => Or.inl hmissing, fun _ => rfl⟩
  | rejected observed hfound =>
    -- a resource was found, so only the previous status can make it a creation
    have hpresent : ¬ Finds d.name t (.ok none) := by
      intro hmissing
      cases hfound.unique hmissing
    have hoperation : (Pass.rejected d previous f).status.operation =
        some previous.failureOperation := rfl
    rw [hoperation, Option.some_inj, failureOperation_eq_create_iff]
    exact ⟨Or.inr, fun h => h.resolve_left hpresent⟩

end Records

/-! ## Refusals -/

theorem payload_error_iff {m : Malformed} :
    d.payload = .error m ↔ Ownership.mark d.schema = .error m := by
  rw [Desired.payload]
  cases Ownership.mark d.schema <;> simp [Except.map]

/-- A creation of what takes no marker does not start. -/
theorem Creates.eq_notCreated {o : Outcome} {m : Malformed} (h : Creates d t o)
    (hmark : Ownership.mark d.schema = .error m) : o = notCreated d (.malformed m) := by
  have hpayload := payload_error_iff.mpr hmark
  cases h with
  | malformed m' hp =>
    cases hpayload.symm.trans hp
    rfl
  | _ payload hp => cases hpayload.symm.trans hp

/-- The same of a template that would be put anew. -/
theorem Executes.eq_rejected_of_replace {o : Outcome} {m : Malformed}
    (h : Executes d previous .replace t o) (hmark : Ownership.mark d.schema = .error m) :
    o = rejected d previous (.malformed m) := by
  have hpayload := payload_error_iff.mpr hmark
  cases h with
  | replaceMalformed m' hp =>
    cases hpayload.symm.trans hp
    rfl
  | replaceFailed payload hp e => cases hpayload.symm.trans hp
  | replaced payload hp => cases hpayload.symm.trans hp

/-- A pass that goes on to compare carries out the plan, or is rejected if there is none. -/
theorem Course.of_compares {observed : Observed} (h : Course d previous t r)
    (hcompares : Compares d previous t observed) :
    ∃ schema rest o, r = .ok o ∧
      ((∃ f, plan d observed schema = .error f ∧ o = rejected d previous f) ∨
        ∃ p, plan d observed schema = .ok p ∧ Executes d previous p rest o) := by
  obtain ⟨hfound, howned, hsettled⟩ := hcompares
  obtain ⟨rest, o, hconv, _, hr⟩ := h.of_found hfound
  cases hconv with
  | notOwned hschema =>
    rw [hschema] at howned
    cases howned
  | adopted schema _ hunconfirmed =>
    rw [hunconfirmed] at hsettled
    cases hsettled
  | refused schema _ _ f hplan => exact ⟨schema, [], _, hr, Or.inl ⟨f, hplan, rfl⟩⟩
  | executed schema _ _ p hplan hexec => exact ⟨schema, rest, o, hr, Or.inr ⟨p, hplan, hexec⟩⟩

/-- A pass that goes on to compare and has no plan is rejected. -/
theorem Course.rejected_of_plan {f : Fault} {observed : Observed} (h : Course d previous t r)
    (hcompares : Compares d previous t observed)
    (hplan : ∀ schema, plan d observed schema = .error f) : r = .ok (rejected d previous f) := by
  obtain ⟨schema, rest, o, rfl, ⟨f', hf, rfl⟩ | ⟨p, hp, _⟩⟩ := h.of_compares hcompares
  · cases (hplan schema).symm.trans hf
    rfl
  · cases (hplan schema).symm.trans hp

/-- A refusal is what the outcome records. -/
theorem Refused.records {f : Fault} (h : Refused d previous t f) (hcourse : Course d previous t r) :
    ∃ o, r = .ok o ∧ Records d previous t f o := by
  cases h with
  | notOwned observed hfound hschema =>
    obtain ⟨rest, o, hconv, _, rfl⟩ := hcourse.of_found hfound
    cases hconv with
    | notOwned _ => exact ⟨_, rfl, .rejected observed hfound⟩
    | _ schema howned =>
      rw [hschema] at howned
      cases howned
  | fixed observed hcompares hdrift path was want hchanges =>
    have hplan := plan_of_changes?_error hdrift hchanges
    exact ⟨_, hcourse.rejected_of_plan hcompares hplan, .rejected observed hcompares.found⟩
  | malformed m hmark hneeded =>
    cases hneeded with
    | missing hmissing =>
      obtain ⟨rest, o, hcreate, _, rfl⟩ := hcourse.of_missing hmissing
      rw [hcreate.eq_notCreated hmark]
      exact ⟨_, rfl, .notCreated hmissing⟩
    | compared observed hcompares hdrift changed hchanges =>
      have hplan := plan_of_mark_error hdrift hchanges hmark
      exact ⟨_, hcourse.rejected_of_plan hcompares hplan, .rejected observed hcompares.found⟩
    | drifted observed hcompares hdrift =>
      have hplan := plan_of_drifted hdrift
      obtain ⟨schema, rest, o, rfl, ⟨f', hf, _⟩ | ⟨p, hp, hexec⟩⟩ :=
        hcourse.of_compares hcompares
      · cases (hplan schema).symm.trans hf
      · cases (hplan schema).symm.trans hp
        rw [hexec.eq_rejected_of_replace hmark]
        exact ⟨_, rfl, .rejected observed hcompares.found⟩

/-! ## Changes that were not confirmed -/

section Changes

variable {c : Call} {e : RemoteError} {o : Outcome}

theorem mem_changed_iff {kind : Kind} {operation : Mutation} {c c' : Call} {r : c.Answer}
    {r' : c'.Answer} : replied c r ∈ changed kind operation c' r' ↔ replied c r = replied c' r' := by
  simp [changed, replied, counted]

/-- The answer to a change stands in a transcript after the readings. -/
theorem mem_of_isMutation {rest : Transcript} {r : c.Answer} (hchange : c.isMutation = true)
    (h : replied c r ∈ readingsOf t ++ rest) : replied c r ∈ rest := by
  rcases List.mem_append.mp h with h | h
  · have hreading := (List.mem_filter.mp h).2
    simp [isReading, replied, hchange] at hreading
  · exact h

theorem Creates.eq_of_failed (h : Creates d t o) (hfailed : replied c (.error e) ∈ t) :
    o = notCreated d (.remote e) := by
  cases h with
  | malformed m hp => cases hfailed
  | failed payload hp e' =>
    cases mem_changed_iff.mp hfailed
    rfl
  | confirmed payload hp => cases mem_changed_iff.mp hfailed

theorem SendsSchema.eq_of_failed {schema : Json} (h : SendsSchema d previous schema t o)
    (hfailed : replied c (.error e) ∈ t) : o = rejected d previous (.remote e) := by
  cases h with
  | failed e' =>
    cases mem_changed_iff.mp hfailed
    rfl
  | confirmed => cases mem_changed_iff.mp hfailed

theorem Executes.eq_of_failed {p : Plan} (h : Executes d previous p t o)
    (hfailed : replied c (.error e) ∈ t) : o = rejected d previous (.remote e) := by
  cases h with
  | replaceMalformed m hp => simp [replied, counted] at hfailed
  | replaceFailed payload hp e' =>
    cases mem_changed_iff.mp hfailed
    rfl
  | replaced payload hp => cases mem_changed_iff.mp hfailed
  | idle => cases hfailed
  | schemaOnly schema hsend => exact hsend.eq_of_failed hfailed
  | settingsFailed settings schema e' =>
    cases mem_changed_iff.mp hfailed
    rfl
  | settingsOnly settings => cases mem_changed_iff.mp hfailed
  | both settings schema hsend =>
    rcases List.mem_append.mp hfailed with h | h
    · cases mem_changed_iff.mp h
    · exact hsend.eq_of_failed h

theorem Converges.eq_of_failed {observed : Observed} (h : Converges d previous observed t o)
    (hfailed : replied c (.error e) ∈ t) : o = rejected d previous (.remote e) := by
  cases h with
  | executed schema hschema hprevious p hplan hexec => exact hexec.eq_of_failed hfailed
  | _ => cases hfailed

/-- A change that was not confirmed is what the outcome records. -/
theorem Course.records_of_failed (h : Course d previous t (.ok o)) (hchange : c.isMutation = true)
    (hfailed : replied c (.error e) ∈ t) : Records d previous t (.remote e) o := by
  rcases h.finds with ⟨e', _, hfault, _⟩ | ⟨found, o', hfound, hok⟩
  · cases hfault
  cases found with
  | none =>
    obtain ⟨rest, o, hcreate, ht, hr⟩ := h.of_missing hfound
    cases hr
    rw [ht] at hfailed
    rw [hcreate.eq_of_failed (mem_of_isMutation hchange hfailed)]
    exact .notCreated hfound
  | some observed =>
    obtain ⟨rest, o, hconv, ht, hr⟩ := h.of_found hfound
    cases hr
    rw [ht] at hfailed
    rw [hconv.eq_of_failed (mem_of_isMutation hchange hfailed)]
    exact .rejected observed hfound

end Changes

/-- What stops a pass is what the outcome records. -/
theorem StoppedBy.records {f : Fault} {o : Outcome} (h : StoppedBy d previous t f)
    (hcourse : Course d previous t (.ok o)) : Records d previous t f o := by
  cases h with
  | refused hrefused =>
    obtain ⟨o', ho, hrecords⟩ := hrefused.records hcourse
    cases ho
    exact hrecords
  | failed c hchange e hfailed => exact hcourse.records_of_failed hchange hfailed

/-! ## Otherwise there is no error -/

/-- A change was not confirmed. -/
def Failed (t : Transcript) : Prop :=
  ∃ (c : Call) (e : RemoteError), c.isMutation = true ∧ replied c (.error e) ∈ t

theorem failed_changed {kind : Kind} {operation : Mutation} {c : Call} {e : RemoteError}
    (hchange : c.isMutation = true) : Failed (changed kind operation c (.error e)) :=
  ⟨c, e, hchange, mem_changed_iff.mpr rfl⟩

theorem Failed.append_left {rest : Transcript} (h : Failed rest) (t : Transcript) :
    Failed (t ++ rest) := by
  obtain ⟨c, e, hchange, hmem⟩ := h
  exact ⟨c, e, hchange, List.mem_append_right t hmem⟩

theorem Failed.stopped (h : Failed t) : ∃ f, StoppedBy d previous t f := by
  obtain ⟨c, e, hchange, hmem⟩ := h
  exact ⟨_, .failed c hchange e hmem⟩

theorem Creates.clean_or {o : Outcome} (h : Creates d t o) :
    Clean o ∨ (∃ m, Ownership.mark d.schema = .error m) ∨ Failed t := by
  cases h with
  | malformed m hp => exact Or.inr (Or.inl ⟨m, payload_error_iff.mp hp⟩)
  | failed payload hp e => exact Or.inr (Or.inr (failed_changed rfl))
  | confirmed payload hp => exact Or.inl (clean_created d)

theorem SendsSchema.clean_or {schema : Json} {o : Outcome}
    (h : SendsSchema d previous schema t o) : Clean o ∨ Failed t := by
  cases h with
  | failed e => exact Or.inr (failed_changed rfl)
  | confirmed => exact Or.inl (clean_updated d)

theorem Executes.clean_or {p : Plan} {o : Outcome} (h : Executes d previous p t o) :
    Clean o ∨ (p = .replace ∧ ∃ m, Ownership.mark d.schema = .error m) ∨ Failed t := by
  cases h with
  | replaceMalformed m hp => exact Or.inr (Or.inl ⟨rfl, m, payload_error_iff.mp hp⟩)
  | replaceFailed payload hp e => exact Or.inr (Or.inr (failed_changed rfl))
  | replaced payload hp => exact Or.inl (clean_updated d)
  | idle => exact Or.inl (clean_unchanged d previous)
  | schemaOnly schema hsend => exact hsend.clean_or.imp_right Or.inr
  | settingsFailed settings schema e => exact Or.inr (Or.inr (failed_changed rfl))
  | settingsOnly settings => exact Or.inl (clean_updated d)
  | both settings schema hsend =>
    rcases hsend.clean_or with hclean | hfailed
    · exact Or.inl hclean
    · exact Or.inr (Or.inr (hfailed.append_left _))

/-- A plan that there is not is a refusal. -/
theorem Compares.refused_of_plan {observed : Observed} {schema : Json} {f : Fault}
    (h : Compares d previous t observed) (hschema : observed.ownedSchema? = some schema)
    (hplan : plan d observed schema = .error f) : Refused d previous t f := by
  have hdecides := decides_plan (d := d) hschema
  rw [hplan] at hdecides
  cases hdecides with
  | fixed hdrift _ hchanges =>
    obtain ⟨_, difference, _, _, rfl⟩ := Tree.mem_differences_of_changes?_error hchanges
    exact .fixed observed h hdrift _ _ _ hchanges
  | unmarked hdrift changed hchanges m hmark =>
    exact .malformed m hmark (.compared observed h hdrift changed hchanges)

/-- A template that would be put anew and takes no marker is a refusal. -/
theorem Compares.refused_of_replace {observed : Observed} {schema : Json} {m : Malformed}
    (h : Compares d previous t observed) (hschema : observed.ownedSchema? = some schema)
    (hplan : plan d observed schema = .ok .replace) (hmark : Ownership.mark d.schema = .error m) :
    Refused d previous t (.malformed m) :=
  .malformed m hmark (.drifted observed h ((justified_of_plan hschema hplan).replace rfl))

/-- A pass that nothing stops tells of no error. -/
theorem Course.clean_or_stopped {o : Outcome} (h : Course d previous t (.ok o)) :
    Clean o ∨ ∃ f, StoppedBy d previous t f := by
  cases h with
  | @creates seen rest o hread hcreate =>
    have hfound := hread.finds hcreate.readingsOf
    rcases hcreate.clean_or with hclean | ⟨m, hmark⟩ | hfailed
    · exact Or.inl hclean
    · exact Or.inr ⟨_, .refused (.malformed m hmark (.missing hfound))⟩
    · exact Or.inr (hfailed.append_left seen).stopped
  | @converges seen rest o observed hread hconv =>
    have hfound := hread.finds hconv.readingsOf
    cases hconv with
    | notOwned hschema => exact Or.inr ⟨_, .refused (.notOwned observed hfound hschema)⟩
    | adopted schema hschema hprevious => exact Or.inl (clean_adopted d)
    | refused schema hschema hprevious f hplan =>
      have hcompares : Compares d previous (seen ++ []) observed :=
        ⟨hfound, Option.isSome_of_eq_some hschema, hprevious⟩
      exact Or.inr ⟨f, .refused (hcompares.refused_of_plan hschema hplan)⟩
    | executed schema hschema hprevious p hplan hexec =>
      have hcompares : Compares d previous (seen ++ rest) observed :=
        ⟨hfound, Option.isSome_of_eq_some hschema, hprevious⟩
      rcases hexec.clean_or with hclean | ⟨rfl, m, hmark⟩ | hfailed
      · exact Or.inl hclean
      · exact Or.inr ⟨_, .refused (hcompares.refused_of_replace hschema hplan hmark)⟩
      · exact Or.inr (hfailed.append_left seen).stopped

/-! ## The report -/

/-- What stops a pass is recorded, so nothing stopped one that is acknowledged. -/
theorem Course.not_stopped {o : Outcome} (h : Course d previous t (.ok o))
    (hacknowledged : o.status.acknowledged = true) (f : Fault) : ¬ StoppedBy d previous t f := by
  intro hstopped
  have hrecorded := (hstopped.records h).acknowledged
  rw [hacknowledged] at hrecorded
  cases hrecorded

theorem Course.allConfirmed {o : Outcome} (h : Course d previous t (.ok o))
    (hacknowledged : o.status.acknowledged = true) : AllConfirmed t := by
  intro c r hchange hmem
  cases r with
  | ok v => exact ⟨v, rfl⟩
  | error e => exact absurd (.failed c hchange e hmem) (h.not_stopped hacknowledged _)

theorem Clean.reports {o : Outcome} (h : Clean o) (hcourse : Course d previous t (.ok o)) :
    Reports d previous t o := by
  obtain ⟨⟨hacknowledged, hnoError⟩, hfinalizer⟩ := h
  have hnothing := hcourse.not_stopped hacknowledged
  have hconfirmed := hcourse.allConfirmed hacknowledged
  have hunrefused : ∀ f, ¬ Refused d previous t f := fun f hf => hnothing f (.refused hf)
  have himpossible : o.status.acknowledged ≠ false := by
    rw [hacknowledged]
    decide
  exact {
    acknowledged_iff := iff_of_true hacknowledged ⟨hconfirmed, hunrefused⟩
    error_iff := iff_of_true hacknowledged hnoError
    finalizer_iff := iff_of_true hacknowledged hfinalizer
    unchanged := fun h => absurd h himpossible
    stopped := fun h => absurd h himpossible
    error := fun f hf => absurd hf (hnothing f)
    operation := fun h => absurd h himpossible }

theorem StoppedBy.reports {f : Fault} {o : Outcome} (h : StoppedBy d previous t f)
    (hcourse : Course d previous t (.ok o)) : Reports d previous t o := by
  have hrecords := h.records hcourse
  have hunacknowledged : ¬ o.status.acknowledged = true := by
    rw [hrecords.acknowledged]
    decide
  refine {
    acknowledged_iff := iff_of_false hunacknowledged ?_
    error_iff := iff_of_false hunacknowledged ?_
    finalizer_iff := iff_of_false hunacknowledged ?_
    unchanged := fun _ => hrecords.finalizer
    stopped := fun _ => ⟨f, h⟩
    error := fun g hg => (hg.records hcourse).latestError
    operation := fun _ => hrecords.operation }
  · rintro ⟨hconfirmed, hunrefused⟩
    cases h with
    | refused hrefused => exact hunrefused f hrefused
    | failed c hchange e hmem =>
      obtain ⟨v, hv⟩ := hconfirmed c _ hchange hmem
      cases hv
  · rw [hrecords.latestError]
    exact f.message_ne_empty
  · rw [hrecords.finalizer]
    decide

/-- A pass ends with a fault exactly if it could not read the resource, and then it has asked for
no change; every other pass has an outcome that reports what happened. -/
theorem reconcile_reports {σ : Type} (respond : σ → (q : Effect) → q.Answer × σ) (s : σ)
    (d : Desired) (previous : Status) :
    ∃ t, Answered respond s t ((reconcile d previous).run respond s).state ∧
      ((reconcile d previous).run respond s).asked = t.map Exchange.question ∧
      (∀ f, ((reconcile d previous).run respond s).value = .error f ↔
        ∃ e, Finds d.name t (.error e) ∧ f = .remote e) ∧
      ((∃ e, Finds d.name t (.error e)) → changesOf t = []) ∧
      ∀ o, ((reconcile d previous).run respond s).value = .ok o → Reports d previous t o := by
  obtain ⟨t, hends, hanswered, hasked⟩ := exists_transcript respond (reconcile d previous) s
  have hcourse := course_of_ends hends
  refine ⟨t, hanswered, hasked, ?_, ?_, ?_⟩
  · intro f
    rcases hcourse.finds with ⟨e, hfound, hvalue, _⟩ | ⟨found, o, hfound, hvalue⟩ <;> rw [hvalue]
    · constructor
      · intro hf
        cases hf
        exact ⟨e, hfound, rfl⟩
      · rintro ⟨e', he', rfl⟩
        cases he'.unique hfound
        rfl
    · refine iff_of_false (fun hf => (by cases hf)) ?_
      rintro ⟨e, he, _⟩
      cases he.unique hfound
  · rintro ⟨e, he⟩
    rcases hcourse.finds with ⟨_, _, _, hchanges⟩ | ⟨found, o, hfound, _⟩
    · exact hchanges
    · cases he.unique hfound
  · intro o ho
    rw [ho] at hcourse
    rcases hcourse.clean_or_stopped with hclean | ⟨f, hstopped⟩
    · exact hclean.reports hcourse
    · exact hstopped.reports hcourse

end IndexKeeper.Pass
