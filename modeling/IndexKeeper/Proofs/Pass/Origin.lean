import IndexKeeper.Proofs.Pass.Persistence

/-!
# Where a confirmed creation comes from

A status that newly speaks of a confirmed creation was left by a pass that had a creation confirmed,
or by one that adopted a resource because a creation was unconfirmed.  The unconfirmed creation goes
back to the last pass that found nothing (`LeftOpen`), but not always to a call: that pass may have
been for another resource, because an adoption asks whether a creation is unconfirmed and not of
what; and it may have asked for nothing, because a creation with a schema that takes no marker
counts as unconfirmed too.  Where neither is so, a call to create the resource was made.
-/

namespace IndexKeeper.Pass

open Program

variable {d : Desired} {previous : Status} {t : Transcript} {o : Outcome}

/-! ## Creations that were asked for -/

/-- The cluster was asked to create a resource. -/
def AskedToCreate (name : String) (t : Transcript) : Prop :=
  ∃ payload answer, replied (.create name payload) answer ∈ t

/-- Some pass asked the cluster to create a resource. -/
def EverAskedToCreate (name : String) (events : List Event) : Prop :=
  ∃ d asked r, Event.pass d asked r ∈ events ∧ AskedToCreate name asked

theorem askedToCreate_changed (kind : Kind) (operation : Mutation) (name : String)
    (payload : Desired.Payload) (answer : Except RemoteError Unit) :
    AskedToCreate name (changed kind operation (.create name payload) answer) :=
  ⟨payload, answer, List.mem_cons_of_mem _ List.mem_cons_self⟩

theorem AskedToCreate.append_left {name : String} {rest : Transcript}
    (h : AskedToCreate name rest) (t : Transcript) : AskedToCreate name (t ++ rest) := by
  obtain ⟨payload, answer, hmem⟩ := h
  exact ⟨payload, answer, List.mem_append_right t hmem⟩

theorem EverAskedToCreate.cons {name : String} {events : List Event}
    (h : EverAskedToCreate name events) (e : Event) : EverAskedToCreate name (e :: events) := by
  obtain ⟨d, asked, r, hmem, hasked⟩ := h
  exact ⟨d, asked, r, List.mem_cons_of_mem e hmem, hasked⟩

/-- A creation with a schema that takes the marker is asked for. -/
theorem Creates.asked (h : Creates d t o) {marked : Json}
    (hmark : Ownership.mark d.schema = .ok marked) : AskedToCreate d.name t := by
  cases h with
  | malformed m hp =>
    rw [Desired.payload, hmark] at hp
    cases hp
  | failed payload hp e => exact askedToCreate_changed _ _ _ _ _
  | confirmed payload hp => exact askedToCreate_changed _ _ _ _ _

theorem LeftOpen.mem {origin : Desired} {asked : Transcript} {f : Fault} {events : List Event}
    (h : LeftOpen origin asked f events) :
    Event.pass origin asked (.ok (notCreated origin f)) ∈ events := by
  induction h with
  | here earlier before hpossible hfound => exact List.mem_cons_self
  | later e h he ih => exact List.mem_cons_of_mem e ih

/-- The pass that left a creation unconfirmed asked for it, if its schema takes the marker. -/
theorem LeftOpen.asked {origin : Desired} {asked : Transcript} {f : Fault} {events : List Event}
    (h : LeftOpen origin asked f events) {marked : Json}
    (hmark : Ownership.mark origin.schema = .ok marked) :
    EverAskedToCreate origin.name events := by
  induction h with
  | here earlier before hpossible hfound =>
    obtain ⟨rest, o, hcreate, hasked, _⟩ := (course_of_ends hpossible).of_missing hfound
    refine ⟨origin, asked, _, List.mem_cons_self, ?_⟩
    rw [hasked]
    exact (hcreate.asked hmark).append_left _
  | later e h he ih => exact ih.cons e

/-! ## Newly confirmed creations -/

/-- An acknowledged status that is kept has no error. -/
theorem Life.noError {events : List Event} {status : Status} (h : Life events status)
    (hacknowledged : status.acknowledged = true) : status.latestError = "" := by
  induction h with
  | new => cases hacknowledged
  | @next events status hlife e hpossible ih =>
    cases e with
    | pass d asked r =>
      cases r with
      | error f => exact ih hacknowledged
      | ok o => exact ((course_of_ends hpossible).clean_of_acknowledged hacknowledged).1.2
    | cleanup target asked o =>
      obtain ⟨_, _, hstatus, _⟩ := drops_of_finalize hpossible
      change o.status.acknowledged = true at hacknowledged
      change o.status.latestError = ""
      rw [hstatus] at hacknowledged ⊢
      exact ih hacknowledged

/-- Carrying out a plan does not newly confirm a creation, unless the status before it was
acknowledged with an error. -/
theorem Executes.status_eq_of_create {p : Plan} (h : Executes d previous p t o)
    (hprevious : previous.isUnacknowledgedCreate = false)
    (hnoError : previous.acknowledged = true → previous.latestError = "")
    (hoperation : o.status.operation = some .create)
    (hacknowledged : o.status.acknowledged = true) : o.status = previous := by
  rcases h.outcome_cases with rfl | rfl | ⟨f, rfl⟩
  · cases hoperation
  · cases hbefore : previous.acknowledged with
    | true => exact status_unchanged d ⟨hbefore, hnoError hbefore⟩
    | false =>
      -- the new status speaks of the operation before it, and that was no creation
      simp only [unchanged, hbefore, Status.succeeded] at hoperation
      cases hoperation' : previous.operation with
      | none => simp [hoperation'] at hoperation
      | some operation =>
        cases operation with
        | update => simp [hoperation'] at hoperation
        | create => simp [Status.isUnacknowledgedCreate, hoperation', hbefore] at hprevious
  · cases hacknowledged

/-- A pass that newly confirms a creation asked for it, or adopted what it found. -/
theorem Course.asked_or_unconfirmed (h : Course d previous t (.ok o))
    (hnoError : previous.acknowledged = true → previous.latestError = "")
    (hoperation : o.status.operation = some .create) (hacknowledged : o.status.acknowledged = true)
    (hnew : o.status ≠ previous) :
    AskedToCreate d.name t ∨ previous.isUnacknowledgedCreate = true := by
  cases h with
  | creates hread hcreate =>
    cases hcreate with
    | malformed m hp => cases hacknowledged
    | failed payload hp e => cases hacknowledged
    | confirmed payload hp => exact Or.inl ((askedToCreate_changed _ _ _ _ _).append_left _)
  | converges observed hread hconv =>
    cases hconv with
    | notOwned hschema => cases hacknowledged
    | adopted schema hschema hprevious => exact Or.inr hprevious
    | refused schema hschema hprevious f hplan => cases hacknowledged
    | executed schema hschema hprevious p hplan hexec =>
      exact absurd (hexec.status_eq_of_create hprevious hnoError hoperation hacknowledged) hnew

/-- Where a pass of a life newly confirms a creation, the cluster was asked for it, by that pass or
before; or the last pass that found nothing was for another resource, or its schema takes no
marker. -/
theorem create_behind_acknowledged {events : List Event} {status : Status} {asked : Transcript}
    (hlife : Life events status) (hends : Ends (reconcile d status) asked (.ok o))
    (hoperation : o.status.operation = some .create) (hacknowledged : o.status.acknowledged = true)
    (hnew : o.status ≠ status) :
    AskedToCreate d.name asked ∨ EverAskedToCreate d.name events ∨
      ∃ origin first f, LeftOpen origin first f events ∧
        (origin.name ≠ d.name ∨ ∃ m, Ownership.mark origin.schema = .error m) := by
  rcases (course_of_ends hends).asked_or_unconfirmed hlife.noError hoperation hacknowledged hnew
    with hasked | hunconfirmed
  · exact Or.inl hasked
  rcases hlife.lived.origin hunconfirmed with ⟨hfirst, _⟩ | ⟨origin, first, f, hopen⟩
  · cases hfirst
  by_cases hname : origin.name = d.name
  · cases hmark : Ownership.mark origin.schema with
    | ok marked => exact Or.inr (Or.inl (hname ▸ hopen.asked hmark))
    | error m => exact Or.inr (Or.inr ⟨origin, first, f, hopen, Or.inr ⟨m, hmark⟩⟩)
  · exact Or.inr (Or.inr ⟨origin, first, f, hopen, Or.inl hname⟩)

/-! ## Adoptions that there are -/

/-- A pass that found nothing and left the creation unconfirmed. -/
def unconfirmedCreation (origin : Desired) (rest : Transcript) (f : Fault) : Event :=
  .pass origin (replied (.probe origin.name) (.ok false) :: rest) (.ok (notCreated origin f))

theorem life_unconfirmedCreation {origin : Desired} {rest : Transcript} {f : Fault}
    (h : Creates origin rest (notCreated origin f)) :
    Life [unconfirmedCreation origin rest f] (notCreated origin f).status :=
  .next .new (unconfirmedCreation origin rest f) (Course.creates .absent h).ends

/-- The reading that finds an index with nothing in it but the marker. -/
def bareReading (name : String) : Transcript :=
  [replied (.probe name) (.ok true), replied (.fetch name) (.ok ⟨.empty, some bareSchema, none⟩)]

theorem ends_bareAdoption (name : String) {status : Status}
    (h : status.isUnacknowledgedCreate = true) :
    Ends (reconcile (bareIndex name) status) (bareReading name) (.ok (adopted (bareIndex name))) :=
  (Course.converges _ (.found _) (.adopted bareSchema ownedSchema?_bare h)).ends

/-- The answer to a creation that the cluster does not confirm. -/
def unconfirmed : RemoteError := .notAcknowledged "create"

/-- The pass that found no such index and had its creation rejected. -/
def rejectedCreation (name : String) : Event :=
  unconfirmedCreation (bareIndex name)
    (changed .index .create (.create name ⟨.empty, bareSchema, none⟩) (.error unconfirmed))
    (.remote unconfirmed)

theorem life_rejectedCreation (name : String) :
    Life [rejectedCreation name] (notCreated (bareIndex name) (.remote unconfirmed)).status :=
  life_unconfirmedCreation (.failed _ rfl unconfirmed)

theorem not_askedToCreate_bareReading (name other : String) :
    ¬ AskedToCreate name (bareReading other) := by
  rintro ⟨payload, answer, hmem⟩
  simp [bareReading, replied] at hmem

/-- An index whose schema takes no marker. -/
def unmarkedIndex (name : String) : Desired :=
  { bareIndex name with schema := .obj [(Ownership.metaField, .null)] }

/-- The pass that found no such index and asked for nothing. -/
def unmarkedCreation (name : String) : Event :=
  unconfirmedCreation (unmarkedIndex name) [] (.malformed .ownerField)

theorem create_behind_acknowledged_logs :
    Life [rejectedCreation "logs"] (notCreated (bareIndex "logs") (.remote unconfirmed)).status ∧
      EverAskedToCreate "logs" [rejectedCreation "logs"] := by
  have hlife := life_rejectedCreation "logs"
  have hends := ends_bareAdoption "logs"
    (isUnacknowledgedCreate_notCreated (bareIndex "logs") (.remote unconfirmed))
  have hnew : (adopted (bareIndex "logs")).status ≠
      (notCreated (bareIndex "logs") (.remote unconfirmed)).status := by
    decide
  refine ⟨hlife, ?_⟩
  rcases create_behind_acknowledged hlife hends rfl rfl hnew with
    hasked | hever | ⟨origin, first, f, hopen, hother⟩
  · exact absurd hasked (not_askedToCreate_bareReading _ _)
  · exact hever
  · -- the last pass that found nothing was for this index, and its schema takes the marker
    obtain ⟨rfl, _⟩ := Event.pass.inj (List.mem_singleton.mp hopen.mem)
    rcases hother with hname | ⟨m, hmark⟩
    · exact absurd rfl hname
    · cases hmark

/-- After a pass, another one may newly confirm the creation of an index that none of the two asked
for. -/
def ConfirmsUnasked (e : Event) (name : String) : Prop :=
  ∃ status asked o, Life [e] status ∧ Ends (reconcile (bareIndex name) status) asked (.ok o) ∧
    o.status = .succeeded name .create ∧ o.status ≠ status ∧ ¬ AskedToCreate name asked ∧
    ¬ EverAskedToCreate name [e]

/-- Every creation that was left unconfirmed without asking for the index leads there. -/
theorem confirmsUnasked_of_creates {origin : Desired} {rest : Transcript} {f : Fault}
    (h : Creates origin rest (notCreated origin f)) {name : String}
    (hunasked : ¬ AskedToCreate name rest) :
    ConfirmsUnasked (unconfirmedCreation origin rest f) name := by
  refine ⟨_, _, _, life_unconfirmedCreation h, ends_bareAdoption name rfl, rfl, ?_,
    not_askedToCreate_bareReading _ _, ?_⟩
  · intro heq
    cases congrArg Status.acknowledged heq
  · rintro ⟨d, asked, r, hmem, payload, answer, hasked⟩
    cases List.mem_singleton.mp hmem
    rcases List.mem_cons.mp hasked with heq | hlater
    · cases heq
    · exact hunasked ⟨payload, answer, hlater⟩

/-- So it is after the declaration was renamed, and after its schema took no marker. -/
theorem adoption_without_creation :
    ConfirmsUnasked (rejectedCreation "logs") "metrics" ∧
      ConfirmsUnasked (unmarkedCreation "metrics") "metrics" := by
  constructor
  · refine confirmsUnasked_of_creates (.failed _ rfl unconfirmed) ?_
    rintro ⟨payload, answer, hasked⟩
    simp [changed, replied, counted, bareIndex] at hasked
  · refine confirmsUnasked_of_creates (.malformed .ownerField rfl) ?_
    rintro ⟨payload, answer, hasked⟩
    cases hasked

end IndexKeeper.Pass
