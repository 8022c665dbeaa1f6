import IndexKeeper.Pass
import IndexKeeper.Proofs.Interaction

/-!
# The courses of a pass

Every way in which `reconcile` may go, one constructor for each: what is asked, in order and with
its answer, and how the pass ends.  `course_of_ends` says that there is no other way, and
`Course.ends` that each of them can happen.  A statement about all passes and all answers of the
cluster is proved by going through these courses; none of them has to open the pass again.
-/

namespace IndexKeeper.Pass

open Program

/-- What a pass asked, with the answers. -/
abbrev Transcript := List (Exchange Effect Effect.Answer)

/-- A call with its answer. -/
def replied (c : Call) (r : c.Answer) : Exchange Effect Effect.Answer := ⟨.remote c, r⟩

/-- A metric that was counted. -/
def counted (m : Metric) : Exchange Effect Effect.Answer := ⟨.count m, ()⟩

/-- A change that was counted and then asked for, with its answer. -/
def changed (kind : Kind) (operation : Mutation) (c : Call) (r : c.Answer) : Transcript :=
  [counted (.mutations kind operation), replied c r]

/-! ## One call -/

theorem ends_call_bind_iff {α : Type} {c : Call} {f : c.Answer → Task α} {t : Transcript} {a : α} :
    Ends (call c >>= f) t a ↔ ∃ r rest, t = replied c r :: rest ∧ Ends (f r) rest a := by
  rw [call, ask_bind]
  exact ends_ask_iff

theorem ends_count_bind_iff {α : Type} {m : Metric} {f : Unit → Task α} {t : Transcript} {a : α} :
    Ends (count m >>= f) t a ↔ ∃ rest, t = counted m :: rest ∧ Ends (f ()) rest a := by
  rw [count, ask_bind, ends_ask_iff]
  constructor
  · rintro ⟨_, rest, rfl, h⟩
    exact ⟨rest, rfl, h⟩
  · rintro ⟨rest, rfl, h⟩
    exact ⟨(), rest, rfl, h⟩

theorem ends_mutate_bind_iff {α : Type} {kind : Kind} {operation : Mutation} {c : Call}
    {f : c.Answer → Task α} {t : Transcript} {a : α} :
    Ends (mutate kind operation c >>= f) t a ↔
      ∃ r rest, t = changed kind operation c r ++ rest ∧ Ends (f r) rest a := by
  rw [mutate, bind_assoc, ends_count_bind_iff]
  constructor
  · rintro ⟨tail, rfl, htail⟩
    obtain ⟨r, rest, rfl, hrest⟩ := ends_call_bind_iff.mp htail
    exact ⟨r, rest, rfl, hrest⟩
  · rintro ⟨r, rest, rfl, h⟩
    exact ⟨_, rfl, ends_call_bind_iff.mpr ⟨r, rest, rfl, h⟩⟩

/-! ## Reading -/

/-- The ways in which a resource is read. -/
inductive Reads (name : String) : Transcript → Except RemoteError (Option Observed) → Prop
  | probeFailed (e : RemoteError) : Reads name [replied (.probe name) (.error e)] (.error e)
  | absent : Reads name [replied (.probe name) (.ok false)] (.ok none)
  /-- The resource is gone between the two calls. -/
  | vanished :
    Reads name [replied (.probe name) (.ok true), replied (.fetch name) (.error .notFound)]
      (.ok none)
  | fetchFailed (e : RemoteError) (he : e ≠ .notFound) :
    Reads name [replied (.probe name) (.ok true), replied (.fetch name) (.error e)] (.error e)
  | found (o : Observed) :
    Reads name [replied (.probe name) (.ok true), replied (.fetch name) (.ok o)] (.ok (some o))

theorem reads_of_ends {name : String} {t : Transcript}
    {r : Except RemoteError (Option Observed)} (h : Ends (observe name) t r) :
    Reads name t r := by
  obtain ⟨probed, rest, rfl, hprobed⟩ := ends_call_bind_iff.mp h
  cases probed with
  | error e =>
    obtain ⟨rfl, rfl⟩ := ends_done_iff.mp hprobed
    exact .probeFailed e
  | ok isThere =>
    cases isThere with
    | false =>
      obtain ⟨rfl, rfl⟩ := ends_done_iff.mp hprobed
      exact .absent
    | true =>
      obtain ⟨fetched, rest, rfl, hfetched⟩ := ends_call_bind_iff.mp hprobed
      cases fetched with
      | ok o =>
        obtain ⟨rfl, rfl⟩ := ends_done_iff.mp hfetched
        exact .found o
      | error e =>
        by_cases he : e = .notFound
        · subst he
          obtain ⟨rfl, rfl⟩ := ends_done_iff.mp hfetched
          exact .vanished
        · -- the pass splits on the error, so it has to be named before the pass goes on
          have hdone : Ends (.done (.error e) : Task (Except RemoteError (Option Observed)))
              rest r := by
            cases e with
            | notFound => exact absurd rfl he
            | _ => exact hfetched
          obtain ⟨rfl, rfl⟩ := ends_done_iff.mp hdone
          exact .fetchFailed e he

theorem Reads.ends {name : String} {t : Transcript}
    {r : Except RemoteError (Option Observed)} (h : Reads name t r) : Ends (observe name) t r := by
  refine ends_call_bind_iff.mpr ?_
  cases h with
  | probeFailed e => exact ⟨.error e, [], rfl, .done _⟩
  | absent => exact ⟨.ok false, [], rfl, .done _⟩
  | vanished =>
    exact ⟨.ok true, _, rfl, ends_call_bind_iff.mpr ⟨.error .notFound, [], rfl, .done _⟩⟩
  | found o => exact ⟨.ok true, _, rfl, ends_call_bind_iff.mpr ⟨.ok o, [], rfl, .done _⟩⟩
  | fetchFailed e he =>
    refine ⟨.ok true, _, rfl, ends_call_bind_iff.mpr ⟨.error e, [], rfl, ?_⟩⟩
    cases e with
    | notFound => exact absurd rfl he
    | _ => exact .done _

/-! ## Creating -/

/-- The ways in which a creation goes. -/
inductive Creates (d : Desired) : Transcript → Outcome → Prop
  | malformed (m : Malformed) (hp : d.payload = .error m) :
    Creates d [] (notCreated d (.malformed m))
  | failed (payload : Desired.Payload) (hp : d.payload = .ok payload) (e : RemoteError) :
    Creates d (changed d.kind .create (.create d.name payload) (.error e))
      (notCreated d (.remote e))
  | confirmed (payload : Desired.Payload) (hp : d.payload = .ok payload) :
    Creates d (changed d.kind .create (.create d.name payload) (.ok ())) (created d)

theorem creates_of_ends {d : Desired} {t : Transcript} {o : Outcome} (h : Ends (create d) t o) :
    Creates d t o := by
  rw [create] at h
  cases hp : d.payload with
  | error m =>
    rw [hp] at h
    obtain ⟨rfl, rfl⟩ := ends_done_iff.mp h
    exact .malformed m hp
  | ok payload =>
    rw [hp] at h
    obtain ⟨r, rest, rfl, hrest⟩ := ends_mutate_bind_iff.mp h
    cases r with
    | error e =>
      obtain ⟨rfl, rfl⟩ := ends_done_iff.mp hrest
      exact .failed payload hp e
    | ok _ =>
      obtain ⟨rfl, rfl⟩ := ends_done_iff.mp hrest
      exact .confirmed payload hp

theorem Creates.ends {d : Desired} {t : Transcript} {o : Outcome} (h : Creates d t o) :
    Ends (create d) t o := by
  rw [create]
  cases h with
  | malformed m hp =>
    rw [hp]
    exact .done _
  | failed payload hp e =>
    rw [hp]
    exact ends_mutate_bind_iff.mpr ⟨.error e, [], rfl, .done _⟩
  | confirmed payload hp =>
    rw [hp]
    exact ends_mutate_bind_iff.mpr ⟨.ok (), [], rfl, .done _⟩

/-! ## Updating -/

/-- The ways in which a schema is sent. -/
inductive SendsSchema (d : Desired) (previous : Status) (schema : Json) :
    Transcript → Outcome → Prop
  | failed (e : RemoteError) :
    SendsSchema d previous schema
      (changed d.kind .updateSchema (.updateSchema d.name schema) (.error e))
      (rejected d previous (.remote e))
  | confirmed :
    SendsSchema d previous schema
      (changed d.kind .updateSchema (.updateSchema d.name schema) (.ok ())) (updated d)

theorem sendsSchema_of_ends {d : Desired} {previous : Status} {schema : Json} {t : Transcript}
    {o : Outcome} (h : Ends (sendSchema d previous schema) t o) :
    SendsSchema d previous schema t o := by
  obtain ⟨r, rest, rfl, hrest⟩ := ends_mutate_bind_iff.mp h
  cases r with
  | error e =>
    obtain ⟨rfl, rfl⟩ := ends_done_iff.mp hrest
    exact .failed e
  | ok _ =>
    obtain ⟨rfl, rfl⟩ := ends_done_iff.mp hrest
    exact .confirmed

theorem SendsSchema.ends {d : Desired} {previous : Status} {schema : Json} {t : Transcript}
    {o : Outcome} (h : SendsSchema d previous schema t o) :
    Ends (sendSchema d previous schema) t o := by
  refine ends_mutate_bind_iff.mpr ?_
  cases h with
  | failed e => exact ⟨.error e, [], rfl, .done _⟩
  | confirmed => exact ⟨.ok (), [], rfl, .done _⟩

/-- The ways in which a plan is carried out. -/
inductive Executes (d : Desired) (previous : Status) : Plan → Transcript → Outcome → Prop
  /-- Counted although nothing is sent. -/
  | replaceMalformed (m : Malformed) (hp : d.payload = .error m) :
    Executes d previous .replace [counted (.mutations d.kind .create)]
      (rejected d previous (.malformed m))
  | replaceFailed (payload : Desired.Payload) (hp : d.payload = .ok payload) (e : RemoteError) :
    Executes d previous .replace
      (changed d.kind .create (.create d.name payload) (.error e)) (rejected d previous (.remote e))
  | replaced (payload : Desired.Payload) (hp : d.payload = .ok payload) :
    Executes d previous .replace (changed d.kind .create (.create d.name payload) (.ok ()))
      (updated d)
  | idle : Executes d previous (.send none none) [] (unchanged d previous)
  | schemaOnly (schema : Json) {t : Transcript} {o : Outcome}
    (hrest : SendsSchema d previous schema t o) : Executes d previous (.send none (some schema)) t o
  | settingsFailed (settings : Tree) (schema : Option Json) (e : RemoteError) :
    Executes d previous (.send (some settings) schema)
      (changed d.kind .updateSettings (.updateSettings d.name settings) (.error e))
      (rejected d previous (.remote e))
  | settingsOnly (settings : Tree) :
    Executes d previous (.send (some settings) none)
      (changed d.kind .updateSettings (.updateSettings d.name settings) (.ok ())) (updated d)
  | both (settings : Tree) (schema : Json) {t : Transcript} {o : Outcome}
    (hrest : SendsSchema d previous schema t o) :
    Executes d previous (.send (some settings) (some schema))
      (changed d.kind .updateSettings (.updateSettings d.name settings) (.ok ()) ++ t) o

theorem executes_replace_of_ends {d : Desired} {previous : Status} {t : Transcript} {o : Outcome}
    (h : Ends (replace d previous) t o) : Executes d previous .replace t o := by
  obtain ⟨rest, rfl, hrest⟩ := ends_count_bind_iff.mp h
  cases hp : d.payload with
  | error m =>
    rw [hp] at hrest
    obtain ⟨rfl, rfl⟩ := ends_done_iff.mp hrest
    exact .replaceMalformed m hp
  | ok payload =>
    rw [hp] at hrest
    obtain ⟨r, rest, rfl, hlast⟩ := ends_call_bind_iff.mp hrest
    cases r with
    | error e =>
      obtain ⟨rfl, rfl⟩ := ends_done_iff.mp hlast
      exact .replaceFailed payload hp e
    | ok _ =>
      obtain ⟨rfl, rfl⟩ := ends_done_iff.mp hlast
      exact .replaced payload hp

theorem executes_sendSettings_of_ends {d : Desired} {previous : Status} {settings : Tree}
    {schema : Option Json} {t : Transcript} {o : Outcome}
    (h : Ends (sendSettings d previous settings schema) t o) :
    Executes d previous (.send (some settings) schema) t o := by
  obtain ⟨r, rest, rfl, hrest⟩ := ends_mutate_bind_iff.mp h
  cases r with
  | error e =>
    obtain ⟨rfl, rfl⟩ := ends_done_iff.mp hrest
    exact .settingsFailed settings schema e
  | ok _ =>
    cases schema with
    | none =>
      obtain ⟨rfl, rfl⟩ := ends_done_iff.mp hrest
      exact .settingsOnly settings
    | some schema => exact .both settings schema (sendsSchema_of_ends hrest)

theorem executes_of_ends {d : Desired} {previous : Status} {p : Plan} {t : Transcript}
    {o : Outcome} (h : Ends (execute d previous p) t o) : Executes d previous p t o := by
  cases p with
  | replace => exact executes_replace_of_ends h
  | send settings schema =>
    cases settings with
    | some settings => exact executes_sendSettings_of_ends h
    | none =>
      cases schema with
      | some schema => exact .schemaOnly schema (sendsSchema_of_ends h)
      | none =>
        obtain ⟨rfl, rfl⟩ := ends_done_iff.mp h
        exact .idle

theorem Executes.ends {d : Desired} {previous : Status} {p : Plan} {t : Transcript}
    {o : Outcome} (h : Executes d previous p t o) : Ends (execute d previous p) t o := by
  cases h with
  | replaceMalformed m hp =>
    refine ends_count_bind_iff.mpr ⟨[], rfl, ?_⟩
    rw [hp]
    exact .done _
  | replaceFailed payload hp e =>
    refine ends_count_bind_iff.mpr ⟨_, rfl, ?_⟩
    rw [hp]
    exact ends_call_bind_iff.mpr ⟨.error e, [], rfl, .done _⟩
  | replaced payload hp =>
    refine ends_count_bind_iff.mpr ⟨_, rfl, ?_⟩
    rw [hp]
    exact ends_call_bind_iff.mpr ⟨.ok (), [], rfl, .done _⟩
  | idle => exact .done _
  | schemaOnly schema hrest => exact hrest.ends
  | settingsFailed settings schema e =>
    exact ends_mutate_bind_iff.mpr ⟨.error e, [], rfl, .done _⟩
  | settingsOnly settings => exact ends_mutate_bind_iff.mpr ⟨.ok (), [], rfl, .done _⟩
  | both settings schema hrest => exact ends_mutate_bind_iff.mpr ⟨.ok (), _, rfl, hrest.ends⟩

/-- The ways in which a pass goes on with a resource that was found. -/
inductive Converges (d : Desired) (previous : Status) (observed : Observed) :
    Transcript → Outcome → Prop
  | notOwned (hschema : observed.ownedSchema? = none) :
    Converges d previous observed [] (rejected d previous (.notOwned d.name))
  | adopted (schema : Json) (hschema : observed.ownedSchema? = some schema)
    (hprevious : previous.isUnacknowledgedCreate = true) :
    Converges d previous observed [] (adopted d)
  | refused (schema : Json) (hschema : observed.ownedSchema? = some schema)
    (hprevious : previous.isUnacknowledgedCreate = false) (f : Fault)
    (hplan : plan d observed schema = .error f) :
    Converges d previous observed [] (rejected d previous f)
  | executed (schema : Json) (hschema : observed.ownedSchema? = some schema)
    (hprevious : previous.isUnacknowledgedCreate = false) (p : Plan)
    (hplan : plan d observed schema = .ok p) {t : Transcript} {o : Outcome}
    (h : Executes d previous p t o) : Converges d previous observed t o

theorem converges_of_ends {d : Desired} {previous : Status} {observed : Observed}
    {t : Transcript} {o : Outcome} (h : Ends (converge d previous observed) t o) :
    Converges d previous observed t o := by
  rw [converge] at h
  cases hschema : observed.ownedSchema? with
  | none =>
    rw [hschema] at h
    obtain ⟨rfl, rfl⟩ := ends_done_iff.mp h
    exact .notOwned hschema
  | some schema =>
    rw [hschema] at h
    -- a creation that was never confirmed is taken over before anything is compared
    cases hprevious : previous.isUnacknowledgedCreate with
    | true =>
      simp only [hprevious] at h
      obtain ⟨rfl, rfl⟩ := ends_done_iff.mp h
      exact .adopted schema hschema hprevious
    | false =>
      simp only [hprevious] at h
      cases hplan : plan d observed schema with
      | error f =>
        rw [hplan] at h
        obtain ⟨rfl, rfl⟩ := ends_done_iff.mp h
        exact .refused schema hschema hprevious f hplan
      | ok p =>
        rw [hplan] at h
        exact .executed schema hschema hprevious p hplan (executes_of_ends h)

theorem Converges.ends {d : Desired} {previous : Status} {observed : Observed}
    {t : Transcript} {o : Outcome} (h : Converges d previous observed t o) :
    Ends (converge d previous observed) t o := by
  rw [converge]
  cases h with
  | notOwned hschema =>
    rw [hschema]
    exact .done _
  | adopted schema hschema hprevious =>
    simp only [hschema, hprevious]
    exact .done _
  | refused schema hschema hprevious f hplan =>
    simp only [hschema, hprevious, hplan]
    exact .done _
  | executed schema hschema hprevious p hplan hexec =>
    simp only [hschema, hprevious, hplan]
    exact hexec.ends

/-! ## The whole pass -/

/-- The ways in which a pass goes. -/
inductive Course (d : Desired) (previous : Status) : Transcript → Except Fault Outcome → Prop
  | unread {seen : Transcript} (e : RemoteError) (hread : Reads d.name seen (.error e)) :
    Course d previous seen (.error (.remote e))
  | creates {seen rest : Transcript} {o : Outcome} (hread : Reads d.name seen (.ok none))
    (h : Creates d rest o) : Course d previous (seen ++ rest) (.ok o)
  | converges {seen rest : Transcript} {o : Outcome} (observed : Observed)
    (hread : Reads d.name seen (.ok (some observed))) (h : Converges d previous observed rest o) :
    Course d previous (seen ++ rest) (.ok o)

/-- There is no other way. -/
theorem course_of_ends {d : Desired} {previous : Status} {t : Transcript}
    {r : Except Fault Outcome} (h : Ends (reconcile d previous) t r) : Course d previous t r := by
  -- the reading comes first, and what it found decides how the pass goes on
  obtain ⟨seen, found, rest, rfl, hseen, h⟩ := ends_bind_iff.mp h
  have hread := reads_of_ends hseen
  cases found with
  | error e =>
    obtain ⟨rfl, rfl⟩ := ends_done_iff.mp h
    rw [List.append_nil]
    exact .unread e hread
  | ok found =>
    cases found with
    | none =>
      obtain ⟨created, o, last, rfl, hcreated, hlast⟩ := ends_bind_iff.mp h
      obtain ⟨rfl, rfl⟩ := ends_done_iff.mp hlast
      rw [List.append_nil]
      exact .creates hread (creates_of_ends hcreated)
    | some observed =>
      obtain ⟨converged, o, last, rfl, hconverged, hlast⟩ := ends_bind_iff.mp h
      obtain ⟨rfl, rfl⟩ := ends_done_iff.mp hlast
      rw [List.append_nil]
      exact .converges observed hread (converges_of_ends hconverged)

/-- Each of them can happen. -/
theorem Course.ends {d : Desired} {previous : Status} {t : Transcript}
    {r : Except Fault Outcome} (h : Course d previous t r) : Ends (reconcile d previous) t r := by
  refine ends_bind_iff.mpr ?_
  cases h with
  | unread e hread => exact ⟨t, _, [], (List.append_nil t).symm, hread.ends, .done _⟩
  | @creates seen rest o hread hcreate =>
    refine ⟨seen, _, rest, rfl, hread.ends, ends_bind_iff.mpr ?_⟩
    exact ⟨rest, o, [], (List.append_nil rest).symm, hcreate.ends, .done _⟩
  | @converges seen rest o observed hread hconv =>
    refine ⟨seen, _, rest, rfl, hread.ends, ends_bind_iff.mpr ?_⟩
    exact ⟨rest, o, [], (List.append_nil rest).symm, hconv.ends, .done _⟩

end IndexKeeper.Pass
