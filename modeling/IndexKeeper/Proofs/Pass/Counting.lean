import IndexKeeper.Proofs.Pass.Confirmation
import IndexKeeper.Proofs.Pass.Permission

/-!
# What the counters count

Every change is counted under its kind and operation before it is asked for, so in every run the
counters tell how often each change was asked for, with one exception.  A template whose definition
has drifted is counted as a creation before its payload is made; if the schema takes no marker there
is no payload, and the creation is counted although nothing is sent.  `mutations_counted` is exact:
the counter of an operation is the number of its calls and, for the creations of templates, the
number of such replacements.
-/

namespace IndexKeeper

/-- The operation that a call is counted as. -/
def Call.mutation? : Call → Option Mutation
  | .probe _ | .fetch _ => none
  | .create _ _ => some .create
  | .updateSettings _ _ => some .updateSettings
  | .updateSchema _ _ => some .updateSchema
  | .delete _ => some .delete

namespace Pass

open Program

variable {d : Desired} {previous : Status} {observed : Observed} {t : Transcript} {o : Outcome}

/-! ## Counts and calls of a transcript -/

/-- How often an operation on a kind was counted. -/
def counts (kind : Kind) (operation : Mutation) (t : Transcript) : Nat :=
  (metricsOf (t.map Exchange.question)).count (.mutations kind operation)

/-- How often an operation was asked for. -/
def calls (operation : Mutation) (t : Transcript) : Nat :=
  (callsOf (t.map Exchange.question)).countP fun c => c.mutation? == some operation

theorem counts_append (kind : Kind) (operation : Mutation) (t u : Transcript) :
    counts kind operation (t ++ u) = counts kind operation t + counts kind operation u := by
  simp [counts, metricsOf, List.filterMap_append]

theorem calls_append (operation : Mutation) (t u : Transcript) :
    calls operation (t ++ u) = calls operation t + calls operation u := by
  simp [calls, callsOf, List.filterMap_append]

/-- Under its kind every operation was counted as often as it was asked for, and creations so many
times more; under the other kind nothing was counted. -/
def Counted (kind : Kind) (unsent : Nat) (t : Transcript) : Prop :=
  ∀ kind' operation, counts kind' operation t =
    if kind' = kind then calls operation t + if operation = .create then unsent else 0 else 0

theorem Counted.append {kind : Kind} {m n : Nat} {u : Transcript} (ht : Counted kind m t)
    (hu : Counted kind n u) : Counted kind (m + n) (t ++ u) := by
  intro kind' operation
  rw [counts_append, calls_append, ht, hu]
  by_cases hkind : kind' = kind
  · by_cases hoperation : operation = .create
    · simp only [hkind, hoperation, if_true]
      omega
    · simp [hkind, hoperation]
  · simp [hkind]

/-- What counts nothing and changes nothing. -/
theorem counted_of_calls {kind : Kind} (hmetrics : metricsOf (t.map Exchange.question) = [])
    (hcalls : ∀ c ∈ callsOf (t.map Exchange.question), c.mutation? = none) :
    Counted kind 0 t := by
  intro kind' operation
  have hnone : calls operation t = 0 := by
    rw [calls, List.countP_eq_zero]
    intro c hc
    simp [hcalls c hc]
  rw [counts, hmetrics, hnone]
  simp

/-- A change is counted as what it is. -/
theorem counted_changed {c : Call} {operation : Mutation} (h : c.mutation? = some operation)
    (kind : Kind) (r : c.Answer) : Counted kind 0 (changed kind operation c r) := by
  intro kind' operation'
  have hcount : counts kind' operation' (changed kind operation c r) =
      if kind = kind' ∧ operation = operation' then 1 else 0 := by
    simp [counts, metricsOf, changed, counted, replied, List.count_singleton]
  have hcall : calls operation' (changed kind operation c r) =
      if operation = operation' then 1 else 0 := by
    simp [calls, callsOf, changed, counted, replied, List.countP_singleton, h]
  rw [hcount, hcall]
  by_cases hkind : kind' = kind
  · simp [hkind]
  · simp [hkind, Ne.symm hkind]

/-- A creation that is counted and not asked for. -/
theorem counted_unsent (kind : Kind) : Counted kind 1 [counted (.mutations kind .create)] := by
  intro kind' operation
  have hcall : calls operation [counted (.mutations kind .create)] = 0 := rfl
  have hcount : counts kind' operation [counted (.mutations kind .create)] =
      if kind = kind' ∧ .create = operation then 1 else 0 := by
    simp [counts, metricsOf, counted, List.count_singleton]
  rw [hcall, hcount]
  by_cases hkind : kind' = kind
  · simp [hkind, eq_comm]
  · simp [hkind, Ne.symm hkind]

/-! ## Passes -/

theorem counted_of_reads {name : String} {r : Except RemoteError (Option Observed)}
    (h : Reads name t r) (kind : Kind) : Counted kind 0 t := by
  cases h <;> exact counted_of_calls rfl (by simp [callsOf, replied, Call.mutation?])

theorem counted_of_creates (h : Creates d t o) : Counted d.kind 0 t := by
  cases h with
  | malformed m hp => exact counted_of_calls rfl (by simp [callsOf])
  | failed payload hp e => exact counted_changed rfl d.kind _
  | confirmed payload hp => exact counted_changed rfl d.kind _

theorem counted_of_sendsSchema {schema : Json} (h : SendsSchema d previous schema t o) :
    Counted d.kind 0 t := by
  cases h with
  | failed e => exact counted_changed rfl d.kind _
  | confirmed => exact counted_changed rfl d.kind _

/-- How many creations a plan counts that it does not ask for. -/
def unsentBy (d : Desired) : Plan → Nat
  | .replace => if d.payload.isOk then 0 else 1
  | .send _ _ => 0

theorem counted_of_executes {p : Plan} (h : Executes d previous p t o) :
    Counted d.kind (unsentBy d p) t := by
  cases h with
  | replaceMalformed m hp =>
    rw [unsentBy, hp]
    exact counted_unsent d.kind
  | replaceFailed payload hp e =>
    rw [unsentBy, hp]
    exact counted_changed rfl d.kind _
  | replaced payload hp =>
    rw [unsentBy, hp]
    exact counted_changed rfl d.kind _
  | idle => exact counted_of_calls rfl (by simp [callsOf])
  | schemaOnly schema hsend => exact counted_of_sendsSchema hsend
  | settingsFailed settings schema e => exact counted_changed rfl d.kind _
  | settingsOnly settings => exact counted_changed rfl d.kind _
  | both settings schema hsend =>
    exact (counted_changed rfl d.kind _).append (counted_of_sendsSchema hsend)

/-- Whether a pass for a declaration without a payload is to replace the resource that it found. -/
def unsendable (d : Desired) (previous : Status) (observed : Observed) : Bool :=
  observed.ownedSchema?.isSome && !previous.isUnacknowledgedCreate &&
    definitionDrifted d observed && !d.payload.isOk

/-- Only a drifted definition is replaced. -/
theorem unsentBy_of_plan {schema : Json} {p : Plan} (howned : observed.ownedSchema? = some schema)
    (hprevious : previous.isUnacknowledgedCreate = false) (hplan : plan d observed schema = .ok p) :
    unsentBy d p = (unsendable d previous observed).toNat := by
  rw [unsendable, howned, hprevious]
  cases hdrift : definitionDrifted d observed with
  | true =>
    rw [plan_of_drifted hdrift] at hplan
    cases hplan
    rw [unsentBy]
    cases d.payload.isOk <;> rfl
  | false =>
    cases p with
    | replace =>
      have hdrifted := (justified_of_plan howned hplan).replace rfl
      rw [hdrift] at hdrifted
      cases hdrifted
    | send settings schema => rfl

theorem counted_of_converges (h : Converges d previous observed t o) :
    Counted d.kind (unsendable d previous observed).toNat t := by
  cases h with
  | notOwned hschema =>
    rw [unsendable, hschema]
    exact counted_of_calls rfl (by simp [callsOf])
  | adopted schema hschema hprevious =>
    rw [unsendable, hschema, hprevious]
    exact counted_of_calls rfl (by simp [callsOf])
  | refused schema hschema hprevious f hplan =>
    have hdrift : definitionDrifted d observed = false := by
      cases hdrift : definitionDrifted d observed with
      | false => rfl
      | true =>
        rw [plan_of_drifted hdrift] at hplan
        cases hplan
    rw [unsendable, hdrift, Bool.and_false, Bool.false_and]
    exact counted_of_calls rfl (by simp [callsOf])
  | executed schema hschema hprevious p hplan hexec =>
    rw [← unsentBy_of_plan hschema hprevious hplan]
    exact counted_of_executes hexec

/-- The resource that was fetched, if one was. -/
def fetched? (t : Transcript) : Option Observed :=
  t.findSome? fun
    | ⟨.remote (.fetch _), .ok observed⟩ => some observed
    | _ => none

theorem fetched?_of_reads {name : String} {r : Except RemoteError (Option Observed)}
    (h : Reads name t r) : fetched? t = r.toOption.join := by
  cases h <;> rfl

theorem fetched?_append (t u : Transcript) :
    fetched? (t ++ u) = (fetched? t).or (fetched? u) := by
  rw [fetched?, fetched?, fetched?, List.findSome?_append]

/-- Whether a pass counted a creation that it did not ask for: it was to replace what it fetched and
there is no payload. -/
def unsent (d : Desired) (previous : Status) (t : Transcript) : Bool :=
  (fetched? t).any (unsendable d previous)

theorem counted_of_course {r : Except Fault Outcome} (h : Course d previous t r) :
    Counted d.kind (unsent d previous t).toNat t := by
  cases h with
  | unread e hread =>
    rw [unsent, fetched?_of_reads hread]
    exact counted_of_reads hread d.kind
  | @creates seen rest o hread hcreate =>
    have hnothing : fetched? rest = none := by cases hcreate <;> rfl
    rw [unsent, fetched?_append, fetched?_of_reads hread, hnothing]
    exact (counted_of_reads hread d.kind).append (counted_of_creates hcreate)
  | converges observed hread hconv =>
    rw [unsent, fetched?_append, fetched?_of_reads hread]
    have hboth := (counted_of_reads hread d.kind).append (counted_of_converges hconv)
    rw [Nat.zero_add] at hboth
    exact hboth

/-- No declaration of an index is replaced. -/
theorem unsent_of_index (hkind : d.kind = .index) (previous : Status) (t : Transcript) :
    unsent d previous t = false := by
  rw [unsent]
  cases hfetched : fetched? t with
  | none => rfl
  | some observed =>
    cases hdrift : definitionDrifted d observed with
    | false => simp [unsendable, hdrift]
    | true =>
      rw [kind_of_drifted hdrift] at hkind
      cases hkind

/-! ## Clean-ups -/

theorem counted_of_deletes {target : DeletionTarget} {r : Except Fault String}
    (h : Deletes target observed t r) : Counted target.kind 0 t := by
  cases h with
  | notOwned hschema => exact counted_of_calls rfl (by simp [callsOf])
  | failed schema hschema e => exact counted_changed rfl target.kind _
  | confirmed schema hschema => exact counted_changed rfl target.kind _

theorem counted_of_drops {target : DeletionTarget} {r : Except Fault String}
    (h : Drops target previous t r) : Counted target.kind 0 t := by
  cases h with
  | found hdrop hprevious names hnames observed hdel =>
    have hreading : Counted target.kind 0
        [listed (.ok names), replied (.fetch target.name) (.ok observed)] :=
      counted_of_calls rfl (by simp [callsOf, listed, replied, Call.mutation?])
    exact hreading.append (counted_of_deletes hdel)
  | _ => exact counted_of_calls rfl (by simp [callsOf, listed, replied, Call.mutation?])

/-! ## Runs -/

namespace Event

/-- The kind of the resource that an event is about. -/
def kind : Event → Kind
  | pass d _ _ => d.kind
  | cleanup t _ _ => t.kind

/-- What an event asked, with the answers. -/
def asked : Event → Transcript
  | pass _ asked _ => asked
  | cleanup _ asked _ => asked

/-- Whether an event counted a creation that it did not ask for. -/
def unsent (previous : Status) : Event → Bool
  | pass d asked _ => Pass.unsent d previous asked
  | cleanup _ _ _ => false

theorem Possible.counted {e : Event} (h : e.Possible previous) :
    Counted e.kind (e.unsent previous).toNat e.asked := by
  cases e with
  | pass d asked r => exact counted_of_course (course_of_ends h)
  | cleanup target asked o =>
    obtain ⟨r, hdrops, _⟩ := drops_of_finalize h
    exact counted_of_drops hdrops

end Event

/-- Passes and clean-ups, each with the status that it was given. -/
abbrev Sequence := List (Status × Event)

namespace Sequence

/-- The events about a kind. -/
def about (kind : Kind) (run : Sequence) : Sequence := run.filter fun x => x.2.kind == kind

/-- All that was asked, with the answers. -/
def asked (run : Sequence) : Transcript := run.flatMap fun x => x.2.asked

/-- What a counter went up by. -/
def counts (kind : Kind) (operation : Mutation) (run : Sequence) : Nat :=
  Pass.counts kind operation run.asked

/-- How often an operation on a kind was asked for. -/
def calls (kind : Kind) (operation : Mutation) (run : Sequence) : Nat :=
  Pass.calls operation (run.about kind).asked

/-- How many creations of a kind were counted and not asked for. -/
def unsent (kind : Kind) (run : Sequence) : Nat :=
  (run.about kind).countP fun x => x.2.unsent x.1

theorem counts_cons (x : Status × Event) (rest : Sequence) (kind : Kind) (operation : Mutation) :
    counts kind operation (x :: rest) =
      Pass.counts kind operation x.2.asked + rest.counts kind operation := by
  rw [counts, asked, List.flatMap_cons, counts_append]
  rfl

theorem about_cons_self (x : Status × Event) (rest : Sequence) :
    about x.2.kind (x :: rest) = x :: rest.about x.2.kind := by
  simp [about]

/-- What is about another kind is left out. -/
theorem about_cons_of_ne {x : Status × Event} {kind : Kind} (h : x.2.kind ≠ kind)
    (rest : Sequence) : about kind (x :: rest) = rest.about kind :=
  List.filter_cons_of_neg (by simpa using h)

theorem calls_cons_self (x : Status × Event) (rest : Sequence) (operation : Mutation) :
    calls x.2.kind operation (x :: rest) =
      Pass.calls operation x.2.asked + rest.calls x.2.kind operation := by
  rw [calls, about_cons_self, asked, List.flatMap_cons, calls_append]
  rfl

theorem unsent_cons_self (x : Status × Event) (rest : Sequence) :
    unsent x.2.kind (x :: rest) = (x.2.unsent x.1).toNat + rest.unsent x.2.kind := by
  rw [unsent, about_cons_self, List.countP_cons, Nat.add_comm, unsent]
  cases x.2.unsent x.1 <;> rfl

theorem counts_eq {run : Sequence} (h : ∀ x ∈ run, x.2.Possible x.1) (kind : Kind)
    (operation : Mutation) :
    run.counts kind operation =
      run.calls kind operation + if operation = .create then run.unsent kind else 0 := by
  induction run with
  | nil => cases operation <;> rfl
  | cons x rest ih =>
    have hx := (h x List.mem_cons_self).counted kind operation
    have hrest := ih fun y hy => h y (List.mem_cons_of_mem x hy)
    rw [counts_cons, hx, hrest]
    by_cases hkind : kind = x.2.kind
    · subst hkind
      rw [calls_cons_self, unsent_cons_self, if_pos rfl]
      split <;> omega
    · rw [if_neg hkind, calls, calls, unsent, unsent, about_cons_of_ne (Ne.symm hkind),
        Nat.zero_add]

theorem unsent_index (run : Sequence) : run.unsent .index = 0 := by
  rw [unsent, List.countP_eq_zero]
  rintro ⟨previous, e⟩ hx
  have hkind : e.kind = .index := beq_iff_eq.mp (List.mem_filter.mp hx).2
  cases e with
  | pass d asked r => simp [Event.unsent, unsent_of_index hkind previous asked]
  | cleanup target asked o => exact Bool.false_ne_true

end Sequence

/-- In every run the counter of an operation goes up by the number of its calls, and that of the
creations of templates also by the number of templates that were to be replaced by a declaration
without a payload. -/
theorem mutations_counted {run : Sequence} (h : ∀ x ∈ run, x.2.Possible x.1) (kind : Kind)
    (operation : Mutation) :
    run.counts kind operation =
        run.calls kind operation + (if operation = .create then run.unsent kind else 0) ∧
      (kind = .index ∨ operation ≠ .create →
        run.counts kind operation = run.calls kind operation) := by
  have hcounts := Sequence.counts_eq h kind operation
  refine ⟨hcounts, ?_⟩
  rintro (rfl | hoperation)
  · rw [hcounts, Sequence.unsent_index, ite_self, Nat.add_zero]
  · rw [hcounts, if_neg hoperation, Nat.add_zero]

theorem mutations_counted_logs :
    (∀ x ∈ ([({}, bareCreation "logs")] : Sequence), x.2.Possible x.1) ∧
      Sequence.calls .index .create [({}, bareCreation "logs")] = 1 ∧
      Sequence.counts .index .create [({}, bareCreation "logs")] = 1 := by
  have hpossible : ∀ x ∈ ([({}, bareCreation "logs")] : Sequence), x.2.Possible x.1 := by
    intro x hx
    cases List.mem_singleton.mp hx
    exact ends_reconcile_created rfl {}
  have hcalls : Sequence.calls .index .create [({}, bareCreation "logs")] = 1 := rfl
  refine ⟨hpossible, hcalls, ?_⟩
  rw [(mutations_counted hpossible .index .create).2 (Or.inl rfl), hcalls]

/-- A template whose schema takes no marker. -/
def unmarkedTemplate : Desired where
  name := "logs"
  dropOnDelete := false
  settings := .empty
  schema := .obj [(Ownership.metaField, .null)]
  template := some { indexPatterns := ["logs-*"] }

/-- The owned template that it is to replace. -/
def driftedTemplate : Observed := ⟨.empty, some bareSchema, some {}⟩

/-- A pass counts a creation although it asks for none. -/
theorem creation_counted_unsent :
    ∃ asked r, Ends (reconcile unmarkedTemplate {}) asked r ∧
      counts .template .create asked = 1 ∧ calls .create asked = 0 := by
  have howned : driftedTemplate.ownedSchema? = some bareSchema := ownedSchema?_bare
  have hdrift : definitionDrifted unmarkedTemplate driftedTemplate = true := by decide
  exact ⟨_, _, (Course.converges driftedTemplate (.found _)
    (.executed bareSchema howned rfl .replace (plan_of_drifted hdrift _)
      (.replaceMalformed .ownerField rfl))).ends, rfl, rfl⟩

end Pass

end IndexKeeper
