import IndexKeeper.Cluster
import IndexKeeper.Proofs.Pass.Course
import IndexKeeper.Proofs.Pass.Plan

/-!
# What a pass may change

A pass reads first and changes afterwards, and what it may change depends on what it has read:
`Permitted` lists the cases.  There is no deletion among them, and every case about a resource that
was found asks for the marker.
-/

namespace IndexKeeper.Pass

open Program

/-- Whether an exchange is about a call that may change the cluster. -/
def isChange : Exchange Effect Effect.Answer → Bool
  | ⟨.remote c, _⟩ => c.isMutation
  | _ => false

/-- The exchanges of a transcript that may change the cluster, in order. -/
def changesOf (t : Transcript) : Transcript := t.filter isChange

@[simp] theorem changesOf_nil : changesOf [] = [] := rfl

@[simp] theorem changesOf_append (t u : Transcript) :
    changesOf (t ++ u) = changesOf t ++ changesOf u :=
  List.filter_append t u

theorem changesOf_changed {c : Call} (h : c.isMutation = true) (kind : Kind)
    (operation : Mutation) (r : c.Answer) :
    changesOf (changed kind operation c r) = [replied c r] := by
  simp [changesOf, changed, counted, replied, isChange, h]

/-- The calls that a pass made and that may change the cluster are among its changes. -/
theorem mem_changesOf_of_mem_callsOf {t : Transcript} {call : Call}
    (h : call ∈ callsOf (t.map Exchange.question)) (hmutation : call.isMutation = true) :
    ∃ x ∈ changesOf t, x.question = .remote call := by
  obtain ⟨q, hq, heq⟩ := List.mem_filterMap.mp h
  obtain ⟨x, hx, rfl⟩ := List.mem_map.mp hq
  obtain ⟨q, r⟩ := x
  cases q with
  | remote c =>
    cases heq
    exact ⟨_, List.mem_filter.mpr ⟨hx, hmutation⟩, rfl⟩
  | siblings => cases heq
  | count m => cases heq

/-- Without changes no call that was made may change the cluster. -/
theorem isMutation_of_changesOf {t : Transcript} (h : changesOf t = []) :
    ∀ call ∈ callsOf (t.map Exchange.question), call.isMutation = false := by
  intro call hcall
  cases hmutation : call.isMutation with
  | false => rfl
  | true =>
    obtain ⟨x, hx, _⟩ := mem_changesOf_of_mem_callsOf hcall hmutation
    rw [h] at hx
    cases hx

/-- Reading changes nothing. -/
theorem Reads.changesOf {name : String} {t : Transcript}
    {r : Except RemoteError (Option Observed)} (h : Reads name t r) : changesOf t = [] := by
  cases h <;> rfl

/-! ## Permission -/

/-- The changes that a pass may ask for after what it has seen. -/
inductive Permitted (d : Desired) (seen : Transcript) : Transcript → Prop
  | nothing : Permitted d seen []
  /-- There is no such resource. -/
  | createAbsent (hseen : replied (.probe d.name) (.ok false) ∈ seen)
    (payload : Desired.Payload) (hp : d.payload = .ok payload) (r : Except RemoteError Unit) :
    Permitted d seen [replied (.create d.name payload) r]
  /-- There is one, but it can not be fetched any more. -/
  | createVanished (hseen : replied (.fetch d.name) (.error .notFound) ∈ seen)
    (payload : Desired.Payload) (hp : d.payload = .ok payload) (r : Except RemoteError Unit) :
    Permitted d seen [replied (.create d.name payload) r]
  /-- There is an owned template with another definition. -/
  | replace (o : Observed) (hseen : replied (.fetch d.name) (.ok o) ∈ seen)
    (howned : o.ownedSchema?.isSome = true) (hkind : d.kind = .template)
    (hdrift : definitionDrifted d o = true)
    (payload : Desired.Payload) (hp : d.payload = .ok payload) (r : Except RemoteError Unit) :
    Permitted d seen [replied (.create d.name payload) r]
  | settings (o : Observed) (hseen : replied (.fetch d.name) (.ok o) ∈ seen)
    (howned : o.ownedSchema?.isSome = true) (r : Except RemoteError Unit) :
    Permitted d seen [replied (.updateSettings d.name (outgoingSettings d)) r]
  | schema (o : Observed) (hseen : replied (.fetch d.name) (.ok o) ∈ seen)
    (howned : o.ownedSchema?.isSome = true) (marked : Json)
    (hmark : Ownership.mark d.schema = .ok marked) (r : Except RemoteError Unit) :
    Permitted d seen [replied (.updateSchema d.name marked) r]
  /-- The schema goes out only after the settings were confirmed. -/
  | both (o : Observed) (hseen : replied (.fetch d.name) (.ok o) ∈ seen)
    (howned : o.ownedSchema?.isSome = true) (marked : Json)
    (hmark : Ownership.mark d.schema = .ok marked) (r : Except RemoteError Unit) :
    Permitted d seen
      [replied (.updateSettings d.name (outgoingSettings d)) (.ok ()),
        replied (.updateSchema d.name marked) r]

theorem Reads.probed_of_none {name : String} {t : Transcript} (h : Reads name t (.ok none)) :
    replied (.probe name) (.ok false) ∈ t ∨ replied (.fetch name) (.error .notFound) ∈ t := by
  cases h with
  | absent => exact Or.inl List.mem_cons_self
  | vanished => exact Or.inr (List.mem_cons_of_mem _ List.mem_cons_self)

theorem Reads.fetched {name : String} {t : Transcript} {o : Observed}
    (h : Reads name t (.ok (some o))) : replied (.fetch name) (.ok o) ∈ t := by
  cases h with
  | found o => exact List.mem_cons_of_mem _ List.mem_cons_self

theorem kind_of_drifted {d : Desired} {o : Observed} (h : definitionDrifted d o = true) :
    d.kind = .template := by
  cases ht : d.template with
  | none => simp [definitionDrifted, ht] at h
  | some want => simp [Desired.kind, ht]

/-- A creation is permitted after a reading that found nothing. -/
theorem Creates.permitted {d : Desired} {seen t : Transcript} {o : Outcome} (h : Creates d t o)
    (hread : Reads d.name seen (.ok none)) : Permitted d seen (changesOf t) := by
  have hcreate : ∀ payload (r : Except RemoteError Unit), d.payload = .ok payload →
      Permitted d seen (Pass.changesOf (changed d.kind .create (.create d.name payload) r)) := by
    intro payload r hp
    rw [changesOf_changed rfl]
    -- nothing was found for one of two reasons
    rcases hread.probed_of_none with hseen | hseen
    · exact .createAbsent hseen payload hp r
    · exact .createVanished hseen payload hp r
  cases h with
  | malformed m hp => exact .nothing
  | failed payload hp e => exact hcreate payload (.error e) hp
  | confirmed payload hp => exact hcreate payload (.ok ()) hp

theorem SendsSchema.changesOf {d : Desired} {previous : Status} {schema : Json} {t : Transcript}
    {o : Outcome} (h : SendsSchema d previous schema t o) :
    ∃ r : Except RemoteError Unit,
      Pass.changesOf t = [replied (.updateSchema d.name schema) r] := by
  cases h with
  | failed e => exact ⟨.error e, changesOf_changed rfl _ _ _⟩
  | confirmed => exact ⟨.ok (), changesOf_changed rfl _ _ _⟩

/-- Carrying out a plan that is justified by an owned resource is permitted. -/
theorem Executes.permitted {d : Desired} {previous : Status} {p : Plan} {seen t : Transcript}
    {observed : Observed} {o : Outcome} (h : Executes d previous p t o)
    (hseen : replied (.fetch d.name) (.ok observed) ∈ seen)
    (howned : observed.ownedSchema?.isSome = true) (hplan : Justified d observed p) :
    Permitted d seen (changesOf t) := by
  have hcreate : p = .replace → ∀ payload (r : Except RemoteError Unit), d.payload = .ok payload →
      Permitted d seen (Pass.changesOf (changed d.kind .create (.create d.name payload) r)) := by
    intro hp payload r hpayload
    have hdrift := hplan.replace hp
    rw [changesOf_changed rfl]
    exact .replace observed hseen howned (kind_of_drifted hdrift) hdrift payload hpayload r
  cases h with
  | replaceMalformed m hp => exact .nothing
  | replaceFailed payload hp e => exact hcreate rfl payload (.error e) hp
  | replaced payload hp => exact hcreate rfl payload (.ok ()) hp
  | idle => exact .nothing
  | schemaOnly schema hsend =>
    obtain ⟨r, hr⟩ := hsend.changesOf
    rw [hr]
    exact .schema observed hseen howned schema (hplan.schema _ _ rfl) r
  | settingsFailed settings schema e =>
    rw [changesOf_changed rfl, hplan.settings _ _ rfl]
    exact .settings observed hseen howned (.error e)
  | settingsOnly settings =>
    rw [changesOf_changed rfl, hplan.settings _ _ rfl]
    exact .settings observed hseen howned (.ok ())
  | both settings schema hsend =>
    obtain ⟨r, hr⟩ := hsend.changesOf
    rw [changesOf_append, changesOf_changed rfl, hr, hplan.settings _ _ rfl]
    exact .both observed hseen howned schema (hplan.schema _ _ rfl) r

theorem Converges.permitted {d : Desired} {previous : Status} {observed : Observed}
    {seen t : Transcript} {o : Outcome} (h : Converges d previous observed t o)
    (hread : Reads d.name seen (.ok (some observed))) : Permitted d seen (changesOf t) := by
  cases h with
  | notOwned hschema => exact .nothing
  | adopted schema hschema hprevious => exact .nothing
  | refused schema hschema hprevious f hplan => exact .nothing
  | executed schema hschema hprevious p hplan hexec =>
    -- the only case that changes anything, and it starts from an owned schema
    have howned : observed.ownedSchema?.isSome = true := by
      rw [hschema]
      rfl
    exact hexec.permitted hread.fetched howned (justified_of_plan hschema hplan)

/-- A pass reads, and then changes only what it may. -/
theorem Course.permitted {d : Desired} {previous : Status} {t : Transcript}
    {r : Except Fault Outcome} (h : Course d previous t r) :
    ∃ seen rest, t = seen ++ rest ∧ changesOf seen = [] ∧ Permitted d seen (changesOf rest) := by
  cases h with
  | unread e hread => exact ⟨t, [], (List.append_nil t).symm, hread.changesOf, .nothing⟩
  | creates hread hcreate => exact ⟨_, _, rfl, hread.changesOf, hcreate.permitted hread⟩
  | converges observed hread hconv => exact ⟨_, _, rfl, hread.changesOf, hconv.permitted hread⟩

theorem Permitted.not_delete {d : Desired} {seen t : Transcript} (h : Permitted d seen t) :
    ∀ x ∈ t, ∀ name, x.question ≠ .remote (.delete name) := by
  cases h with
  | nothing => simp
  | _ => simp [replied]

/-- No pass deletes. -/
theorem Course.not_delete {d : Desired} {previous : Status} {t : Transcript}
    {r : Except Fault Outcome} (h : Course d previous t r) :
    ∀ x ∈ t, ∀ name, x.question ≠ .remote (.delete name) := by
  obtain ⟨seen, rest, rfl, hseen, hpermitted⟩ := h.permitted
  intro x hx name hdelete
  have hchange : isChange x = true := by
    obtain ⟨q, r⟩ := x
    cases hdelete
    rfl
  -- a deletion would be a change, and the reading makes none
  have hmem : x ∈ changesOf (seen ++ rest) := List.mem_filter.mpr ⟨hx, hchange⟩
  rw [changesOf_append, hseen, List.nil_append] at hmem
  exact hpermitted.not_delete x hmem name hdelete

/-- The settings that a pass sends are those that an update of the declaration may send. -/
theorem Course.eq_outgoingSettings {d : Desired} {previous : Status} {t : Transcript}
    {r : Except Fault Outcome} (h : Course d previous t r) {name : String} {sent : Tree}
    (hsent : Call.updateSettings name sent ∈ callsOf (t.map Exchange.question)) :
    sent = outgoingSettings d := by
  obtain ⟨x, hx, hquestion⟩ := mem_changesOf_of_mem_callsOf hsent rfl
  obtain ⟨seen, rest, rfl, hseen, hpermitted⟩ := h.permitted
  rw [changesOf_append, hseen, List.nil_append] at hx
  -- only two of the cases send settings, and both send the outgoing ones
  generalize changesOf rest = changes at hx hpermitted
  cases hpermitted with
  | nothing => cases hx
  | both o _ _ marked _ r =>
    rcases List.mem_cons.mp hx with rfl | hx
    · cases hquestion
      rfl
    · rw [List.mem_singleton.mp hx] at hquestion
      cases hquestion
  | settings o _ _ r =>
    rw [List.mem_singleton.mp hx] at hquestion
    cases hquestion
    rfl
  | _ =>
    rw [List.mem_singleton.mp hx] at hquestion
    cases hquestion

end IndexKeeper.Pass
