import IndexKeeper.Proofs.Pass.Permission

/-!
# What a pass has found

A pass asks its readings before its changes, so what it found can be told from a whole transcript:
`Finds` says it in terms of the exchanges that change nothing.  A transcript finds one thing only
(`Finds.unique`), and what it finds decides how the pass goes on (`Course.of_error`,
`Course.of_missing`, `Course.of_found`).
-/

namespace IndexKeeper.Pass

open Program

/-! ## The readings of a transcript -/

/-- Whether an exchange is about a call that changes nothing. -/
def isReading : Exchange Effect Effect.Answer → Bool
  | ⟨.remote c, _⟩ => !c.isMutation
  | _ => false

/-- The exchanges of a transcript that read, in order. -/
def readingsOf (t : Transcript) : Transcript := t.filter isReading

@[simp] theorem readingsOf_nil : readingsOf [] = [] := rfl

@[simp] theorem readingsOf_append (t u : Transcript) :
    readingsOf (t ++ u) = readingsOf t ++ readingsOf u :=
  List.filter_append t u

@[simp] theorem readingsOf_counted (m : Metric) : readingsOf [counted m] = [] := rfl

theorem readingsOf_changed {c : Call} (h : c.isMutation = true) (kind : Kind)
    (operation : Mutation) (r : c.Answer) : readingsOf (changed kind operation c r) = [] := by
  simp [readingsOf, changed, counted, replied, isReading, h]

theorem Reads.readingsOf {name : String} {t : Transcript}
    {r : Except RemoteError (Option Observed)} (h : Reads name t r) : readingsOf t = t := by
  cases h <;> rfl

theorem Creates.readingsOf {d : Desired} {t : Transcript} {o : Outcome} (h : Creates d t o) :
    readingsOf t = [] := by
  cases h with
  | malformed m hp => rfl
  | failed payload hp e => exact readingsOf_changed rfl _ _ _
  | confirmed payload hp => exact readingsOf_changed rfl _ _ _

theorem SendsSchema.readingsOf {d : Desired} {previous : Status} {schema : Json} {t : Transcript}
    {o : Outcome} (h : SendsSchema d previous schema t o) : readingsOf t = [] := by
  cases h with
  | failed e => exact readingsOf_changed rfl _ _ _
  | confirmed => exact readingsOf_changed rfl _ _ _

theorem Executes.readingsOf {d : Desired} {previous : Status} {p : Plan} {t : Transcript}
    {o : Outcome} (h : Executes d previous p t o) : readingsOf t = [] := by
  cases h with
  | replaceMalformed m hp => rfl
  | replaceFailed payload hp e => exact readingsOf_changed rfl _ _ _
  | replaced payload hp => exact readingsOf_changed rfl _ _ _
  | idle => rfl
  | schemaOnly schema hsend => exact hsend.readingsOf
  | settingsFailed settings schema e => exact readingsOf_changed rfl _ _ _
  | settingsOnly settings => exact readingsOf_changed rfl _ _ _
  | both settings schema hsend =>
    rw [readingsOf_append, readingsOf_changed rfl, hsend.readingsOf]
    rfl

theorem Converges.readingsOf {d : Desired} {previous : Status} {observed : Observed}
    {t : Transcript} {o : Outcome} (h : Converges d previous observed t o) :
    readingsOf t = [] := by
  cases h with
  | executed schema hschema hprevious p hplan hexec => exact hexec.readingsOf
  | _ => rfl

/-! ## What they found -/

/-- What the readings of a transcript found: an error, no resource, or a resource. -/
def Finds (name : String) (t : Transcript) (found : Except RemoteError (Option Observed)) : Prop :=
  Reads name (readingsOf t) found

theorem Reads.unique {name : String} {t : Transcript} {r r' : Except RemoteError (Option Observed)}
    (h : Reads name t r) (h' : Reads name t r') : r = r' := by
  cases h with
  | vanished =>
    cases h' with
    | vanished => rfl
    | fetchFailed e he => exact absurd rfl he
  | fetchFailed e he =>
    cases h' with
    | vanished => exact absurd rfl he
    | fetchFailed e' he' => rfl
  | _ =>
    cases h'
    rfl

theorem Finds.unique {name : String} {t : Transcript}
    {found found' : Except RemoteError (Option Observed)} (h : Finds name t found)
    (h' : Finds name t found') : found = found' :=
  Reads.unique h h'

/-- A reading decides what is found, whatever changes follow. -/
theorem Reads.finds {name : String} {seen rest : Transcript}
    {found : Except RemoteError (Option Observed)} (h : Reads name seen found)
    (hrest : Pass.readingsOf rest = []) : Finds name (seen ++ rest) found := by
  rw [Finds, readingsOf_append, hrest, List.append_nil, h.readingsOf]
  exact h

/-! ## How the pass goes on -/

section Course

variable {d : Desired} {previous : Status} {t : Transcript} {r : Except Fault Outcome}

/-- A pass always finds something, and it ends with a fault exactly if that is an error. -/
theorem Course.finds (h : Course d previous t r) :
    (∃ e, Finds d.name t (.error e) ∧ r = .error (.remote e) ∧ changesOf t = []) ∨
      ∃ found o, Finds d.name t (.ok found) ∧ r = .ok o := by
  cases h with
  | unread e hread =>
    have hfound := hread.finds readingsOf_nil
    rw [List.append_nil] at hfound
    exact Or.inl ⟨e, hfound, rfl, hread.changesOf⟩
  | creates hread hcreate => exact Or.inr ⟨_, _, hread.finds hcreate.readingsOf, rfl⟩
  | converges observed hread hconv => exact Or.inr ⟨_, _, hread.finds hconv.readingsOf, rfl⟩

/-- A pass that found no resource creates it. -/
theorem Course.of_missing (h : Course d previous t r) (hfound : Finds d.name t (.ok none)) :
    ∃ rest o, Creates d rest o ∧ t = readingsOf t ++ rest ∧ r = .ok o := by
  cases h with
  | unread e hread =>
    have hother := hread.finds readingsOf_nil
    rw [List.append_nil] at hother
    cases hfound.unique hother
  | creates hread hcreate =>
    refine ⟨_, _, hcreate, ?_, rfl⟩
    rw [readingsOf_append, hread.readingsOf, hcreate.readingsOf, List.append_nil]
  | converges observed hread hconv => cases hfound.unique (hread.finds hconv.readingsOf)

/-- A pass that found a resource goes on with it. -/
theorem Course.of_found (h : Course d previous t r) {observed : Observed}
    (hfound : Finds d.name t (.ok (some observed))) :
    ∃ rest o, Converges d previous observed rest o ∧ t = readingsOf t ++ rest ∧ r = .ok o := by
  cases h with
  | unread e hread =>
    have hother := hread.finds readingsOf_nil
    rw [List.append_nil] at hother
    cases hfound.unique hother
  | creates hread hcreate => cases hfound.unique (hread.finds hcreate.readingsOf)
  | converges observed' hread hconv =>
    cases hfound.unique (hread.finds hconv.readingsOf)
    refine ⟨_, _, hconv, ?_, rfl⟩
    rw [readingsOf_append, hread.readingsOf, hconv.readingsOf, List.append_nil]

end Course

end IndexKeeper.Pass
