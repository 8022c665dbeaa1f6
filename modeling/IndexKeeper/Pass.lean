import IndexKeeper.Interaction
import IndexKeeper.Metric
import IndexKeeper.Remote.Call

/-!
# Passes

A pass brings one resource of the cluster closer to its declaration.  `reconcile` reads the
resource and then creates it, adopts it, updates it, or leaves it alone; `finalize` cleans up after
a declaration that is gone.  Both are programs over the calls to the cluster: they hold for every
way in which the cluster may answer.

A resource without the marker of this operator is never changed.  Rejections by the cluster are
recorded in the status of the outcome; only a failure to read the resource ends a pass with a
fault.  What an update has to send is decided by `plan` before anything is sent.
-/

namespace IndexKeeper

/-- What a pass asks of its surroundings. -/
inductive Effect
  | remote (call : Call)
  /-- The names declared by the other declarations of the same kind. -/
  | siblings
  | count (metric : Metric)

/-- What a pass is answered. -/
@[reducible] def Effect.Answer : Effect → Type
  | remote call => call.Answer
  | siblings => Except Fault (List String)
  | count _ => Unit

/-- What to do with the finalizer of a declaration after a pass. -/
inductive FinalizerChange
  | ensure
  | remove
  | unchanged
  deriving DecidableEq, Repr

/-- The result of a pass: the new status, what to do with the finalizer, and what was done, in
words. -/
structure Outcome where
  status : Status
  finalizer : FinalizerChange
  message : String
  deriving DecidableEq, Repr

/-- Whether the pass recorded an error. -/
def Outcome.isFailure (o : Outcome) : Bool := o.status.latestError != ""

namespace Pass

/-- A program over the effects of a pass. -/
abbrev Task := Program Effect Effect.Answer

/-- Make a call. -/
def call (c : Call) : Task c.Answer := .ask (.remote c) .done

/-- Count something. -/
def count (m : Metric) : Task Unit := .ask (.count m) .done

/-- Ask for the names that the other declarations give. -/
def siblings : Task (Except Fault (List String)) := .ask .siblings .done

/-- Make a call that changes the cluster, and count it. -/
def mutate (kind : Kind) (operation : Mutation) (c : Call) : Task c.Answer := do
  count (.mutations kind operation)
  call c

/-! ## Outcomes -/

/-- The outcome of a creation that the cluster confirmed. -/
def created (d : Desired) : Outcome where
  status := .succeeded d.name .create
  finalizer := .ensure
  message := "successfully created ES " ++ d.kind.label ++ " " ++ d.name

/-- The outcome of a creation that failed. -/
def notCreated (d : Desired) (f : Fault) : Outcome where
  status := .failed d.name .create f
  finalizer := .unchanged
  message := "can't create ES " ++ d.kind.label ++ " " ++ d.name ++ ": " ++ f.message

/-- The outcome of an update that the cluster confirmed. -/
def updated (d : Desired) : Outcome where
  status := .succeeded d.name .update
  finalizer := .ensure
  message := "successfully updated ES " ++ d.kind.label ++ " " ++ d.name

/-- The outcome for a resource that was found as an unconfirmed creation left it. -/
def adopted (d : Desired) : Outcome where
  status := .succeeded d.name .create
  finalizer := .ensure
  message := "adopted " ++ d.kind.label ++ " " ++ d.name ++ " after unacknowledged create"

/-- The outcome for a resource that is as declared.  A status without a blemish is kept. -/
def unchanged (d : Desired) (previous : Status) : Outcome where
  status :=
    if previous.acknowledged && previous.latestError == "" then previous
    else .succeeded d.name (previous.operation.getD .update)
  finalizer := .ensure
  message := "no changes on " ++ d.kind.label ++ " named " ++ d.name

/-- The outcome of a pass that was rejected after the resource was found. -/
def rejected (d : Desired) (previous : Status) (f : Fault) : Outcome where
  status := .failed d.name previous.failureOperation f
  finalizer := .unchanged
  message := f.message

/-! ## Reading the resource -/

/-- The resource, if it is there.  One that is gone between the two calls is not there. -/
def observe (name : String) : Task (Except RemoteError (Option Observed)) := do
  match ← call (.probe name) with
  | .error e => return .error e
  | .ok false => return .ok none
  | .ok true =>
    match ← call (.fetch name) with
    | .ok observed => return .ok (some observed)
    | .error .notFound => return .ok none
    | .error e => return .error e

/-! ## Creation -/

/-- Create the resource. -/
def create (d : Desired) : Task Outcome := do
  match d.payload with
  | .error m => return notCreated d (.malformed m)
  | .ok payload =>
    match ← mutate d.kind .create (.create d.name payload) with
    | .ok () => return created d
    | .error e => return notCreated d (.remote e)

/-! ## Update -/

/-- What an update has to do. -/
inductive Plan
  /-- Put the whole template anew. -/
  | replace
  /-- Send what has changed: settings, a schema with the marker, both, or nothing. -/
  | send (settings : Option Tree) (schema : Option Json)

/-- Whether the definition of a template has to be put anew. -/
def definitionDrifted (d : Desired) (observed : Observed) : Bool :=
  match d.template, observed.template with
  | some want, some have_ => want.differsFrom have_
  | _, _ => false

/-- The settings that an update sends: those of an index without the fixed ones. -/
def outgoingSettings (d : Desired) : Tree :=
  if d.enforcesFixed then d.settings.withoutFixed else d.settings

/-- What an update has to do, given the resource and its schema. -/
def plan (d : Desired) (observed : Observed) (schema : Json) : Except Fault Plan := do
  if definitionDrifted d observed then
    return .replace
  let settingsChanged ← Tree.changes? d.settings observed.settings d.enforcesFixed
  let marked ← (Ownership.mark d.schema).mapError .malformed
  let want ← (Tree.ofDocument? marked).mapError .malformed
  let have_ ← (Tree.ofDocument? schema).mapError .malformed
  return .send (if settingsChanged then some (outgoingSettings d) else none)
    (if Tree.schemaDiffers want have_ then some marked else none)

/-- Put the whole template anew. -/
def replace (d : Desired) (previous : Status) : Task Outcome := do
  count (.mutations d.kind .create)
  match d.payload with
  | .error m => return rejected d previous (.malformed m)
  | .ok payload =>
    match ← call (.create d.name payload) with
    | .ok () => return updated d
    | .error e => return rejected d previous (.remote e)

/-- Send a schema. -/
def sendSchema (d : Desired) (previous : Status) (schema : Json) : Task Outcome := do
  match ← mutate d.kind .updateSchema (.updateSchema d.name schema) with
  | .ok () => return updated d
  | .error e => return rejected d previous (.remote e)

/-- Send settings, and then a schema if there is one to send. -/
def sendSettings (d : Desired) (previous : Status) (settings : Tree) (schema : Option Json) :
    Task Outcome := do
  match ← mutate d.kind .updateSettings (.updateSettings d.name settings) with
  | .error e => return rejected d previous (.remote e)
  | .ok () =>
    match schema with
    | none => return updated d
    | some s => sendSchema d previous s

/-- Carry out a plan. -/
def execute (d : Desired) (previous : Status) : Plan → Task Outcome
  | .replace => replace d previous
  | .send none none => return unchanged d previous
  | .send none (some schema) => sendSchema d previous schema
  | .send (some settings) schema => sendSettings d previous settings schema

/-! ## The whole pass -/

/-- Go on with a resource that was found. -/
def converge (d : Desired) (previous : Status) (observed : Observed) : Task Outcome := do
  match observed.ownedSchema? with
  | none => return rejected d previous (.notOwned d.name)
  | some schema =>
    if previous.isUnacknowledgedCreate then return adopted d
    else match plan d observed schema with
      | .error f => return rejected d previous f
      | .ok p => execute d previous p

/-- Bring the resource closer to what is desired. -/
def reconcile (d : Desired) (previous : Status) : Task (Except Fault Outcome) := do
  match ← observe d.name with
  | .error e => return .error (.remote e)
  | .ok none => return .ok (← create d)
  | .ok (some observed) => return .ok (← converge d previous observed)

/-! ## Cleaning up -/

/-- Why a resource stays when its declaration goes, in words. -/
def keeping (t : DeletionTarget) (reason : String) : String :=
  "keeping ES " ++ t.kind.label ++ " " ++ t.name ++ ": " ++ reason

/-- Delete a resource that was found, if it carries the marker. -/
def deleteOwned (t : DeletionTarget) (observed : Observed) : Task (Except Fault String) := do
  match observed.ownedSchema? with
  | none => return .error (.notOwned t.name)
  | some _ =>
    match ← mutate t.kind .delete (.delete t.name) with
    | .ok () => return .ok ("successfully deleted ES " ++ t.kind.label ++ " " ++ t.name)
    | .error e => return .error (.remote e)

/-- Delete the resource of a declaration that is gone, unless something speaks against it: the
declaration does not ask for it, the resource was never confirmed, another declaration names it, or
it is not owned. -/
def dropResource (t : DeletionTarget) (previous : Status) : Task (Except Fault String) := do
  if !t.dropOnDelete then
    return .ok (keeping t "drop_on_delete is not set")
  else if !previous.acknowledged then
    return .ok (keeping t "it was never acknowledged")
  else match ← siblings with
    | .error f => return .error f
    | .ok names =>
      if names.contains t.name then
        return .ok (keeping t "another object still declares it")
      else match ← call (.fetch t.name) with
        | .ok observed => deleteOwned t observed
        | .error .notFound =>
          return .ok ("ES " ++ t.kind.label ++ " " ++ t.name ++ " is already gone")
        | .error e => return .error (.remote e)

/-- Clean up after a declaration that is gone.  Whatever the cluster answers, the finalizer goes
and the status stays. -/
def finalize (t : DeletionTarget) (previous : Status) : Task Outcome := do
  let message := match ← dropResource t previous with
    | .ok message => message
    | .error f => "can't delete " ++ t.kind.label ++ " " ++ t.name ++ ": " ++ f.message
  return ⟨previous, .remove, message⟩

end Pass

end IndexKeeper
