import IndexKeeper.Config
import IndexKeeper.Controller.Api
import IndexKeeper.Pass
import IndexKeeper.Remote.Adapter

/-!
# Passes of a controller

What a controller does for one object.  An object that stays is reconciled, and what the pass
decided is stored: first the finalizer, which is added only after a pass that went well, then the
status, whether or not the finalizer could be written.  An object that is being deleted is cleaned
up if the finalizer guards it, and released.  A declaration that can't be read touches nothing but
its own status.
-/

namespace IndexKeeper.Controller

/-- What a pass of a controller asks of its surroundings. -/
inductive Effect
  | http (request : Http.Request)
  | kubernetes (request : ApiRequest)
  | count (metric : Metric)

/-- What a pass of a controller is answered. -/
@[reducible] def Effect.Answer : Effect → Type
  | http _ => Http.Reply
  | kubernetes request => request.Answer
  | count _ => Unit

/-- A program over the effects of a controller. -/
abbrev Task := Program Effect Effect.Answer

/-- When an object is looked at again. -/
inductive Requeue
  | after (ms : Nat)
  /-- When it changes. -/
  | onChange
  deriving DecidableEq, Repr

/-- A number of milliseconds in the greatest unit that it fills. -/
def durationText (ms : Nat) : String :=
  let fraction := toString (1000 + ms % 1000) |>.toList.drop 1 |>.reverse |>.dropWhile (· == '0')
  if ms = 0 then "0ns"
  else if ms < 1000 then toString ms ++ "ms"
  else if fraction.isEmpty then toString (ms / 1000) ++ "s"
  else toString (ms / 1000) ++ "." ++ String.ofList fraction.reverse ++ "s"

/-- The wording of when an object is looked at again. -/
def Requeue.text : Requeue → String
  | after ms => durationText ms
  | onChange => "never"

/-- The result of a pass of a controller, and what it reports on the way. -/
structure Report where
  result : Except Fault Requeue
  /-- What was done, in words. -/
  message : Option String := none
  /-- Why the declaration can't be reconciled. -/
  specFault : Option Fault := none
  /-- Why the finalizer could not be written when the status still was. -/
  finalizerFault : Option Fault := none

/-! ## Effects -/

/-- Count something. -/
def count (m : Metric) : Task Unit := .ask (.count m) .done

/-- Make a request of the Kubernetes API. -/
def ask (r : ApiRequest) : Task r.Answer := .ask (.kubernetes r) .done

/-- The names that other live objects of the kind declare. -/
def siblings (o : Object) : Task (Except Fault (List String)) := do
  match ← ask (.list o.kind) with
  | .error e => return .error e.fault
  | .ok objects =>
    return .ok <| (objects.filter fun other => other.uid != o.uid && !other.deleted).map
      fun other => other.spec.name

/-- An effect of a pass about the resource of an object, over a connection. -/
def perform (c : Connection) (o : Object) : (e : IndexKeeper.Effect) → Task e.Answer
  | .remote call => (c.perform o.kind call).realize fun r => .ask (.http r) .done
  | .siblings => siblings o
  | .count m => count m

/-! ## Storing -/

/-- The finalizers after a change, or nothing where they stay as they are. -/
def finalizersAfter (current : List String) (finalizer : String) :
    FinalizerChange → Option (List String)
  | .ensure => if current.contains finalizer then none else some (current ++ [finalizer])
  | .remove => if current.contains finalizer then some (current.filter (· != finalizer)) else none
  | .unchanged => none

/-- Write the finalizers of an object after a change. -/
def storeFinalizers (o : Object) (change : FinalizerChange) : Task (Except Fault Unit) := do
  match finalizersAfter o.finalizers o.kind.finalizer change with
  | none => return .ok ()
  | some finalizers =>
    match ← ask (.patchFinalizers o finalizers) with
    | .ok () => return .ok ()
    | .error refusal => return .error (.finalizer (Fault.apiRefusal refusal.message refusal.reason))

/-- Write the status of an object, unless it is stored already. -/
def storeStatus (o : Object) (status : Status) : Task (Except Fault Unit) := do
  if o.status = some status then return .ok ()
  else match ← ask (.patchStatus o status) with
    | .ok () => return .ok ()
    | .error refusal => return .error (.kubernetes refusal.message refusal.reason)

/-- The fault of a step, if it failed. -/
def fault? {α : Type} : Except Fault α → Option Fault
  | .error f => some f
  | .ok _ => none

/-! ## Passes -/

/-- When an object is looked at again after an outcome. -/
def requeueAfter (config : Config) (o : Outcome) : Requeue :=
  .after (if o.isFailure then config.errorRequeueMs else config.requeueMs)

/-- Store an outcome: the finalizer, then the status.  A status that can't be written is the worse
fault. -/
def store (config : Config) (o : Object) (outcome : Outcome) : Task Report := do
  let finalizers ← storeFinalizers o outcome.finalizer
  let status ← storeStatus o outcome.status
  match fault? status <|> fault? finalizers with
  | some f => return { result := .error f, finalizerFault := fault? finalizers }
  | none =>
    return { result := .ok (requeueAfter config outcome), message := some outcome.message }

/-- Record that the declaration of an object can't be reconciled. -/
def refuse (config : Config) (o : Object) (f : Fault) : Task Report := do
  let stored ← storeStatus o (.failed o.spec.name o.previous.failureOperation f)
  return { result := stored.map fun _ => .after config.errorRequeueMs, specFault := some f }

/-- Reconcile an object that stays. -/
def apply (config : Config) (c : Connection) (o : Object) : Task Report := do
  match o.spec.toDesired with
  | .error f => refuse config o f
  | .ok d =>
    match ← (Pass.reconcile d o.previous).realize (perform c o) with
    | .error f => return { result := .error f }
    | .ok outcome => store config o outcome

/-- Clean up after an object that is being deleted, and release it. -/
def cleanup (c : Connection) (o : Object) : Task Report := do
  if o.isGuarded then
    let outcome ← (Pass.finalize o.spec.deletionTarget o.previous).realize
      (perform c o)
    let released ← storeFinalizers o outcome.finalizer
    return { result := released.map fun _ => .onChange, message := some outcome.message }
  else return { result := .ok .onChange }

/-- A pass for an object, counted. -/
def pass (config : Config) (c : Connection) (o : Object) : Task Report := do
  count (.passes o.kind)
  let report ← if o.deleted then cleanup c o else apply config c o
  count (.durations o.kind)
  if (fault? report.result).isSome then count (.failures o.kind)
  return report

end IndexKeeper.Controller
