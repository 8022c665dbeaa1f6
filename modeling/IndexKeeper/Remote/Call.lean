import IndexKeeper.Resource

/-!
# Calls to the cluster

The calls that a pass makes about one resource, each with its answer.  Every call may fail with any
error of the cluster; a resource that is not there is fetched as `notFound`.
-/

namespace IndexKeeper

/-- A call about a resource. -/
inductive Call
  /-- Ask whether the resource is there. -/
  | probe (name : String)
  | fetch (name : String)
  | create (name : String) (payload : Desired.Payload)
  | updateSettings (name : String) (settings : Tree)
  | updateSchema (name : String) (schema : Json)
  | delete (name : String)

namespace Call

/-- What a call answers when it succeeds. -/
@[reducible] def Result : Call → Type
  | probe _ => Bool
  | fetch _ => Observed
  | _ => Unit

/-- What a call answers. -/
@[reducible] def Answer (c : Call) : Type := Except RemoteError c.Result

/-- The resource that a call is about. -/
def name : Call → String
  | probe name | fetch name | create name _ | updateSettings name _ | updateSchema name _
  | delete name => name

/-- Whether a call may change the cluster. -/
def isMutation : Call → Bool
  | probe _ | fetch _ => false
  | _ => true

end Call

end IndexKeeper
