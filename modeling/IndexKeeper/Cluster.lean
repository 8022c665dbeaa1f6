import IndexKeeper.Json.MergePatch
import IndexKeeper.Pass

/-!
# A cluster in memory

A cluster as a value: the resources it stores, names that answer as if a resource were there
although none can be fetched, and errors that wait for the next call of their kind.  A creation
stores what it is sent, with every leaf of the settings turned into text as a server echoes it; an
update of settings lays the new settings over the stored ones.  `respond` answers the effects of a
pass from such a cluster.
-/

namespace IndexKeeper

mutual

/-- A value as a server echoes it: every leaf becomes a text, a text stays as it is. -/
def Json.echo : Json → Json
  | .obj ms => .obj (echoMembers ms)
  | .str s => .str s
  | leaf => .str leaf.text

/-- Members as a server echoes them. -/
def echoMembers : List (String × Json) → List (String × Json)
  | [] => []
  | (k, v) :: rest => (k, v.echo) :: echoMembers rest

end

namespace Tree

/-- Settings as a server echoes them. -/
def echo (t : Tree) : Tree := ⟨echoMembers t.members⟩

/-- Settings laid over settings. -/
def overlay (below top : Tree) : Tree := ⟨Json.overlayMembers below.members top.members⟩

end Tree

/-- The kinds of calls. -/
inductive CallKind
  | probe
  | fetch
  | create
  | updateSettings
  | updateSchema
  | delete
  deriving DecidableEq, Repr

/-- The kind of a call. -/
def Call.kind : Call → CallKind
  | probe _ => .probe
  | fetch _ => .fetch
  | create .. => .create
  | updateSettings .. => .updateSettings
  | updateSchema .. => .updateSchema
  | delete _ => .delete

/-- A cluster as a value. -/
structure Cluster where
  resources : List (String × Observed) := []
  /-- Names that answer as if a resource were there. -/
  vanished : List String := []
  /-- Errors that wait for a call of their kind, in order. -/
  waiting : List (CallKind × RemoteError) := []

namespace Cluster

/-- The stored resource of a name. -/
def stored? (c : Cluster) (name : String) : Option Observed := Keyed.get? name c.resources

/-- Store a resource under a name. -/
def put (c : Cluster) (name : String) (o : Observed) : Cluster :=
  { c with resources := Keyed.insert name o c.resources }

/-- Remove the resource of a name. -/
def drop (c : Cluster) (name : String) : Cluster :=
  { c with resources := Keyed.erase name c.resources }

/-- Change the stored resource of a name, if there is one. -/
def change (c : Cluster) (name : String) (f : Observed → Observed) : Cluster :=
  match c.stored? name with
  | none => c
  | some o => c.put name (f o)

/-- Take the first waiting error for a kind of calls. -/
def takeError? (kind : CallKind) :
    List (CallKind × RemoteError) → Option (RemoteError × List (CallKind × RemoteError))
  | [] => none
  | (k, e) :: rest =>
    if k = kind then some (e, rest)
    else (takeError? kind rest).map fun (found, left) => (found, (k, e) :: left)

/-- Answer a call for which no error waits. -/
def serve (c : Cluster) : (call : Call) → call.Answer × Cluster
  | .probe name => (.ok ((c.stored? name).isSome || c.vanished.contains name), c)
  | .fetch name =>
    match c.stored? name with
    | some o => (.ok o, c)
    | none => (.error .notFound, c)
  | .create name payload =>
    (.ok (), c.put name ⟨payload.settings.echo, some payload.schema, payload.template⟩)
  | .updateSettings name settings =>
    (.ok (), c.change name fun o => { o with settings := o.settings.overlay settings.echo })
  | .updateSchema name schema =>
    (.ok (), c.change name fun o => { o with schema := some schema })
  | .delete name => (.ok (), c.drop name)

/-- Answer a call: with the first error that waits for it, and then nothing changes; else as
served. -/
def answer (c : Cluster) (call : Call) : call.Answer × Cluster :=
  match takeError? call.kind c.waiting with
  | some (e, left) => (.error e, { c with waiting := left })
  | none => c.serve call

/-- Answer the effects of a pass, with the given names of the other declarations. -/
def respond (siblings : Except Fault (List String)) (c : Cluster) :
    (e : Effect) → e.Answer × Cluster
  | .remote call => c.answer call
  | .siblings => (siblings, c)
  | .count _ => ((), c)

end Cluster

/-- The calls among the effects that a run asked for, in order. -/
def callsOf (asked : List Effect) : List Call :=
  asked.filterMap fun
    | .remote call => some call
    | _ => none

/-- The metrics among the effects that a run asked for, in order. -/
def metricsOf (asked : List Effect) : List Metric :=
  asked.filterMap fun
    | .count metric => some metric
    | _ => none

end IndexKeeper
