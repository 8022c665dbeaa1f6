import IndexKeeper.Remote.Acknowledgement
import IndexKeeper.Remote.Call
import IndexKeeper.Remote.Connection
import IndexKeeper.Remote.Report

/-!
# Calls as requests

Each call about an index or a template as an exchange of requests over a connection.  A change
counts as made only if the answer confirms it.  A template has no addresses for its parts: an
update fetches the stored template, replaces one part and puts the whole back, so that members it
knows nothing of stay as they are.
-/

namespace IndexKeeper

open Http (Exchange Method)

namespace Connection

/-- Send a change that the answer has to confirm. -/
def change (c : Connection) (method : Method) (path : String) (body : Option Json)
    (operation : String) : Exchange (Except RemoteError Unit) := do
  match (← c.send method path body).bind (decode Acknowledgement.read) with
  | .error e => return .error e
  | .ok true => return .ok ()
  | .ok false => return .error (.notAcknowledged operation)

/-! ## Indices -/

/-- A call about an index as an exchange. -/
def performIndex (c : Connection) : (call : Call) → Exchange call.Answer
  | .probe name => c.probe name
  | .fetch name => do
    return (← c.fetch name).bind (Report.entry name) |>.bind Report.index
  | .create name payload =>
    c.change .put name (some (Report.ofIndex payload)) ("create index " ++ name)
  | .updateSettings name settings =>
    c.change .put (name ++ "/_settings") (some settings.toJson)
      ("update settings of index " ++ name)
  | .updateSchema name schema =>
    c.change .put (name ++ "/_mapping") (some schema) ("update mappings of index " ++ name)
  | .delete name => c.change .delete name none ("delete index " ++ name)

/-! ## Templates -/

/-- The path of a template. -/
def templatePath (name : String) : String := "_template/" ++ name

/-- The stored template of a name, as its members. -/
def fetchTemplate (c : Connection) (name : String) :
    Exchange (Except RemoteError (List (String × Json))) := do
  match (← c.fetch (templatePath name)).bind (Report.entry name) with
  | .error e => return .error e
  | .ok (.obj members) => return .ok members
  | .ok _ => return .error (.decode (.templateNotObject name))

/-- Replace one part of a stored template. -/
def replaceSection (c : Connection) (name part : String) (value : Json) :
    Exchange (Except RemoteError Unit) := do
  match ← c.fetchTemplate name with
  | .error e => return .error e
  | .ok members =>
    c.change .put (templatePath name) (some (.obj (Keyed.insert part value members)))
      ("update " ++ part ++ " of template " ++ name)

/-- A call about a template as an exchange. -/
def performTemplate (c : Connection) : (call : Call) → Exchange call.Answer
  | .probe name => c.probe (templatePath name)
  | .fetch name => do
    return (← c.fetchTemplate name).bind fun members => Report.template (.obj members)
  | .create name payload =>
    c.change .put (templatePath name) (some (Report.ofTemplate payload)) ("put template " ++ name)
  | .updateSettings name settings => c.replaceSection name Report.settingsField settings.toJson
  | .updateSchema name schema => c.replaceSection name Report.schemaField schema
  | .delete name => c.change .delete (templatePath name) none ("delete template " ++ name)

/-- A call about a resource of a kind as an exchange. -/
def perform (c : Connection) (kind : Kind) (call : Call) : Exchange call.Answer :=
  match kind with
  | .index => c.performIndex call
  | .template => c.performTemplate call

end Connection

end IndexKeeper
