import IndexKeeper.Fault
import IndexKeeper.Http.Exchange
import IndexKeeper.Json.Reader

/-!
# Connections

A connection to a cluster at a base address.  `send` sends one request and keeps of the answer what
counts: a body if the status is one of success, an error else.  Nothing is sent to an address that
is no URL of the web.  Failed requests are not repeated.
-/

namespace IndexKeeper

open Http (Exchange Method Body Reply)

/-- A connection: the base address without slashes at its end. -/
structure Connection where
  base : String
  deriving DecidableEq, Repr

namespace Connection

/-- The connection to a base address. -/
def ofAddress (address : String) : Connection :=
  ⟨String.ofList ((address.toList.reverse.dropWhile (· == '/')).reverse)⟩

/-- The address of a path; slashes that start the path are dropped. -/
def address (c : Connection) (path : String) : String :=
  c.base ++ "/" ++ String.ofList (path.toList.dropWhile (· == '/'))

/-- The body in a reported error: bytes that are no text are replaced, and a body that broke off
counts as empty. -/
def reported : Body → String
  | .whole bytes => Utf8.decodeLossy bytes
  | .broken => ""

/-- Whether a status is one of success. -/
def isSuccess (status : Nat) : Bool := 200 ≤ status && status < 300

/-- What a request to a URL comes to. -/
def judge (url : Url) : Reply → Except RemoteError Body
  | .unanswered => .error (.transport (.unanswered url.text))
  | .answered status body =>
    if status = 404 then .error .notFound
    else if isSuccess status then .ok body
    else .error (.status status (reported body))

/-- Send a request to a path. -/
def send (c : Connection) (method : Method) (path : String) (body : Option Json := none) :
    Exchange (Except RemoteError Body) :=
  match (Url.ofText? (c.address path)).map (·.withoutSent) with
  | none => return .error (.transport .unusableUrl)
  | some url =>
    if url.isWeb then do
      return judge url (← Http.request ⟨method, url, body⟩)
    else return .error (.transport (.unsupportedUrl url.text))

/-- The bytes of a body that is wanted. -/
def wanted : Body → Except RemoteError (List UInt8)
  | .whole bytes => .ok bytes
  | .broken => .error (.transport .brokenBody)

/-- Read the body of an answer. -/
def decode {α : Type} (read : List UInt8 → Except ReadError α) (body : Body) :
    Except RemoteError α := do
  (read (← wanted body)).mapError fun e => .decode (.body e)

/-- Ask whether there is something at a path. -/
def probe (c : Connection) (path : String) : Exchange (Except RemoteError Bool) := do
  match ← c.send .head path with
  | .ok _ => return .ok true
  | .error .notFound => return .ok false
  | .error e => return .error e

/-- Fetch the document at a path. -/
def fetch (c : Connection) (path : String) : Exchange (Except RemoteError Json) := do
  return (← c.send .get path).bind (decode Json.read)

end Connection

end IndexKeeper
