import IndexKeeper.Http.Url
import IndexKeeper.Interaction
import IndexKeeper.Json.Basic

/-!
# Exchanges

Requests to a server and what comes of them.  An exchange is a program whose questions are
requests; how a server answers is left open.  `Script` is the server that answers with prepared
responses, one after the other.
-/

namespace IndexKeeper.Http

/-- What a request does. -/
inductive Method
  | head
  | get
  | put
  | delete
  deriving DecidableEq, Repr

/-- The word for a method in a request. -/
def Method.word : Method → String
  | .head => "HEAD"
  | .get => "GET"
  | .put => "PUT"
  | .delete => "DELETE"

/-- A request; the body is sent as JSON text. -/
structure Request where
  method : Method
  url : Url
  body : Option Json

/-- The body of an answer, or that it broke off. -/
inductive Body
  | whole (bytes : List UInt8)
  | broken
  deriving DecidableEq, Repr

/-- What comes of a request. -/
inductive Reply
  | unanswered
  | answered (status : Nat) (body : Body)
  deriving DecidableEq, Repr

/-- A program that sends requests. -/
abbrev Exchange := Program Request fun _ => Reply

/-- Send a request. -/
def request (r : Request) : Exchange Reply := .ask r .done

/-! ## Prepared responses -/

/-- A prepared response. -/
structure Response where
  status : Nat := 200
  body : List UInt8 := []
  /-- The connection is closed without an answer. -/
  dropped : Bool := false
  /-- The body breaks off. -/
  cut : Bool := false

namespace Response

/-- The response once the prepared ones are used up. -/
def missing : Response := { status := 404 }

/-- Whether an answer has no body whatever is prepared. -/
def hasNoBody (method : Method) (status : Nat) : Bool :=
  method == .head || status == 204 || status == 304

/-- What comes of a request with a method that gets this response. -/
def reply (r : Response) (method : Method) : Reply :=
  if r.dropped then .unanswered
  else if hasNoBody method r.status then .answered r.status (.whole [])
  else if r.cut then .answered r.status .broken
  else .answered r.status (.whole r.body)

end Response

/-- A server with prepared responses: those still to be given, and the requests that reached it.
One that does not listen is reached by no request and answers none. -/
structure Script where
  listening : Bool := true
  responses : List Response := []
  received : List Request := []

namespace Script

/-- Answer a request with the next response. -/
def respond (s : Script) (r : Request) : Reply × Script :=
  if s.listening then
    ((s.responses.headD .missing).reply r.method,
      { s with responses := s.responses.tail, received := s.received ++ [r] })
  else (.unanswered, s)

end Script

end IndexKeeper.Http
