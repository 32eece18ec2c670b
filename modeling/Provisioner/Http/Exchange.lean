import Provisioner.Http.Url
import Provisioner.Program

/-!
# Exchanges

A request and what becomes of it. An exchange ends with an answer, or without one in one of the ways in which
networks fail.
-/
namespace Provisioner
namespace Http

/-- What a request asks for. -/
inductive Method where
  | get
  | post
  | patch
  | delete
  deriving DecidableEq, Repr

/-- The name of a method. -/
def Method.name : Method → String
  | get => "GET"
  | post => "POST"
  | patch => "PATCH"
  | delete => "DELETE"

/-- A request as it is sent. -/
structure Request where
  method : Method
  url : Url
  headers : List (String × String)
  body : Option String
  deriving DecidableEq, Repr

/-- What becomes of a request. -/
inductive Reply where
  | answered (status : UInt16) (body : String)
  /-- No connection to the host. -/
  | unreachable (reason : String)
  /-- The connection was closed before there was an answer. -/
  | dropped
  /-- The connection was closed in the middle of the answer. -/
  | truncated
  deriving DecidableEq, Repr

end Http

/-- Requests, each answered by what becomes of it. -/
abbrev Web : Interface where
  Call := Http.Request
  Answer := fun _ => Http.Reply

end Provisioner
