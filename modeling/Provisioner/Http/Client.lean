import Provisioner.Error
import Provisioner.Http.Exchange
import Provisioner.Http.Status
import Provisioner.Json.Record

/-!
# The client

Requests to a control plane, with documents in both directions. An answer with an error status becomes an
error that keeps the status, and says what the control plane says about it.
-/
namespace Provisioner

/-- A client of a control plane. -/
structure Client where
  baseUrl : String
  token : String
  deriving DecidableEq, Repr

namespace Client
open Http

/-- A client with a base address, whose slashes at the end do not count. -/
def of (baseUrl token : String) : Client where
  baseUrl := String.ofList (baseUrl.toList.reverse.dropWhile (· = '/')).reverse
  token := token

/-- How the client names itself. -/
def userAgent : String := "cloudstep/0.1.0"

/-- The documents the client understands. -/
def accepted : String := "application/vnd.atlas.2023-02-01+json"

/-! ## Requests -/

/-- A character that a header can carry. -/
def isHeaderCharacter (c : Char) : Bool :=
  c == '\t' || (0x20 ≤ c.toNat && c.toNat != 0x7F)

/-- The schemes of addresses that requests can be sent to. -/
def isSendable (url : Url) : Bool :=
  url.scheme = "http".toList || url.scheme = "https".toList

/-- What is said of an address that no request can be sent to. -/
def notAllowed (url : Url) : GatewayError :=
  .transport s!"builder error for url ({String.ofList url.text}): URL scheme is not allowed"

/-- The request for a path, or why it cannot be made. -/
def request (client : Client) (method : Method) (path : String) (query : List (String × String))
    (body : Option Json) : Except GatewayError Request := do
  match Url.parse (client.baseUrl ++ path) with
  | .error error => .error (.transport s!"builder error: {error.message}")
  | .ok url =>
    if url.host.isNone then .error (notAllowed url)
    else if !client.token.toList.all isHeaderCharacter then
      .error (.transport "builder error: failed to parse header value")
    else
      let url := if query.isEmpty then url else url.addQuery query
      if !isSendable url then .error (notAllowed url)
      else
        return {
          method, url
          headers :=
            [("authorization", s!"Bearer {client.token}"), ("accept", accepted), ("user-agent", userAgent)] ++
              (if body.isSome then [("content-type", "application/json")] else [])
          body := body.map Json.text }

/-! ## Answers -/

/-- What a control plane says about an error. -/
structure ErrorBody where
  detail : Option String
  errorCode : Option String
  reason : Option String

/-- How error bodies are read. -/
def ErrorBody.record : Record ErrorBody where
  name := "ApiErrorBody"
  fields :=
    .cons (.nullable "detail" .string) <|
    .cons (.nullable "errorCode" .string) <|
    .cons (.nullable "reason" .string) .none
  ofRow := fun (detail, errorCode, reason, ()) => { detail, errorCode, reason }
  toRow := fun body => (body.detail, body.errorCode, body.reason, ())

/-- The message of an error body: the detail with its code, else the reason. -/
def ErrorBody.message? (body : ErrorBody) : Option String :=
  match body.detail, body.errorCode with
  | some detail, some code => some s!"{detail} ({code})"
  | some detail, none => some detail
  | none, _ => body.reason

/-- The message of an answer with an error status. -/
def errorMessage (status : UInt16) (body : String) : String :=
  match ErrorBody.record.shape.ofText body with
  | .ok errorBody => errorBody.message?.getD ((phrase? status).getD "request failed")
  | .error _ => (phrase? status).getD "request failed"

/-- How much of a body is logged. -/
def loggedLength : Nat := 200

/-- The start of a body on one line, for a log. -/
def excerpt (body : String) : String :=
  let characters := body.toList
  let shown :=
    if loggedLength < characters.length then
      characters.take loggedLength ++ s!"... [truncated, {characters.length} chars total]".toList
    else characters
  String.ofList (shown.filter fun c => 0x20 ≤ c.toNat && c.toNat ≤ 0x7E)

/-- A text without the mark that says how it is encoded. -/
def withoutMark (body : String) : String :=
  match body.toList with
  | '\uFEFF' :: rest => String.ofList rest
  | _ => body

/-- The body of a successful exchange. -/
def receive {ε : Type} (request : Request) : Reply → Program Web ε (Except GatewayError String)
  | .unreachable reason =>
    return .error (.transport
      s!"error sending request for url ({String.ofList request.url.text}): error trying to connect: {reason}")
  | .dropped =>
    return .error (.transport
      s!"error sending request for url ({String.ofList request.url.text}): connection closed before message completed")
  | .truncated =>
    return .error (.transport ("Failed to read response body: request or response body error: " ++
      "error reading a body from connection: end of file before message length reached"))
  | .answered status body => do
    let body := withoutMark body
    if isSuccess status then return .ok body
    if status = 404 then
      Program.report ⟨.debug, s!"API returned 404 - {excerpt body}"⟩
    else
      Program.report ⟨.error, s!"API error: {statusText status} - {excerpt body}"⟩
    return .error (.api status (errorMessage status body))

/-- Sends a request and waits for its answer. -/
def send {ε : Type} (client : Client) (method : Method) (path : String) (query : List (String × String))
    (body : Option Json) : Program Web ε (Except GatewayError String) := do
  Program.report ⟨.debug, s!"{method.name} {client.baseUrl}{path}"⟩
  match client.request method path query body with
  | .error error => return .error error
  | .ok request => receive request (← Program.ask (ι := Web) request)

/-- The value of a body; a blank body is `null`. -/
def decode {α : Type} (shape : Shape α) (body : String) : Except GatewayError α :=
  let body := if (Text.trim body.toList).isEmpty then "null" else body
  (shape.ofText body).mapError fun error => .decode error.message

/-- Sends a request whose answer has a shape. -/
def fetch {ε α : Type} (client : Client) (method : Method) (path : String) (query : List (String × String))
    (body : Option Json) (shape : Shape α) : Program Web ε (Except GatewayError α) := do
  return (← client.send method path query body).bind (decode shape)

/-- Sends a request whose answer does not matter as long as it is a success. -/
def act {ε : Type} (client : Client) (method : Method) (path : String) : Program Web ε (Except GatewayError Unit) := do
  return (← client.send method path [] none).map fun _ => ()

end Client

end Provisioner
