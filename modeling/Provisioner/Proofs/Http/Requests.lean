import Provisioner.Http.ControlPlane
import Provisioner.Proofs.Calls

/-!
# Requests

When a request can be made and which one it is (`Client.request_eq_ok`), and where sending it ends (`Client.ends_fetch`):
without a call if it cannot be made, else after one call, with what its reply is read as (`Client.Reads`).
-/
namespace Provisioner
open Http

/-- Parameters change nothing about an address but its query. -/
@[simp] theorem Url.addQuery_path (url : Url) (parameters : List (String × String)) :
    (url.addQuery parameters).path = url.path := by
  unfold addQuery
  split <;> rfl

@[simp] theorem Url.addQuery_scheme (url : Url) (parameters : List (String × String)) :
    (url.addQuery parameters).scheme = url.scheme := by
  unfold addQuery
  split <;> rfl

/-- Different parameters make different addresses. -/
theorem Url.addQuery_injective {url : Url} {parameters parameters' : List (String × String)}
    (same : url.addQuery parameters = url.addQuery parameters') :
    Text.joined ['&'] (parameters.map fun (key, value) => key.toList ++ '=' :: value.toList) =
      Text.joined ['&'] (parameters'.map fun (key, value) => key.toList ++ '=' :: value.toList) := by
  have queries := congrArg Url.query same
  unfold addQuery at queries
  split at queries
  · exact Option.some.inj queries
  · exact Option.some.inj queries
  · exact (List.cons.inj (List.append_cancel_left (Option.some.inj queries))).2

namespace Client
variable {client : Client} {method : Method} {path : String} {query : List (String × String)} {body : Option Json}

@[simp] theorem isSendable_addQuery (url : Url) (parameters : List (String × String)) :
    isSendable (url.addQuery parameters) = isSendable url := by
  simp [isSendable]

/-- A request that can be made goes to an address of the web, with its parameters if it has any. -/
theorem request_eq_ok {request : Request} :
    client.request method path query body = .ok request ↔ ∃ url,
      Url.parse (client.baseUrl ++ path) = .ok url ∧ url.host.isNone = false ∧ isSendable url = true ∧
        client.token.toList.all isHeaderCharacter = true ∧
        request = {
          method
          url := if query.isEmpty then url else url.addQuery query
          headers :=
            [("authorization", s!"Bearer {client.token}"), ("accept", accepted), ("user-agent", userAgent)] ++
              (if body.isSome then [("content-type", "application/json")] else [])
          body := body.map Json.text } := by
  have sendable (url : Url) : isSendable (if query.isEmpty then url else url.addQuery query) = isSendable url := by
    split <;> simp
  unfold Client.request
  cases parsed : Url.parse (client.baseUrl ++ path) with
  | error error => simp only [reduceCtorEq, false_and, exists_false]
  | ok url =>
    simp only [Except.ok.injEq, exists_eq_left']
    cases hosted : url.host.isNone with
    | true => simp
    | false =>
      cases token : client.token.toList.all isHeaderCharacter with
      | false => simp
      | true =>
        cases web : isSendable url with
        | false => simp [web, sendable, -List.isEmpty_iff]
        | true =>
          simp only [sendable, web, true_and]
          exact ⟨fun made => (Except.ok.inj made).symm, fun same => congrArg Except.ok same.symm⟩

/-- A request has its method, and the path that is behind the base address. -/
theorem parse_of_request {request : Request} (made : client.request method path query body = .ok request) :
    ∃ url, Url.parse (client.baseUrl ++ path) = .ok url ∧ url.host.isNone = false ∧ request.method = method ∧
      request.url.path = url.path := by
  obtain ⟨url, parsed, hosted, _, _, rfl⟩ := request_eq_ok.mp made
  refine ⟨url, parsed, hosted, rfl, ?_⟩
  dsimp only
  split <;> simp

/-- Whether a request can be made does not depend on its parameters and its body. -/
theorem exists_request_iff (query query' : List (String × String)) (body body' : Option Json) :
    (∃ request, client.request method path query body = .ok request) ↔
      ∃ request, client.request method path query' body' = .ok request := by
  simp only [request_eq_ok]
  constructor <;>
  · rintro ⟨_, url, parsed, hosted, web, token, _⟩
    exact ⟨_, url, parsed, hosted, web, token, rfl⟩

/-! ## Replies -/

/-- A reply to a request is read as a value of a shape, or as an error. -/
def Reads {α : Type} (shape : Shape α) (request : Request) (reply : Reply) (answer : Except GatewayError α) : Prop :=
  ∃ body, (receive (ε := Empty) request reply).Ends [] (.ok body) ∧ answer = body.bind (decode shape)

variable {ε α : Type} {shape : Shape α} {trace : Trace Web}

/-- Nothing is called to read a reply, and reading it always comes to a result. -/
theorem ends_receive {request : Request} {reply : Reply} {result : Except ε (Except GatewayError String)} :
    (receive request reply).Ends trace result ↔
      trace = [] ∧ ∃ body, (receive (ε := Empty) request reply).Ends [] (.ok body) ∧ result = .ok body := by
  cases reply with
  | answered status body =>
    cases success : isSuccess status with
    | true => simp [receive, success]
    | false =>
      by_cases missing : status = 404
      · subst missing
        simp [receive, success]
      · simp [receive, success, missing]
  | unreachable | dropped | truncated => simp [receive]

/-- A reply is read in one way. -/
theorem Reads.unique {request : Request} {reply : Reply} {answer answer' : Except GatewayError α}
    (reads : Reads shape request reply answer) (reads' : Reads shape request reply answer') : answer = answer' := by
  obtain ⟨body, received, rfl⟩ := reads
  obtain ⟨body', received', rfl⟩ := reads'
  obtain ⟨_, same⟩ := received.eq_of_append_eq received' (rfl : [] ++ [] = [] ++ [])
  rw [Except.ok.inj same]

/-- The body of a successful answer is read. -/
theorem reads_answered (shape : Shape α) (request : Request) {status : UInt16} (body : String)
    (success : isSuccess status = true) :
    Reads shape request (.answered status body) (decode shape (withoutMark body)) := by
  refine ⟨.ok (withoutMark body), ?_, rfl⟩
  simp [receive, success]

/-- Sending a request ends with an error if it cannot be made, else with the body of its reply. -/
theorem ends_send {result : Except ε (Except GatewayError String)} :
    (client.send method path query body).Ends trace result ↔
      (∃ error, client.request method path query body = .error error ∧ trace = [] ∧ result = .ok (.error error)) ∨
        ∃ request reply received, client.request method path query body = .ok request ∧ trace = [⟨request, reply⟩] ∧
          (receive (ε := Empty) request reply).Ends [] (.ok received) ∧ result = .ok received := by
  cases made : client.request method path query body with
  | error error => simp [send, made]
  | ok request =>
    simp only [send, made, Program.report_bind, Program.ends_note, Program.ask, Program.call_bind, Program.done_bind,
      Program.ends_call, reduceCtorEq, false_and, exists_false, false_or, Except.ok.injEq]
    constructor
    · rintro ⟨reply, _, rfl, later⟩
      obtain ⟨rfl, received, ends, rfl⟩ := ends_receive.mp later
      exact ⟨request, reply, received, rfl, rfl, ends, rfl⟩
    · rintro ⟨_, reply, received, rfl, rfl, ends, rfl⟩
      exact ⟨reply, [], rfl, ends_receive.mpr ⟨rfl, received, ends, rfl⟩⟩

/-- What follows the sending of a request makes no call. -/
theorem ends_send_bind {β : Type} {f : Except GatewayError String → β} {result : Except ε β} :
    (client.send method path query body >>= fun received => pure (f received)).Ends trace result ↔
      ∃ received, (client.send method path query body : Program Web ε _).Ends trace (.ok received) ∧
        result = .ok (f received) := by
  simp only [Program.ends_bind, Program.pure_eq, Program.ends_done]
  constructor
  · rintro (⟨error, failed, rfl⟩ | ⟨received, before, _, sent, ⟨rfl, rfl⟩, rfl⟩)
    · rcases ends_send.mp failed with ⟨_, _, _, ⟨⟩⟩ | ⟨_, _, _, _, _, _, ⟨⟩⟩
    · exact ⟨received, by simpa using sent, rfl⟩
  · rintro ⟨received, sent, rfl⟩
    exact .inr ⟨received, trace, [], sent, ⟨rfl, rfl⟩, by simp⟩

/-- Fetching a value ends with an error if its request cannot be made, else with what the reply is read as. -/
theorem ends_fetch {result : Except ε (Except GatewayError α)} :
    (client.fetch method path query body shape).Ends trace result ↔
      (∃ error, client.request method path query body = .error error ∧ trace = [] ∧ result = .ok (.error error)) ∨
        ∃ request reply answer, client.request method path query body = .ok request ∧
          trace = [⟨request, reply⟩] ∧ Reads shape request reply answer ∧ result = .ok answer := by
  rw [fetch, ends_send_bind]
  constructor
  · rintro ⟨received, sent, rfl⟩
    rcases ends_send.mp sent with ⟨error, unmade, rfl, ⟨⟩⟩ | ⟨request, reply, _, made, rfl, ends, ⟨⟩⟩
    · exact .inl ⟨error, unmade, rfl, rfl⟩
    · exact .inr ⟨request, reply, _, made, rfl, ⟨_, ends, rfl⟩, rfl⟩
  · rintro (⟨error, unmade, rfl, rfl⟩ | ⟨request, reply, _, made, rfl, ⟨received, ends, rfl⟩, rfl⟩)
    · exact ⟨.error error, ends_send.mpr (.inl ⟨error, unmade, rfl, rfl⟩), rfl⟩
    · exact ⟨received, ends_send.mpr (.inr ⟨request, reply, received, made, rfl, ends, rfl⟩), rfl⟩

end Client
end Provisioner
