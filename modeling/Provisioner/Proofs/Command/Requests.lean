import Provisioner.Command.Run
import Provisioner.Proofs.Http.Listing

/-!
# Steps as requests

A step of the program reads the clock, draws an id, and then only sends requests (`ends_step`): the calls of the
operation become requests of the client. It comes to a response whatever is replied, and that is the response of the
operation to some answers to its calls (`exists_ends_of_requestsOfStep`).
-/
namespace Provisioner

/-! ## Programs over another interface -/

namespace Program
variable {ι κ μ : Interface} {ε α β : Type}

theorem ends_widen {p : Program ι Empty α} {trace : Trace ι} {result : Except ε α} :
    p.widen.Ends trace result ↔ ∃ value, p.Ends trace (.ok value) ∧ result = .ok value := by
  induction p generalizing trace with
  | done value =>
    have same : (done value : Program ι Empty α).widen = (done value : Program ι ε α) := rfl
    simp only [same, ends_done]
    constructor
    · rintro ⟨rfl, rfl⟩
      exact ⟨value, ⟨rfl, rfl⟩, rfl⟩
    · rintro ⟨_, ⟨rfl, ⟨⟩⟩, rfl⟩
      exact ⟨rfl, rfl⟩
  | fail error => exact error.elim
  | note event rest ih => exact ends_note.trans (ih.trans (by simp only [ends_note]))
  | call c next ih =>
    have same : (call c next).widen = (call c fun answer => (next answer).widen : Program ι ε α) := rfl
    simp only [same, ends_call, ih]
    constructor
    · rintro ⟨answer, rest, rfl, value, later, rfl⟩
      exact ⟨value, ⟨answer, rest, rfl, later⟩, rfl⟩
    · rintro ⟨value, ⟨answer, rest, rfl, later⟩, rfl⟩
      exact ⟨answer, rest, rfl, value, later, rfl⟩

theorem bind_eq (p : Program ι ε α) (f : α → Program ι ε β) : p.bind f = p >>= f := rfl

theorem bind_pure (p : Program ι ε α) : p >>= pure = p := by
  induction p with
  | done | fail => rfl
  | note event rest ih => exact congrArg (note event) ih
  | call c next ih => exact congrArg (call c) (funext ih)

theorem interpret_bind (answer : (c : ι.Call) → Program κ ε (ι.Answer c)) (p : Program ι ε α) (f : α → Program ι ε β) :
    (p >>= f).interpret answer = p.interpret answer >>= fun value => (f value).interpret answer := by
  induction p with
  | done | fail => rfl
  | note event rest ih => exact congrArg (note event) ih
  | call c next ih =>
    have same (value : ι.Answer c) : (next value >>= f).interpret answer =
        (next value).interpret answer >>= fun value => (f value).interpret answer := ih value
    rw [call_bind, interpret, interpret, bind_eq, bind_eq, bind_bind]
    simp only [same]

/-- Interpreting twice is interpreting the programs in place of the calls. -/
theorem interpret_interpret (answer : (c : ι.Call) → Program κ ε (ι.Answer c))
    (answer' : (c : κ.Call) → Program μ ε (κ.Answer c)) (p : Program ι ε α) :
    (p.interpret answer).interpret answer' = p.interpret fun c => (answer c).interpret answer' := by
  induction p with
  | done | fail => rfl
  | note event rest ih => exact congrArg (note event) ih
  | call c next ih =>
    rw [interpret, bind_eq, interpret_bind, interpret, bind_eq]
    simp only [ih]

/-- If no program in place of a call fails, a program ends as it does for some answers to its calls. -/
theorem exists_ends_of_interpret {answer : (c : ι.Call) → Program κ ε (ι.Answer c)}
    (answers : ∀ c, (answer c).Always fun _ result => ∃ value, result = .ok value) {p : Program ι ε α} {trace : Trace κ}
    {result : Except ε α} (ends : (p.interpret answer).Ends trace result) : ∃ calls, p.Ends calls result := by
  induction p generalizing trace with
  | done value =>
    obtain ⟨_, rfl⟩ := ends_done.mp ends
    exact ⟨[], .done value⟩
  | fail error =>
    obtain ⟨_, rfl⟩ := ends_fail.mp ends
    exact ⟨[], .fail error⟩
  | note event rest ih =>
    obtain ⟨calls, later⟩ := ih (ends_note.mp ends)
    exact ⟨calls, .note later⟩
  | call c next ih =>
    rw [interpret, bind_eq] at ends
    rcases ends_bind.mp ends with ⟨error, failed, _⟩ | ⟨value, _, after, _, later, _⟩
    · obtain ⟨_, ⟨⟩⟩ := answers c _ _ failed
    · obtain ⟨calls, later⟩ := ih value later
      exact ⟨⟨c, value⟩ :: calls, .call later⟩

end Program

/-! ## Calls always come to an answer -/

namespace ControlPlane
open Http
variable {ε α : Type} {client : Client} {c : ControlCall} {trace : Trace Web}

theorem exists_answer_of_pagesFrom {item : Shape α} {number : Nat} {collected : List α}
    {result : Except ε (Except GatewayError (List α))}
    (ends : (pagesFrom client c item number collected).Ends trace result) : ∃ answer, result = .ok answer := by
  -- Whether another page is asked for depends on the answers, so the induction is on the requests.
  induction trace generalizing number collected with
  | nil =>
    rcases ends_pagesFrom ends with ⟨error, _, _, rfl⟩ | ⟨_, _, _, _, _, ⟨⟩, _⟩
    exact ⟨_, rfl⟩
  | cons first rest ih =>
    rcases ends_pagesFrom ends with ⟨_, _, ⟨⟩, _⟩ | ⟨_, _, answer, _, _, ⟨⟩, _, later⟩
    rcases answer with error | items | page
    · exact ⟨_, (Program.ends_done.mp later).2⟩
    · exact ⟨_, (Program.ends_done.mp later).2⟩
    · rw [afterPage] at later
      split at later
      · exact ⟨_, (Program.ends_done.mp later).2⟩
      · exact ih later

/-- Whatever is replied to its requests, a call comes to an answer. -/
theorem exists_answer {result : Except ε (Except GatewayError c.Result)}
    (ends : (perform client c).Ends trace result) : ∃ answer, result = .ok answer := by
  have ofSingle {α : Type} {shape : Shape α} {result : Except ε (Except GatewayError α)}
      (ends : (single client c shape).Ends trace result) : ∃ answer, result = .ok answer := by
    obtain ⟨_, _, rfl⟩ := Client.ends_send_bind.mp ends
    exact ⟨_, rfl⟩
  have ofPlain {result : Except ε (Except GatewayError Unit)} (ends : (plain client c).Ends trace result) :
      ∃ answer, result = .ok answer := by
    obtain ⟨_, _, rfl⟩ := Client.ends_send_bind.mp ends
    exact ⟨_, rfl⟩
  cases c with
  | deleteCluster | deleteProcessor | startProcessor | stopProcessor | deleteService | detachInterface =>
    exact ofPlain ends
  | listClusters | listProcessors | listServices | listExports => exact exists_answer_of_pagesFrom ends
  | _ => exact ofSingle ends

end ControlPlane

namespace Command
open Http

/-! ## Steps -/

/-- Requests with their replies, as things asked of the host. -/
def sends (exchanges : Trace Web) : Trace Host :=
  exchanges.map fun answered => ⟨.send answered.call, answered.answer⟩

/-- The requests for a call. -/
def requests (client : Client) : (c : Call) → Program Web Failure (Except GatewayError c.Result)
  | .control c => ControlPlane.perform client c
  | .network _ => return .error .noNetworkProvider

/-- The requests of a step at a time, with a fresh id. -/
def requestsOfStep (subject : Subject) (context : Fields) (now : Instant) (fresh : OperationId) :
    Program Web Failure (StepResponse Json) :=
  (Registry.step subject.settings subject.family subject.operation fresh context subject.model now).widen.interpret
    (requests subject.client)

theorem requests_always (client : Client) (c : Call) :
    (requests client c).Always fun _ result => ∃ value, result = .ok value := by
  cases c with
  | control c =>
    intro _ _ ends
    exact ControlPlane.exists_answer ends
  | network c => exact Program.always_done.mpr ⟨_, rfl⟩

/-- Requests that the host sends end as they do by themselves. -/
theorem ends_sends {α : Type} {p : Program Web Failure α} {trace : Trace Host} {result : Except Failure α} :
    (p.interpret fun request => Routine.ask (.send request)).Ends trace result ↔
      ∃ exchanges, p.Ends exchanges result ∧ trace = sends exchanges := by
  induction p generalizing trace with
  | done value =>
    rw [Program.interpret, Program.ends_done]
    constructor
    · rintro ⟨rfl, rfl⟩
      exact ⟨[], .done value, rfl⟩
    · rintro ⟨exchanges, ends, rfl⟩
      obtain ⟨rfl, rfl⟩ := Program.ends_done.mp ends
      exact ⟨rfl, rfl⟩
  | fail error =>
    rw [Program.interpret, Program.ends_fail]
    constructor
    · rintro ⟨rfl, rfl⟩
      exact ⟨[], .fail error, rfl⟩
    · rintro ⟨exchanges, ends, rfl⟩
      obtain ⟨rfl, rfl⟩ := Program.ends_fail.mp ends
      exact ⟨rfl, rfl⟩
  | note event rest ih => exact Program.ends_note.trans (ih.trans (by simp only [Program.ends_note]))
  | call request next ih =>
    have same : ((Program.call request next).interpret fun request => Routine.ask (.send request)) =
        .call (HostCall.send request) fun reply => (next reply).interpret fun request => Routine.ask (.send request) :=
      rfl
    rw [same, Program.ends_call]
    simp only [ih, Program.ends_call]
    constructor
    · rintro ⟨reply, _, rfl, exchanges, later, rfl⟩
      exact ⟨⟨request, reply⟩ :: exchanges, ⟨reply, exchanges, rfl, later⟩, rfl⟩
    · rintro ⟨_, ⟨reply, exchanges, rfl, later⟩, rfl⟩
      exact ⟨reply, sends exchanges, rfl, exchanges, later, rfl⟩

theorem through_eq {α : Type} (client : Client) (p : Program Gateway Failure α) :
    Routine.through client p =
      (p.interpret (requests client)).interpret fun request => Routine.ask (.send request) := by
  rw [Program.interpret_interpret, Routine.through]
  congr 1
  funext c
  cases c <;> rfl

variable {subject : Subject} {context : Fields} {now : Instant} {fresh : OperationId}

/-- A response to requests is that of the operation to some answers to its calls. -/
theorem exists_ends_of_requestsOfStep {exchanges : Trace Web} {result : Except Failure (StepResponse Json)}
    (ends : (requestsOfStep subject context now fresh).Ends exchanges result) :
    ∃ response, result = .ok response ∧ ∃ calls,
      (Registry.step subject.settings subject.family subject.operation fresh context subject.model now).Ends calls
        (.ok response) := by
  obtain ⟨calls, stepped⟩ := Program.exists_ends_of_interpret (requests_always subject.client) ends
  obtain ⟨response, responds, rfl⟩ := Program.ends_widen.mp stepped
  exact ⟨response, rfl, calls, responds⟩

/-- A step reads the clock, draws an id, sends requests and comes to a response. -/
theorem ends_step {trace : Trace Host} {result : Except Failure (StepResponse Json)} :
    (step subject context).Ends trace result ↔
      ∃ now fresh exchanges response, (requestsOfStep subject context now fresh).Ends exchanges (.ok response) ∧
        trace = ⟨.now, now⟩ :: ⟨.freshId, fresh⟩ :: sends exchanges ∧ result = .ok response := by
  have unfolded : step subject context = .call HostCall.now fun now => .call HostCall.freshId fun fresh =>
      (requestsOfStep subject context now fresh).interpret fun request => Routine.ask (.send request) := by
    simp only [requestsOfStep, ← through_eq]
    rfl
  rw [unfolded, Program.ends_call]
  simp only [Program.ends_call, ends_sends]
  constructor
  · rintro ⟨now, _, rfl, fresh, _, rfl, exchanges, ends, rfl⟩
    obtain ⟨response, rfl, _⟩ := exists_ends_of_requestsOfStep ends
    exact ⟨now, fresh, exchanges, response, ends, rfl, rfl⟩
  · rintro ⟨now, fresh, exchanges, response, ends, rfl, rfl⟩
    exact ⟨now, _, rfl, fresh, _, rfl, exchanges, ends, rfl⟩

end Command
end Provisioner
