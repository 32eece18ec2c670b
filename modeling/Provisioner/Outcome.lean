import Provisioner.Error
import Provisioner.Json.Record
import Provisioner.Time.Duration

/-!
# Outcomes

What one step comes to, and the response a caller gets for it. A step succeeds, fails, or asks to be followed
by another step with the context it returns.
-/
namespace Provisioner

/-- What a step comes to. -/
inductive Outcome (α : Type) where
  /-- The operation is done; a deletion leaves no model. -/
  | success (model : Option α) (message : String)
  /-- The next step is due after a delay and takes the context. -/
  | inProgress (context : Fields) (delay : Duration) (message : String)
  | failed (message : String) (category : ErrorCategory) (retryable : Bool)
  deriving Repr

namespace Outcome
variable {α β : Type}

/-- The outcome of a step that fails. -/
def ofError (error : ProvisionError) : Outcome α :=
  .failed error.message error.category error.isRetryable

/-- No step follows. -/
def isTerminal : Outcome α → Bool
  | inProgress .. => false
  | _ => true

/-- The outcome with its model changed. -/
def map (f : α → β) : Outcome α → Outcome β
  | success model message => success (model.map f) message
  | inProgress context delay message => inProgress context delay message
  | failed message category retryable => failed message category retryable

end Outcome

/-- How a step ended. -/
inductive StepStatus where
  | success
  | inProgress
  | failed
  deriving DecidableEq, Repr

namespace StepStatus

instance : Tagged StepStatus where
  variants := [success, inProgress, failed]
  tag
    | success => "Success"
    | inProgress => "InProgress"
    | failed => "Failed"

/-- A status as a document. -/
def shape : Shape StepStatus := .tagged StepStatus

end StepStatus

/-- The response to a caller. -/
structure StepResponse (α : Type) where
  status : StepStatus
  model : Option α := none
  message : String
  retryDelaySeconds : Option UInt64 := none
  continuationContext : Option Fields := none
  errorCategory : Option ErrorCategory := none
  retryable : Option Bool := none
  deriving Repr

namespace StepResponse
variable {α : Type}

/-- How responses are read and written. -/
def record (model : Shape α) : Record (StepResponse α) where
  name := "StepResponse"
  fields :=
    .cons (.required "status" StepStatus.shape) <|
    .cons (.optional "model" model) <|
    .cons (.required "message" .string) <|
    .cons (.optional "retryDelaySeconds" .uint64) <|
    .cons (.optional "continuationContext" .map) <|
    .cons (.optional "errorCategory" ErrorCategory.shape) <|
    .cons (.optional "retryable" .bool) .none
  ofRow := fun (status, model, message, retryDelaySeconds, continuationContext, errorCategory, retryable, ()) =>
    { status, model, message, retryDelaySeconds, continuationContext, errorCategory, retryable }
  toRow := fun response =>
    (response.status, response.model, response.message, response.retryDelaySeconds,
      response.continuationContext, response.errorCategory, response.retryable, ())

/-- A response as a document. -/
def shape (model : Shape α) : Shape (StepResponse α) := (record model).shape

/-- The response for an outcome. -/
def ofOutcome : Outcome α → StepResponse α
  | .success model message => { status := .success, model, message }
  | .inProgress context delay message =>
    { status := .inProgress
      message
      retryDelaySeconds := some (UInt64.ofNat delay.seconds)
      continuationContext := some context }
  | .failed message category retryable =>
    { status := .failed, message, errorCategory := some category, retryable := some retryable }

end StepResponse

end Provisioner
