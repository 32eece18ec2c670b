import Provisioner.Operation

/-!
# What can go wrong

A step fails because its input is rejected, because a resource is missing, because a call fails, because a
resource got into a state that leads nowhere, because time ran out, or because the context cannot be resumed.
Every failure belongs to a category, and only failures of calls can be worth another try.
-/
namespace Provisioner

/-- The category of a failure. -/
inductive ErrorCategory where
  | validation
  | conflict
  | notFound
  | remote
  | timeout
  | malformedContext
  deriving DecidableEq, Repr

namespace ErrorCategory

instance : Tagged ErrorCategory where
  variants := [validation, conflict, notFound, remote, timeout, malformedContext]
  tag
    | validation => "validation"
    | conflict => "conflict"
    | notFound => "not_found"
    | remote => "remote"
    | timeout => "timeout"
    | malformedContext => "malformed_context"

/-- The tag of a category. -/
def tag (category : ErrorCategory) : String := Tagged.tag category

/-- A category as a document. -/
def shape : Shape ErrorCategory := .tagged ErrorCategory

end ErrorCategory

/-! ## Calls -/

/-- Why a call failed. -/
inductive GatewayError where
  /-- The other side answered with an error status. -/
  | api (status : UInt16) (message : String)
  /-- There was no answer. -/
  | transport (reason : String)
  /-- The answer does not have the expected shape. -/
  | decode (reason : String)
  /-- There is no one to call. -/
  | unsupported (reason : String)
  deriving DecidableEq, Repr

namespace GatewayError

/-- The wording of a failed call. -/
def message : GatewayError → String
  | api status message => s!"remote API returned {status.toNat}: {message}"
  | transport reason => s!"request failed: {reason}"
  | decode reason => s!"failed to decode response: {reason}"
  | unsupported reason => reason

/-- The status that was answered. -/
def status? : GatewayError → Option UInt16
  | api status _ => some status
  | _ => none

/-- The resource does not exist. -/
def isNotFound (error : GatewayError) : Bool :=
  error.status? = some 404

/-- The resource exists already. -/
def isConflict (error : GatewayError) : Bool :=
  error.status? = some 409

/-- The same call may succeed later: nothing was answered, or too many calls were made, or the other side
failed by itself. -/
def isRetryable : GatewayError → Bool
  | transport _ => true
  | api status _ => status = 429 || 500 ≤ status
  | decode _ => false
  | unsupported _ => false

end GatewayError

/-- The answer of a call, with nothing in place of what does not exist. -/
def absentIfNotFound {α : Type} (answer : Except GatewayError α) : Except GatewayError (Option α) :=
  match answer with
  | .ok value => .ok (some value)
  | .error error => if error.isNotFound then .ok none else .error error

/-! ## Contexts -/

/-- Why a context cannot be resumed. -/
inductive ContextError where
  | missingKey (key : String)
  | unsupportedVersion (value : String)
  | wrongTarget (expected found : String)
  | unknownPhase (tag : String)
  | wrongType (key : String)
  | nonPrimitive (key : String)
  | invalidStartTime (value : String)
  | invalidIdentifiers (reason : String)
  deriving DecidableEq, Repr

/-- The wording of a rejected context. -/
def ContextError.message : ContextError → String
  | missingKey key => s!"missing key `{key}`"
  | unsupportedVersion value => s!"unsupported version {value}"
  | wrongTarget expected found => s!"context belongs to {found}, expected {expected}"
  | unknownPhase tag => s!"unknown phase `{tag}`"
  | wrongType key => s!"key `{key}` has the wrong type"
  | nonPrimitive key => s!"key `{key}` holds a non-primitive value"
  | invalidStartTime value => s!"invalid start time `{value}`"
  | invalidIdentifiers reason => s!"invalid identifiers: {reason}"

/-! ## Steps

The rejections, absences, faults and overruns of the families are told apart. Of each there is one more (`stated`) for
lifecycles that are not of a family, in words of their own.
-/

/-- Why an input is rejected. -/
inductive Rejection where
  | missing (field : String)
  | missingWorkspace
  | missingParent (field : String)
  | invalidModel (error : ReadError)
  | invalidPipeline (error : ReadError)
  | missingShards
  | reservedLabel (key : String)
  | unknownState (text : String)
  | initialState
  | unreachableState (tag : String)
  | stopBeforeStart
  | backToCreated (current : String)
  | noSubnets
  | endpointUpdate
  | exportUpdate
  | unsupported (label operation : String)
  | unknownFamily (text : String)
  /-- The reason of another lifecycle, in its words. -/
  | stated (reason : String)
  deriving DecidableEq, Repr

/-- The wording of a rejection. -/
def Rejection.message : Rejection → String
  | missing field => s!"{field} is required"
  | missingWorkspace => "workspaceName or instanceName is required"
  | missingParent field => s!"{field} is required to list resources"
  | invalidModel error => s!"invalid resource model: {error.message}"
  | invalidPipeline error => s!"pipeline must be a JSON array of stages: {error.message}"
  | missingShards => "clusterType and numShards must be set when replicationSpecs is set"
  | reservedLabel key => s!"you should not set `{key}` label, it is used for internal purposes"
  | unknownState text => s!"unknown stream processor state: {text}"
  | initialState => "When creating a stream processor, the only valid states are CREATED and STARTED"
  | unreachableState tag => s!"Stream Processor cannot transition to {tag}"
  | stopBeforeStart => "Stream Processor must be in STARTED state to transition to STOPPED state"
  | backToCreated current => s!"Stream Processor cannot transition from {current} to CREATED"
  | noSubnets => "subnetIds must contain at least one subnet"
  | endpointUpdate => "private endpoints cannot be updated, only created or deleted"
  | exportUpdate => "export jobs cannot be updated"
  | unsupported label operation => s!"unsupported {label} operation: {operation}"
  | unknownFamily text =>
    s!"unknown resource family `{text}` (expected one of: " ++ String.intercalate ", " (Tagged.tags Family) ++ ")"
  | stated reason => reason

/-- What does not exist although it has to. -/
inductive Absence where
  | resource (name : String)
  | whileWaiting (label phase : String)
  /-- What another lifecycle misses, in its words. -/
  | stated (reason : String)
  deriving DecidableEq, Repr

/-- The wording of an absence. -/
def Absence.message : Absence → String
  | resource name => s!"{name} not found"
  | whileWaiting label phase => s!"{label} not found while waiting in phase {phase}"
  | stated reason => reason

/-- How a resource got into a state from which it cannot reach the awaited one. -/
inductive RemoteFault where
  | clusterLeaves (name state : String)
  | processorFailed
  | processorNotCreated (state : String)
  | processorAstray (phase state : String)
  | serviceFailed (status : String) (reason : Option String)
  | serviceUnnamed (id : String)
  | networkEndpointDead (id state : String)
  | networkEndpointStays (id : String)
  | interfaceFailed (id status : String) (reason : Option String)
  | exportFailed (id state : String)
  | unexpectedObservation (phase observation : String)
  /-- The fault that another lifecycle sees, in its words. -/
  | stated (reason : String)
  deriving DecidableEq, Repr

/-- The wording of a fault. -/
def RemoteFault.message : RemoteFault → String
  | clusterLeaves name state => s!"Cluster {name} entered {state} state while waiting for IDLE"
  | processorFailed => "Stream processor entered FAILED state"
  | processorNotCreated state => s!"Unexpected state during creation: {state}"
  | processorAstray phase state => s!"Unexpected state while waiting in {phase}: {state}"
  | serviceFailed status reason =>
    s!"Endpoint service entered {status} state: " ++ reason.getD "no error message"
  | serviceUnnamed id => s!"endpoint service {id} is available but reports no endpointServiceName"
  | networkEndpointDead id state => s!"Network endpoint {id} entered {state} state"
  | networkEndpointStays id => s!"Network endpoint {id} failed to delete"
  | interfaceFailed id status reason =>
    s!"Interface endpoint {id} connection is {status}: " ++ reason.getD "no error message"
  | exportFailed id state => s!"Export job {id} is {state}"
  | unexpectedObservation phase observation => s!"unexpected observation in phase {phase}: {observation}"
  | stated reason => reason

/-- What became of a half-created resource after time ran out. -/
inductive CleanupReport where
  | deleted
  | failed (reason : String)
  | notAttempted
  deriving DecidableEq, Repr

/-- What took too long. -/
inductive Overrun where
  | waiting (resource : String) (operation : Operation) (report : CleanupReport)
  /-- What took too long for another lifecycle, in its words. -/
  | stated (reason : String)
  deriving DecidableEq, Repr

/-- The wording of what was done about an overrun. -/
def CleanupReport.message : CleanupReport → String
  | deleted =>
    "Resource has been deleted because delete-on-timeout is enabled. " ++
      "If you suspect a transient error, wait before retrying to allow resource deletion to finish."
  | failed reason =>
    s!"Cleanup was attempted because delete-on-timeout is enabled but failed: {reason}. " ++
      "The resource may need to be removed manually."
  | notAttempted => "Cleanup was not performed because delete-on-timeout is disabled."

/-- The wording of an overrun. -/
def Overrun.message : Overrun → String
  | waiting resource operation report =>
    s!"Timeout reached when waiting for {resource} {operation.noun}. {report.message}"
  | stated reason => reason

/-- Why a step fails. -/
inductive ProvisionError where
  | validation (cause : Rejection)
  | notFound (cause : Absence)
  | gateway (cause : GatewayError)
  | remoteFailure (cause : RemoteFault)
  | timeout (cause : Overrun)
  | context (cause : ContextError)
  deriving DecidableEq, Repr

namespace ProvisionError

/-- The wording of a failure. -/
def message : ProvisionError → String
  | validation cause => cause.message
  | notFound cause => cause.message
  | gateway cause => cause.message
  | remoteFailure cause => cause.message
  | timeout cause => cause.message
  | context cause => s!"error parsing continuation context: {cause.message}"

/-- The category of a failure. -/
def category : ProvisionError → ErrorCategory
  | validation _ => .validation
  | notFound _ => .notFound
  | gateway cause => if cause.isConflict then .conflict else if cause.isNotFound then .notFound else .remote
  | remoteFailure _ => .remote
  | timeout _ => .timeout
  | context _ => .malformedContext

/-- The same step may succeed later. -/
def isRetryable : ProvisionError → Bool
  | gateway cause => cause.isRetryable
  | _ => false

end ProvisionError

end Provisioner
