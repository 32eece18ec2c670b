import Provisioner.Lifecycle.Basic
import Provisioner.Budget
import Provisioner.Outcome

/-!
# Steps

One step of an operation. Without a context it is the first step: the model is checked and the first action
taken. With a context it looks whether the phase is reached. If not, the context goes back as it came; if so,
the next action is taken. An operation that is over time is ended instead, and what it began removed if the
caller wants that.
-/
namespace Provisioner

/-- How long to wait between steps, and the budget in place of one that is no duration. -/
structure StepSettings where
  pollDelay : Duration
  fallbackTimeout : Duration
  deriving DecidableEq, Repr

namespace StepSettings

/-- The budget where none can be read: twenty minutes. -/
def defaultFallbackTimeout : Duration := .ofSeconds 1200

/-- Settings with a delay and the usual fallback. -/
def ofDelay (pollDelay : Duration) : StepSettings :=
  { pollDelay, fallbackTimeout := defaultFallbackTimeout }

end StepSettings

namespace Lifecycle
variable {M P I R : Type} [Tagged P] (lifecycle : Lifecycle M P I R) (settings : StepSettings)

/-- What contexts of the lifecycle belong to. -/
def target : Target :=
  ⟨lifecycle.family.tag, lifecycle.operation⟩

/-- What messages call the resource. -/
def label : String := lifecycle.family.label

/-- The outcome of waiting in a phase. -/
def waiting (continuation : Continuation P I) (message : String) : Action (Outcome M) :=
  match Context.encode lifecycle.target lifecycle.ids continuation with
  | .ok context => .done (.inProgress context settings.pollDelay message)
  | .error error => .fail (.context error)

/-- The timing of an operation that starts now. -/
def timing (model : M) (now : Instant) : Option Timing :=
  (lifecycle.timeoutSettings model).map fun settings =>
    { startedAt := now, timeout := settings.budget, deleteOnTimeout := settings.deleteOnTimeout }

/-- Takes the first action on a resource that is there, or need not be. -/
def launch (fresh : OperationId) (model : M) (now : Instant) (current : Option R) : Action (Outcome M) := do
  lifecycle.validateTransition current model
  match ← lifecycle.start model current with
  | .proceed phase ids message =>
    Program.info message
    lifecycle.waiting settings { operationId := fresh, phase, ids, timing := lifecycle.timing model now } message
  | .complete model message => return .success model message

/-- The first step. Deleting what does not exist is a success. -/
def firstStep (fresh : OperationId) (model : M) (now : Instant) : Action (Outcome M) := do
  lifecycle.validate model
  match ← lifecycle.inspect model with
  | none => lifecycle.launch settings fresh model now none
  | some (.found remote) => lifecycle.launch settings fresh model now (some remote)
  | some .absent =>
    if lifecycle.operation = .delete then
      Program.info "Resource already absent, nothing to delete"
      return .success none s!"{lifecycle.label} does not exist"
    else .fail (.notFound (.resource lifecycle.label))

/-- Removes what an operation began that is over time, if the caller wants that. -/
def cleanUp (continuation : Continuation P I) : Action CleanupReport :=
  if (continuation.timing.map (·.deleteOnTimeout)).getD false then do
    match ← (lifecycle.cleanup continuation.ids).attempt (δ := ProvisionError) with
    | .ok () => return .deleted
    | .error error =>
      Program.warn s!"Cleanup after timeout failed: {error.message}"
      return .failed error.message
  else return .notAttempted

/-- Ends an operation that is over time. -/
def checkTime (continuation : Continuation P I) (now : Instant) : Action Unit :=
  match continuation.timing with
  | none => .done ()
  | some timing => do
    if let some warning := timing.timeout.bind Budget.warning? then
      Program.report warning
    if (Budget.exceeded? settings.fallbackTimeout timing now).isSome then
      Program.warn "Operation timed out"
      let report ← lifecycle.cleanUp continuation
      .fail (.timeout (.waiting lifecycle.label lifecycle.operation report))

/-- Acts on a phase that is reached. -/
def proceed (continuation : Continuation P I) (model : M) (remote : Option R) : Action (Outcome M) := do
  match ← lifecycle.advance continuation.phase continuation.ids model remote with
  | .proceed phase ids message =>
    Program.info message
    lifecycle.waiting settings (continuation.advance phase ids) message
  | .complete model message =>
    Program.info message
    return .success model message

/-- A step after the first. -/
def resume (continuation : Continuation P I) (model : M) (now : Instant) : Action (Outcome M) := do
  lifecycle.checkTime settings continuation now
  let phase := continuation.phase
  match ← lifecycle.observe phase continuation.ids with
  | .absent =>
    if lifecycle.awaitsAbsence phase then lifecycle.proceed settings continuation model none
    else .fail (.notFound (.whileWaiting lifecycle.label (Tagged.tag phase)))
  | .found remote =>
    if lifecycle.isReached phase remote then lifecycle.proceed settings continuation model (some remote)
    else
      match lifecycle.fault? phase remote with
      | some fault => .fail (.remoteFailure fault)
      | none =>
        lifecycle.waiting settings continuation
          s!"{lifecycle.label} {lifecycle.operation.noun} in progress ({Tagged.tag phase})"

/-- A step, the first one if the context is empty. -/
def tryStep (fresh : OperationId) (context : Fields) (model : M) (now : Instant) : Action (Outcome M) := do
  match Context.decode (P := P) lifecycle.target lifecycle.ids context with
  | .error error => .fail (.context error)
  | .ok none => lifecycle.firstStep settings fresh model now
  | .ok (some continuation) => lifecycle.resume settings continuation model now

/-- A step with its outcome, which may be a failure. -/
def step (fresh : OperationId) (context : Fields) (model : M) (now : Instant) :
    Program Gateway Empty (Outcome M) := do
  match ← (lifecycle.tryStep settings fresh context model now).attempt with
  | .ok outcome => return outcome
  | .error error =>
    Program.warn s!"Step failed: {error.message}"
    return .ofError error

end Lifecycle

end Provisioner
