import Provisioner.Lifecycle.Basic

/-!
# Stream processors

A stream processor that is created is waited for until it exists; one that runs is stopped before it is
changed. After either it is started if the caller wants it to run. Creation has a time budget, and a processor
that was not created in time is deleted again unless the caller says otherwise. A processor that is deleted is
waited for until it is gone.
-/
namespace Provisioner

/-- What an operation on a stream processor waits for. -/
inductive StreamProcessorPhase where
  | creating
  | stopping
  | updating
  | starting
  | deleting
  deriving DecidableEq, Repr

instance : Tagged StreamProcessorPhase where
  variants := [.creating, .stopping, .updating, .starting, .deleting]
  tag
    | .creating => "CREATING"
    | .stopping => "STOPPING"
    | .updating => "UPDATING"
    | .starting => "STARTING"
    | .deleting => "DELETING"

/-- What is remembered of a stream processor between phases. -/
structure StreamProcessorIds where
  projectId : String
  workspaceName : String
  processorName : String
  /-- Whether the processor is still to be started. -/
  needsStarting : Bool := false
  deriving DecidableEq, Repr

namespace StreamProcessorIds

/-- How the identifiers are read and written. -/
def record : Record StreamProcessorIds where
  name := "StreamProcessorIds"
  strict := true
  fields :=
    .cons (.required "projectId" .string) <|
    .cons (.required "workspaceName" .string) <|
    .cons (.required "processorName" .string) <|
    .cons { name := "needsStarting", shape := .bool, presence := .defaulted false } .none
  ofRow := fun (projectId, workspaceName, processorName, needsStarting, ()) =>
    { projectId, workspaceName, processorName, needsStarting }
  toRow := fun ids => (ids.projectId, ids.workspaceName, ids.processorName, ids.needsStarting, ())

/-- The identifiers as a document. -/
def shape : Shape StreamProcessorIds := record.shape

/-- The identifiers that a model gives. -/
def ofModel (model : StreamProcessorModel) : Except ProvisionError StreamProcessorIds := do
  match model.workspace with
  | none => .error (.validation .missingWorkspace)
  | some workspaceName =>
    let projectId ← required "projectId" model.projectId
    let processorName ← required "processorName" model.processorName
    return { projectId, workspaceName, processorName }

end StreamProcessorIds

namespace StreamProcessorLifecycle

/-- The state that a model asks for: to be created, unless it names another. -/
def plannedState (model : StreamProcessorModel) : Except ProvisionError StreamProcessorState :=
  match model.state with
  | none => .ok .created
  | some text =>
    if text = "" then .ok .created
    else
      match StreamProcessorState.ofTag? text with
      | some state => .ok state
      | none => .error (.validation (.unknownState text))

/-- A stream processor in a state can get into a planned one. -/
def checkTransition (current : String) (planned : StreamProcessorState) : Except ProvisionError Unit :=
  if current = planned.tag then .ok ()
  else
    match planned with
    | .stopped =>
      if current = StreamProcessorState.started.tag then .ok () else .error (.validation .stopBeforeStart)
    | .started => .ok ()
    | .created => .error (.validation (.backToCreated current))
    | other => .error (.validation (.unreachableState other.tag))

/-- The request that asks for a model. -/
def request (model : StreamProcessorModel) : Except ProvisionError StreamProcessorRequest := do
  let text ← required "pipeline" model.pipeline
  match Shape.any.list.ofText text with
  | .error error => .error (.validation (.invalidPipeline error))
  | .ok pipeline =>
    let name ← required "processorName" model.processorName
    return { name, pipeline, options := model.options }

/-- A model has to name a workspace, a state that the operation can lead to, and a pipeline. -/
def validate (operation : Operation) (model : StreamProcessorModel) : Except ProvisionError Unit := do
  let _ ← StreamProcessorIds.ofModel model
  match operation with
  | .delete => return ()
  | .create =>
    match ← plannedState model with
    | .created => let _ ← request model
    | .started => let _ ← request model
    | _ => .error (.validation .initialState)
  | .update =>
    match ← plannedState model with
    | .created => let _ ← request model
    | .started => let _ ← request model
    | .stopped => let _ ← request model
    | other => .error (.validation (.unreachableState other.tag))

/-- Only creation has a time budget. -/
def timeoutSettings (defaultBudget : String) (operation : Operation) (model : StreamProcessorModel) :
    Option TimeoutSettings :=
  if operation = .create then
    some
      { budget := some ((model.timeouts.bind (·.create)).getD defaultBudget)
        deleteOnTimeout := model.deleteOnCreateTimeout.getD true }
  else none

/-- Reads a stream processor. -/
def look (ids : StreamProcessorIds) : Action (Observation RemoteStreamProcessor) := do
  Observation.ofAnswer (← Action.control? (.getProcessor ids.projectId ids.workspaceName ids.processorName))

/-- Changes a stream processor that does not run. -/
def change (ids : StreamProcessorIds) (model : StreamProcessorModel) :
    Action (Transition StreamProcessorPhase StreamProcessorIds StreamProcessorModel) := do
  Program.info "Updating stream processor"
  let request ← request model
  let _ ← Action.control (.updateProcessor ids.projectId ids.workspaceName ids.processorName request)
  return .proceed .updating ids "Stream processor update requested"

/-- Starts a stream processor. -/
def startUp (ids : StreamProcessorIds) :
    Action (Transition StreamProcessorPhase StreamProcessorIds StreamProcessorModel) := do
  Program.info "Starting stream processor"
  Action.control (.startProcessor ids.projectId ids.workspaceName ids.processorName)
  return .proceed .starting ids "Stream processor start requested"

/-- Creates, changes or deletes a stream processor; one that runs is stopped before it is changed. -/
def start (operation : Operation) (model : StreamProcessorModel) (current : Option RemoteStreamProcessor) :
    Action (Transition StreamProcessorPhase StreamProcessorIds StreamProcessorModel) := do
  let ids ← StreamProcessorIds.ofModel model
  match operation with
  | .create =>
    let ids := { ids with needsStarting := (← plannedState model) = .started }
    Program.info "Creating stream processor"
    let request ← request model
    let _ ← Action.control (.createProcessor ids.projectId ids.workspaceName request)
    return .proceed .creating ids "Stream processor creation requested"
  | .update =>
    let ids := { ids with needsStarting := (← plannedState model) = .started }
    if current.bind (·.knownState?) = some .started then
      Program.info "Stopping stream processor before update"
      Action.control (.stopProcessor ids.projectId ids.workspaceName ids.processorName)
      return .proceed .stopping ids "Stream processor stop requested"
    else change ids model
  | .delete =>
    Program.info "Deleting stream processor"
    match ← Action.control? (.deleteProcessor ids.projectId ids.workspaceName ids.processorName) with
    | .ok () => return .proceed .deleting ids "Stream processor deletion requested"
    | .error error =>
      if error.isNotFound then return .complete none "stream processor does not exist"
      else .fail (.gateway error)

/-- The states in which a phase is reached. -/
def awaitedStates : StreamProcessorPhase → List StreamProcessorState
  | .creating => [.created, .started]
  | .stopping => [.stopped, .created]
  | .updating => [.created, .stopped, .started]
  | .starting => [.started]
  | .deleting => [.dropped]

/-- A phase is reached in its awaited states. -/
def isReached (phase : StreamProcessorPhase) (remote : RemoteStreamProcessor) : Bool :=
  match remote.knownState? with
  | some state => (awaitedStates phase).contains state
  | none => false

/-- A failed processor gets nowhere. While it is created nothing but its first states is expected; later it
must not be dropped or in an unknown state. -/
def fault? (phase : StreamProcessorPhase) (remote : RemoteStreamProcessor) : Option RemoteFault :=
  match phase, remote.knownState? with
  | _, some .failed => some .processorFailed
  | .deleting, _ => none
  | .creating, some .init => none
  | .creating, some .creating => none
  | .creating, _ => some (.processorNotCreated remote.state)
  | phase, some .dropped => some (.processorAstray (Tagged.tag phase) remote.state)
  | phase, none => some (.processorAstray (Tagged.tag phase) remote.state)
  | _, some _ => none

/-- The processor is still to be started after a phase. -/
def mustStart (phase : StreamProcessorPhase) (ids : StreamProcessorIds) (remote : RemoteStreamProcessor) : Bool :=
  (phase = .creating || phase = .updating) && ids.needsStarting && remote.knownState? ≠ some .started

/-- What follows a phase that is reached. -/
def advance (phase : StreamProcessorPhase) (ids : StreamProcessorIds) (model : StreamProcessorModel)
    (remote : Option RemoteStreamProcessor) :
    Action (Transition StreamProcessorPhase StreamProcessorIds StreamProcessorModel) :=
  match remote with
  | none => return .complete none s!"Stream processor {ids.processorName} deleted"
  | some remote =>
    if mustStart phase ids remote then startUp ids
    else
      match phase with
      | .stopping => change ids model
      | .deleting => return .complete none s!"Stream processor {ids.processorName} dropped"
      | _ => return .complete (some (model.merge remote)) s!"Stream processor {ids.processorName} is {remote.state}"

/-- Deletes a stream processor that was not created in time. -/
def cleanup (ids : StreamProcessorIds) : Action Unit := do
  Program.info "Deleting stream processor after timeout"
  match ← Action.control? (.deleteProcessor ids.projectId ids.workspaceName ids.processorName) with
  | .ok () => return ()
  | .error error => if error.isNotFound then return () else .fail (.gateway error)

end StreamProcessorLifecycle

open StreamProcessorLifecycle in
/-- How operations on stream processors go. -/
def streamProcessorLifecycle (defaultBudget : String) (operation : Operation) :
    Lifecycle StreamProcessorModel StreamProcessorPhase StreamProcessorIds RemoteStreamProcessor where
  family := .streamProcessor
  operation := operation
  ids := StreamProcessorIds.shape
  validate := validate operation
  timeoutSettings := timeoutSettings defaultBudget operation
  inspect model := do
    if operation = .create then return none
    return some (← look (← StreamProcessorIds.ofModel model))
  validateTransition current model :=
    match operation, current with
    | .update, some remote => do checkTransition remote.state (← plannedState model)
    | _, _ => .ok ()
  start := start operation
  observe _ ids := look ids
  awaitsAbsence phase := phase = .deleting
  isReached := isReached
  fault? := fault?
  advance := advance
  cleanup := cleanup

namespace StreamProcessorLifecycle

/-- The model of an existing stream processor. -/
def read (model : StreamProcessorModel) : Action StreamProcessorModel := do
  let ids ← StreamProcessorIds.ofModel model
  match ← look ids with
  | .found remote => return model.merge remote
  | .absent => .fail (.notFound (.resource s!"stream processor {ids.processorName}"))

/-- The models of all stream processors of a workspace. -/
def list (projectId workspace : String) : Action (List StreamProcessorModel) := do
  let processors ← Action.control (.listProcessors projectId workspace)
  return processors.map (StreamProcessorModel.ofRemote projectId workspace)

end StreamProcessorLifecycle

end Provisioner
