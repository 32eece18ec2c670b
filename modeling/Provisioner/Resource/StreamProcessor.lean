import Provisioner.Resource.Label
import Provisioner.Tag

/-!
# Stream processors

The records of stream processors, the states they report, and the workspace that a model names. A model may
name its workspace by either of two fields; `StreamProcessorModel.workspace` says which one counts.
-/
namespace Provisioner

/-- A state of a stream processor. -/
inductive StreamProcessorState where
  | init
  | creating
  | created
  | started
  | stopped
  | dropped
  | failed
  deriving DecidableEq, Repr

namespace StreamProcessorState

instance : Tagged StreamProcessorState where
  variants := [init, creating, created, started, stopped, dropped, failed]
  tag
    | init => "INIT"
    | creating => "CREATING"
    | created => "CREATED"
    | started => "STARTED"
    | stopped => "STOPPED"
    | dropped => "DROPPED"
    | failed => "FAILED"

/-- The state with a tag. -/
def ofTag? (text : String) : Option StreamProcessorState := Tagged.ofTag? text

/-- The tag of a state. -/
def tag (state : StreamProcessorState) : String := Tagged.tag state

/-- A state as a document. -/
def shape : Shape StreamProcessorState := .tagged StreamProcessorState

end StreamProcessorState

/-- Where documents go that could not be processed. -/
structure DeadLetterQueue where
  coll : String
  connectionName : String
  db : String
  deriving DecidableEq, Repr

namespace DeadLetterQueue

/-- How dead letter queues are read and written. -/
def record : Record DeadLetterQueue where
  name := "DeadLetterQueue"
  fields :=
    .cons (.required "coll" .string) <|
    .cons (.required "connectionName" .string) <|
    .cons (.required "db" .string) .none
  ofRow := fun (coll, connectionName, db, ()) => { coll, connectionName, db }
  toRow := fun queue => (queue.coll, queue.connectionName, queue.db, ())

/-- A dead letter queue as a document. -/
def shape : Shape DeadLetterQueue := record.shape

end DeadLetterQueue

/-- Options of a stream processor. -/
structure StreamsOptions where
  dlq : Option DeadLetterQueue := none
  deriving DecidableEq, Repr

namespace StreamsOptions

/-- How options are read and written. -/
def record : Record StreamsOptions where
  name := "StreamsOptions"
  fields := .cons (.optional "dlq" DeadLetterQueue.shape) .none
  ofRow := fun (dlq, ()) => { dlq }
  toRow := fun options => (options.dlq, ())

/-- Options as a document. -/
def shape : Shape StreamsOptions := record.shape

end StreamsOptions

/-- A stream processor as a caller wants it; the last two fields are assigned by the control plane. -/
structure StreamProcessorModel where
  projectId : Option String := none
  workspaceName : Option String := none
  /-- An older name of the workspace. -/
  instanceName : Option String := none
  processorName : Option String := none
  /-- The stages of the pipeline, as the text of a JSON array. -/
  pipeline : Option String := none
  /-- The state to reach in the end. -/
  state : Option String := none
  options : Option StreamsOptions := none
  timeouts : Option Timeouts := none
  /-- Whether a processor is deleted again that was not created in time. -/
  deleteOnCreateTimeout : Option Bool := none
  id : Option String := none
  /-- Statistics, as the text of a JSON value. -/
  stats : Option String := none
  deriving DecidableEq, Repr

namespace StreamProcessorModel

/-- How stream processor models are read and written. -/
def record : Record StreamProcessorModel where
  name := "StreamProcessorModel"
  fields :=
    .cons (.nullable "projectId" .string) <|
    .cons (.nullable "workspaceName" .string) <|
    .cons (.nullable "instanceName" .string) <|
    .cons (.nullable "processorName" .string) <|
    .cons (.nullable "pipeline" .string) <|
    .cons (.nullable "state" .string) <|
    .cons (.nullable "options" StreamsOptions.shape) <|
    .cons (.nullable "timeouts" Timeouts.shape) <|
    .cons (.nullable "deleteOnCreateTimeout" .bool) <|
    .cons (.nullable "id" .string) <|
    .cons (.nullable "stats" .string) .none
  ofRow := fun (projectId, workspaceName, instanceName, processorName, pipeline, state, options, timeouts,
      deleteOnCreateTimeout, id, stats, ()) =>
    { projectId, workspaceName, instanceName, processorName, pipeline, state, options, timeouts,
      deleteOnCreateTimeout, id, stats }
  toRow := fun model =>
    (model.projectId, model.workspaceName, model.instanceName, model.processorName, model.pipeline, model.state,
      model.options, model.timeouts, model.deleteOnCreateTimeout, model.id, model.stats, ())

/-- A stream processor model as a document. -/
def shape : Shape StreamProcessorModel := record.shape

/-- The workspace: the newer name if it is there, else the older one, and none if that name is empty. -/
def workspace (model : StreamProcessorModel) : Option String :=
  (model.workspaceName.orElse fun _ => model.instanceName).filter (· ≠ "")

/-- The model with its workspace under both names. -/
def withWorkspace (model : StreamProcessorModel) : StreamProcessorModel :=
  match model.workspace with
  | some name => { model with workspaceName := some name, instanceName := some name }
  | none => model

end StreamProcessorModel

/-- The body of a call that creates or changes a stream processor. -/
structure StreamProcessorRequest where
  name : String
  pipeline : List Json
  options : Option StreamsOptions := none
  deriving Repr

namespace StreamProcessorRequest

/-- How stream processor requests are read and written. -/
def record : Record StreamProcessorRequest where
  name := "StreamProcessorRequest"
  fields :=
    .cons (.required "name" .string) <|
    .cons (.required "pipeline" Shape.any.list) <|
    .cons (.optional "options" StreamsOptions.shape) .none
  ofRow := fun (name, pipeline, options, ()) => { name, pipeline, options }
  toRow := fun request => (request.name, request.pipeline, request.options, ())

/-- A stream processor request as a document. -/
def shape : Shape StreamProcessorRequest := record.shape

end StreamProcessorRequest

/-- A stream processor as the control plane reports it. -/
structure RemoteStreamProcessor where
  id : Option String := none
  name : String
  pipeline : List Json := []
  state : String
  options : Option StreamsOptions := none
  stats : Option Json := none
  deriving Repr

namespace RemoteStreamProcessor

/-- How reported stream processors are read and written. -/
def record : Record RemoteStreamProcessor where
  name := "RemoteStreamProcessor"
  fields :=
    .cons (.nullable "_id" .string) <|
    .cons (.required "name" .string) <|
    .cons (.listed "pipeline" .any) <|
    .cons (.required "state" .string) <|
    .cons (.nullable "options" StreamsOptions.shape) <|
    .cons (.nullable "stats" .any) .none
  ofRow := fun (id, name, pipeline, state, options, stats, ()) => { id, name, pipeline, state, options, stats }
  toRow := fun remote =>
    (remote.id, remote.name, remote.pipeline, remote.state, remote.options, remote.stats, ())

/-- A reported stream processor as a document. -/
def shape : Shape RemoteStreamProcessor := record.shape

/-- The reported state, if it is one of the known ones. -/
def knownState? (remote : RemoteStreamProcessor) : Option StreamProcessorState :=
  StreamProcessorState.ofTag? remote.state

end RemoteStreamProcessor

namespace StreamProcessorModel

/-- A model with what the control plane assigned. -/
def merge (model : StreamProcessorModel) (remote : RemoteStreamProcessor) : StreamProcessorModel :=
  { model with
    id := remote.id
    state := some remote.state
    stats := remote.stats.map Json.text
    options := remote.options.orElse fun _ => model.options }.withWorkspace

/-- The model that a reported stream processor of a workspace amounts to. -/
def ofRemote (projectId workspace : String) (remote : RemoteStreamProcessor) : StreamProcessorModel :=
  merge
    { projectId := some projectId
      workspaceName := some workspace
      processorName := some remote.name
      pipeline := some (Json.array remote.pipeline).text }
    remote

end StreamProcessorModel

end Provisioner
