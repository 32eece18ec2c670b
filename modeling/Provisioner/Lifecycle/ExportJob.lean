import Provisioner.Lifecycle.Basic

/-!
# Export jobs

An export job that is created is waited for until it is complete. No call removes a job: deleting one waits
until it is over in one way or another, and a job that is over already or unknown needs no wait.
-/
namespace Provisioner

/-- What an operation on an export job waits for. -/
inductive ExportJobPhase where
  | exporting
  | deleting
  deriving DecidableEq, Repr

instance : Tagged ExportJobPhase where
  variants := [.exporting, .deleting]
  tag
    | .exporting => "EXPORTING"
    | .deleting => "DELETING"

/-- What is remembered of an export job between phases. -/
structure ExportJobIds where
  projectId : String
  clusterName : String
  exportId : String
  deriving DecidableEq, Repr

namespace ExportJobIds

/-- How the identifiers are read and written. -/
def record : Record ExportJobIds where
  name := "ExportJobIds"
  strict := true
  fields :=
    .cons (.required "projectId" .string) <|
    .cons (.required "clusterName" .string) <|
    .cons (.required "exportId" .string) .none
  ofRow := fun (projectId, clusterName, exportId, ()) => { projectId, clusterName, exportId }
  toRow := fun ids => (ids.projectId, ids.clusterName, ids.exportId, ())

/-- The identifiers as a document. -/
def shape : Shape ExportJobIds := record.shape

end ExportJobIds

namespace ExportJobLifecycle

/-- The job ended without an export. -/
def isLost (job : RemoteExportJob) : Bool :=
  job.state = "Failed" || job.state = "Cancelled"

/-- The job is over. -/
def isOver (completion : String) (job : RemoteExportJob) : Bool :=
  job.state = completion || isLost job

/-- A job to create needs a snapshot and a bucket, a job to delete an id. -/
def validate (operation : Operation) (model : ExportJobModel) : Except ProvisionError Unit := do
  let _ ← required "projectId" model.projectId
  let _ ← required "clusterName" model.clusterName
  match operation with
  | .create =>
    let _ ← required "snapshotId" model.snapshotId
    let _ ← required "exportBucketId" model.exportBucketId
  | .delete => let _ ← required "exportId" model.exportId
  | .update => .error (.validation .exportUpdate)

/-- Reads an export job. -/
def look (ids : ExportJobIds) : Action (Observation RemoteExportJob) := do
  Observation.ofAnswer (← Action.control? (.getExport ids.projectId ids.clusterName ids.exportId))

/-- The identifiers that the model of an existing job gives. -/
def idsOfModel (model : ExportJobModel) : Except ProvisionError ExportJobIds := do
  let projectId ← required "projectId" model.projectId
  let clusterName ← required "clusterName" model.clusterName
  let exportId ← required "exportId" model.exportId
  return { projectId, clusterName, exportId }

/-- Creates an export job, or waits for one that is not over. -/
def start (completion : String) (operation : Operation) (model : ExportJobModel)
    (current : Option RemoteExportJob) : Action (Transition ExportJobPhase ExportJobIds ExportJobModel) := do
  let projectId ← required "projectId" model.projectId
  let clusterName ← required "clusterName" model.clusterName
  match operation, current with
  | .create, _ =>
    let snapshotId ← required "snapshotId" model.snapshotId
    let exportBucketId ← required "exportBucketId" model.exportBucketId
    Program.info "Creating export job"
    let job ← Action.control
      (.createExport projectId clusterName
        { snapshotId, exportBucketId, customData := model.customData.getD [] })
    return .proceed .exporting { projectId, clusterName, exportId := job.id }
      s!"Export job created, state {job.state}"
  | .delete, some job =>
    if isOver completion job then return .complete none s!"Export job {job.id} already {job.state}"
    else
      return .proceed .deleting { projectId, clusterName, exportId := job.id }
        s!"Waiting for export job {job.id} to finish"
  | operation, _ => .fail (.validation (.unsupported Family.exportJob.label operation.tag))

/-- An export is awaited until it is complete, a deletion until the job is over. -/
def isReached (completion : String) (phase : ExportJobPhase) (job : RemoteExportJob) : Bool :=
  match phase with
  | .exporting => job.state = completion
  | .deleting => isOver completion job

/-- A lost job will not be complete. -/
def fault? (phase : ExportJobPhase) (job : RemoteExportJob) : Option RemoteFault :=
  match phase with
  | .exporting => if isLost job then some (.exportFailed job.id job.state) else none
  | .deleting => none

/-- What follows a phase that is reached. -/
def advance (phase : ExportJobPhase) (model : ExportJobModel) (remote : Option RemoteExportJob) :
    Action (Transition ExportJobPhase ExportJobIds ExportJobModel) :=
  match phase, remote with
  | .exporting, some job => return .complete (some (model.merge job)) s!"Export job {job.id} completed"
  | .exporting, none => .fail (.notFound (.resource Family.exportJob.label))
  | .deleting, _ => return .complete none "Export job finished"

end ExportJobLifecycle

open ExportJobLifecycle in
/-- How operations on export jobs go. A job is complete in the state named `completion`. -/
def exportJobLifecycle (completion : String) (operation : Operation) :
    Lifecycle ExportJobModel ExportJobPhase ExportJobIds RemoteExportJob where
  family := .exportJob
  operation := operation
  ids := ExportJobIds.shape
  validate := validate operation
  inspect model := do
    if operation ≠ .delete then return none
    return some (← look (← idsOfModel model))
  start := start completion operation
  observe _ ids := look ids
  awaitsAbsence phase := phase = .deleting
  isReached := isReached completion
  fault? := fault?
  advance phase _ model remote := advance phase model remote

namespace ExportJobLifecycle

/-- The model of an existing export job. -/
def read (model : ExportJobModel) : Action ExportJobModel := do
  let ids ← idsOfModel model
  match ← look ids with
  | .found job => return model.merge job
  | .absent => .fail (.notFound (.resource s!"export job {ids.exportId}"))

/-- The models of all export jobs of a cluster. -/
def list (projectId clusterName : String) : Action (List ExportJobModel) := do
  let jobs ← Action.control (.listExports projectId clusterName)
  return jobs.map (ExportJobModel.ofRemote projectId clusterName)

end ExportJobLifecycle

end Provisioner
