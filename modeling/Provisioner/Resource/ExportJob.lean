import Provisioner.Json.Record

/-!
# Export jobs

The records of jobs that export a snapshot of a cluster into a bucket.
-/
namespace Provisioner

/-- A key and a value stored with an export. -/
structure CustomData where
  key : String
  value : String
  deriving DecidableEq, Repr

namespace CustomData

/-- How custom data is read and written. -/
def record : Record CustomData where
  name := "CustomData"
  fields := .cons (.required "key" .string) <| .cons (.required "value" .string) .none
  ofRow := fun (key, value, ()) => { key, value }
  toRow := fun datum => (datum.key, datum.value, ())

/-- Custom data as a document. -/
def shape : Shape CustomData := record.shape

end CustomData

/-- How far an export has come. -/
structure ExportStatus where
  exportedCollections : Option UInt64 := none
  totalCollections : Option UInt64 := none
  deriving DecidableEq, Repr

namespace ExportStatus

/-- How progress is read and written. -/
def record : Record ExportStatus where
  name := "ExportStatus"
  fields := .cons (.nullable "exportedCollections" .uint64) <| .cons (.nullable "totalCollections" .uint64) .none
  ofRow := fun (exportedCollections, totalCollections, ()) => { exportedCollections, totalCollections }
  toRow := fun status => (status.exportedCollections, status.totalCollections, ())

/-- Progress as a document. -/
def shape : Shape ExportStatus := record.shape

end ExportStatus

/-- An export job as a caller wants it; the last six fields are assigned by the control plane. -/
structure ExportJobModel where
  projectId : Option String := none
  clusterName : Option String := none
  snapshotId : Option String := none
  exportBucketId : Option String := none
  customData : Option (List CustomData) := none
  exportId : Option String := none
  createdAt : Option String := none
  finishedAt : Option String := none
  /-- Where in the bucket the export lies. -/
  location : Option String := none
  state : Option String := none
  exportStatus : Option ExportStatus := none
  deriving DecidableEq, Repr

namespace ExportJobModel

/-- How export job models are read and written. -/
def record : Record ExportJobModel where
  name := "ExportJobModel"
  fields :=
    .cons (.nullable "projectId" .string) <|
    .cons (.nullable "clusterName" .string) <|
    .cons (.nullable "snapshotId" .string) <|
    .cons (.nullable "exportBucketId" .string) <|
    .cons (.nullable "customData" CustomData.shape.list) <|
    .cons (.nullable "exportId" .string) <|
    .cons (.nullable "createdAt" .string) <|
    .cons (.nullable "finishedAt" .string) <|
    .cons (.nullable "prefix" .string) <|
    .cons (.nullable "state" .string) <|
    .cons (.nullable "exportStatus" ExportStatus.shape) .none
  ofRow := fun (projectId, clusterName, snapshotId, exportBucketId, customData, exportId, createdAt, finishedAt,
      location, state, exportStatus, ()) =>
    { projectId, clusterName, snapshotId, exportBucketId, customData, exportId, createdAt, finishedAt, location,
      state, exportStatus }
  toRow := fun model =>
    (model.projectId, model.clusterName, model.snapshotId, model.exportBucketId, model.customData,
      model.exportId, model.createdAt, model.finishedAt, model.location, model.state, model.exportStatus, ())

/-- An export job model as a document. -/
def shape : Shape ExportJobModel := record.shape

end ExportJobModel

/-- The body of the call that creates an export job. -/
structure ExportJobRequest where
  snapshotId : String
  exportBucketId : String
  customData : List CustomData := []
  deriving DecidableEq, Repr

namespace ExportJobRequest

/-- How export job requests are read and written. -/
def record : Record ExportJobRequest where
  name := "ExportJobRequest"
  fields :=
    .cons (.required "snapshotId" .string) <|
    .cons (.required "exportBucketId" .string) <|
    .cons (.unlessEmpty "customData" CustomData.shape.list) .none
  ofRow := fun (snapshotId, exportBucketId, customData, ()) => { snapshotId, exportBucketId, customData }
  toRow := fun request => (request.snapshotId, request.exportBucketId, request.customData, ())

/-- An export job request as a document. -/
def shape : Shape ExportJobRequest := record.shape

end ExportJobRequest

/-- An export job as the control plane reports it. -/
structure RemoteExportJob where
  id : String
  snapshotId : Option String := none
  exportBucketId : Option String := none
  createdAt : Option String := none
  finishedAt : Option String := none
  location : Option String := none
  state : String
  exportStatus : Option ExportStatus := none
  customData : List CustomData := []
  deriving DecidableEq, Repr

namespace RemoteExportJob

/-- How reported export jobs are read and written. -/
def record : Record RemoteExportJob where
  name := "RemoteExportJob"
  fields :=
    .cons (.required "id" .string) <|
    .cons (.nullable "snapshotId" .string) <|
    .cons (.nullable "exportBucketId" .string) <|
    .cons (.nullable "createdAt" .string) <|
    .cons (.nullable "finishedAt" .string) <|
    .cons (.nullable "prefix" .string) <|
    .cons (.required "state" .string) <|
    .cons (.nullable "exportStatus" ExportStatus.shape) <|
    .cons (.listed "customData" CustomData.shape) .none
  ofRow := fun (id, snapshotId, exportBucketId, createdAt, finishedAt, location, state, exportStatus,
      customData, ()) =>
    { id, snapshotId, exportBucketId, createdAt, finishedAt, location, state, exportStatus, customData }
  toRow := fun job =>
    (job.id, job.snapshotId, job.exportBucketId, job.createdAt, job.finishedAt, job.location, job.state,
      job.exportStatus, job.customData, ())

/-- A reported export job as a document. -/
def shape : Shape RemoteExportJob := record.shape

end RemoteExportJob

namespace ExportJobModel

/-- A model with what the control plane reports; what it does not report of the caller's fields stays. -/
def merge (model : ExportJobModel) (job : RemoteExportJob) : ExportJobModel :=
  { model with
    exportId := some job.id
    createdAt := job.createdAt
    finishedAt := job.finishedAt
    location := job.location
    state := some job.state
    exportStatus := job.exportStatus
    snapshotId := job.snapshotId.orElse fun _ => model.snapshotId
    exportBucketId := job.exportBucketId.orElse fun _ => model.exportBucketId
    customData := if job.customData.isEmpty then model.customData else some job.customData }

/-- The model that a reported export job of a cluster amounts to. -/
def ofRemote (projectId clusterName : String) (job : RemoteExportJob) : ExportJobModel :=
  merge { projectId := some projectId, clusterName := some clusterName } job

end ExportJobModel

end Provisioner
