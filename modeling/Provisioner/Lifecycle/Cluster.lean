import Provisioner.Lifecycle.Basic
import Provisioner.Text.Outline

/-!
# Clusters

A cluster that is created or changed is waited for until it is idle; then its process settings are applied, if
there are any, and then it is paused or resumed, if it is not as it should be, with a wait after each. A
cluster that is deleted is waited for until it is gone.
-/
namespace Provisioner

/-- What an operation on a cluster waits for. -/
inductive ClusterPhase where
  | creating
  | updating
  | configuring
  | pausing
  | deleting
  deriving DecidableEq, Repr

instance : Tagged ClusterPhase where
  variants := [.creating, .updating, .configuring, .pausing, .deleting]
  tag
    | .creating => "CREATING"
    | .updating => "UPDATING"
    | .configuring => "CONFIGURING"
    | .pausing => "PAUSING"
    | .deleting => "DELETING"

/-- What is remembered of a cluster between phases. -/
structure ClusterIds where
  projectId : String
  clusterName : String
  /-- Whether the cluster is to be paused, while that is waited for. -/
  targetPaused : Option Bool := none
  deriving DecidableEq, Repr

namespace ClusterIds

/-- How the identifiers are read and written. -/
def record : Record ClusterIds where
  name := "ClusterIds"
  strict := true
  fields :=
    .cons (.required "projectId" .string) <|
    .cons (.required "clusterName" .string) <|
    .cons { Field.optional "targetPaused" .bool with presence := .defaulted none } .none
  ofRow := fun (projectId, clusterName, targetPaused, ()) => { projectId, clusterName, targetPaused }
  toRow := fun ids => (ids.projectId, ids.clusterName, ids.targetPaused, ())

/-- The identifiers as a document. -/
def shape : Shape ClusterIds := record.shape

/-- The identifiers that a model gives. -/
def ofModel (model : ClusterModel) : Except ProvisionError ClusterIds := do
  let projectId ← required "projectId" model.projectId
  let clusterName ← required "name" model.name
  return { projectId, clusterName }

end ClusterIds

namespace ClusterLifecycle

/-- The state of a cluster that is ready for the next call. -/
def idle : String := "IDLE"

/-- The state of a cluster that is being deleted. -/
def deleting : String := "DELETING"

/-- The state of a cluster that is gone but still reported. -/
def deleted : String := "DELETED"

/-- The reserved label is not for callers, and a cluster with zones needs to say what it is made of. -/
def validate (reserved : Label) (operation : Operation) (model : ClusterModel) : Except ProvisionError Unit := do
  let _ ← ClusterIds.ofModel model
  if operation = .delete then return ()
  if let some specs := model.replicationSpecs then
    if model.clusterType.isNone || specs.any (·.numShards.isNone) then
      .error (.validation .missingShards)
  if (model.labels.getD []).any (·.key = reserved.key) then
    .error (.validation (.reservedLabel reserved.key))

/-- Reads a cluster. -/
def look (ids : ClusterIds) : Action (Observation RemoteCluster) := do
  Observation.ofAnswer (← Action.control? (.getCluster ids.projectId ids.clusterName))

/-- The request that creates a cluster; it carries the reserved label. -/
def creation (reserved : Label) (model : ClusterModel) : ClusterRequest :=
  { model.toRequest with labels := some (model.labels.getD [] ++ [reserved]) }

/-- Creates, changes or deletes a cluster. -/
def start (reserved : Label) (operation : Operation) (model : ClusterModel) :
    Action (Transition ClusterPhase ClusterIds ClusterModel) := do
  let ids ← ClusterIds.ofModel model
  match operation with
  | .create =>
    Program.info "Creating cluster"
    let _ ← Action.control (.createCluster ids.projectId (creation reserved model))
    return .proceed .creating ids "Cluster creation requested"
  | .update =>
    Program.info "Updating cluster"
    let _ ← Action.control (.updateCluster ids.projectId ids.clusterName model.toRequest)
    return .proceed .updating ids "Cluster update requested"
  | .delete =>
    Program.info "Deleting cluster"
    match ← Action.control? (.deleteCluster ids.projectId ids.clusterName) with
    | .ok () => return .proceed .deleting ids "Cluster deletion requested"
    | .error error =>
      if error.isNotFound then return .complete none "cluster does not exist"
      else .fail (.gateway error)

/-- The process settings that are still to be applied after a phase. -/
def pendingArgs? (phase : ClusterPhase) (model : ClusterModel) : Option ProcessArgs :=
  match phase with
  | .creating => model.advancedSettings
  | .updating => model.advancedSettings
  | _ => none

/-- Whether the cluster is to be paused or resumed after a phase. -/
def pendingPause? (phase : ClusterPhase) (model : ClusterModel) (remote : RemoteCluster) : Option Bool :=
  if phase = .pausing then none else model.paused.filter (· ≠ remote.isPaused)

/-- The next call on an idle cluster, if one is left. -/
def afterIdle (reserved : Label) (phase : ClusterPhase) (ids : ClusterIds) (model : ClusterModel)
    (remote : RemoteCluster) : Action (Transition ClusterPhase ClusterIds ClusterModel) :=
  match pendingArgs? phase model, pendingPause? phase model remote with
  | some args, _ => do
    Program.info "Applying advanced settings"
    let _ ← Action.control (.updateProcessArgs ids.projectId ids.clusterName args)
    return .proceed .configuring ids "Applying advanced configuration"
  | none, some paused => do
    Program.info "Changing paused state"
    let _ ← Action.control (.updateCluster ids.projectId ids.clusterName { paused := some paused })
    return .proceed .pausing { ids with targetPaused := some paused } s!"Setting paused to {paused}"
  | none, none =>
    return .complete (some (model.merge reserved remote)) s!"Cluster {ids.clusterName} is {remote.stateName}"

/-- What follows a phase that is reached. An idle cluster whose pausing does not show yet is waited for. -/
def advance (reserved : Label) (phase : ClusterPhase) (ids : ClusterIds) (model : ClusterModel)
    (remote : Option RemoteCluster) : Action (Transition ClusterPhase ClusterIds ClusterModel) :=
  match phase, remote with
  | .deleting, _ => return .complete none s!"Cluster {ids.clusterName} deleted"
  | phase, some remote =>
    if phase = .pausing ∧ some remote.isPaused ≠ ids.targetPaused then
      return .proceed phase ids s!"Waiting for paused to become {Text.outlineOption Text.outlineBool ids.targetPaused}"
    else afterIdle reserved phase ids model remote
  | _, none => .fail (.notFound (.resource s!"cluster {ids.clusterName}"))

/-- A cluster is ready when it is idle, and gone when it is deleted. -/
def isReached (phase : ClusterPhase) (remote : RemoteCluster) : Bool :=
  match phase with
  | .deleting => remote.stateName = deleted
  | _ => remote.stateName = idle

/-- A cluster that someone else deletes is not going to be ready. -/
def fault? (phase : ClusterPhase) (remote : RemoteCluster) : Option RemoteFault :=
  if phase ≠ .deleting ∧ (remote.stateName = deleting ∨ remote.stateName = deleted) then
    some (.clusterLeaves remote.name remote.stateName)
  else none

end ClusterLifecycle

open ClusterLifecycle in
/-- How operations on clusters go. -/
def clusterLifecycle (reserved : Label) (operation : Operation) :
    Lifecycle ClusterModel ClusterPhase ClusterIds RemoteCluster where
  family := .cluster
  operation := operation
  ids := ClusterIds.shape
  validate := validate reserved operation
  inspect model := do
    if operation = .create then return none
    return some (← look (← ClusterIds.ofModel model))
  start model _ := start reserved operation model
  observe _ ids := look ids
  awaitsAbsence phase := phase = .deleting
  isReached := isReached
  fault? := fault?
  advance := advance reserved

namespace ClusterLifecycle

/-- The model of an existing cluster. -/
def read (reserved : Label) (model : ClusterModel) : Action ClusterModel := do
  let ids ← ClusterIds.ofModel model
  match ← look ids with
  | .found remote => return model.merge reserved remote
  | .absent => .fail (.notFound (.resource s!"cluster {ids.clusterName}"))

/-- The models of all clusters of a project. -/
def list (reserved : Label) (projectId : String) : Action (List ClusterModel) := do
  let clusters ← Action.control (.listClusters projectId)
  return clusters.map (ClusterModel.ofRemote reserved projectId)

end ClusterLifecycle

end Provisioner
