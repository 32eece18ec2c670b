import Provisioner.Resource.Label

/-!
# Clusters

The records of database clusters: what a caller asks for, what is sent, and what the control plane reports.
What the control plane assigns is copied onto the caller's model by `ClusterModel.merge`.
-/
namespace Provisioner

/-- The size and number of the nodes of one kind. -/
structure HardwareSpec where
  instanceSize : String
  nodeCount : UInt32
  deriving DecidableEq, Repr

namespace HardwareSpec

/-- How node sizes are read and written. -/
def record : Record HardwareSpec where
  name := "HardwareSpec"
  fields := .cons (.required "instanceSize" .string) <| .cons (.required "nodeCount" .uint32) .none
  ofRow := fun (instanceSize, nodeCount, ()) => { instanceSize, nodeCount }
  toRow := fun spec => (spec.instanceSize, spec.nodeCount, ())

/-- A node size as a document. -/
def shape : Shape HardwareSpec := record.shape

end HardwareSpec

/-- The nodes of one region. -/
structure RegionConfig where
  providerName : String
  regionName : String
  priority : UInt32
  electableSpecs : Option HardwareSpec := none
  readOnlySpecs : Option HardwareSpec := none
  deriving DecidableEq, Repr

namespace RegionConfig

/-- How regions are read and written. -/
def record : Record RegionConfig where
  name := "RegionConfig"
  fields :=
    .cons (.required "providerName" .string) <|
    .cons (.required "regionName" .string) <|
    .cons (.required "priority" .uint32) <|
    .cons (.optional "electableSpecs" HardwareSpec.shape) <|
    .cons (.optional "readOnlySpecs" HardwareSpec.shape) .none
  ofRow := fun (providerName, regionName, priority, electableSpecs, readOnlySpecs, ()) =>
    { providerName, regionName, priority, electableSpecs, readOnlySpecs }
  toRow := fun region =>
    (region.providerName, region.regionName, region.priority, region.electableSpecs, region.readOnlySpecs, ())

/-- A region as a document. -/
def shape : Shape RegionConfig := record.shape

end RegionConfig

/-- The shards of one zone. -/
structure ReplicationSpec where
  id : Option String := none
  numShards : Option UInt32 := none
  zoneName : Option String := none
  regionConfigs : List RegionConfig := []
  deriving DecidableEq, Repr

namespace ReplicationSpec

/-- How zones are read and written. -/
def record : Record ReplicationSpec where
  name := "ReplicationSpec"
  fields :=
    .cons (.optional "id" .string) <|
    .cons (.optional "numShards" .uint32) <|
    .cons (.optional "zoneName" .string) <|
    .cons (.unlessEmpty "regionConfigs" RegionConfig.shape.list) .none
  ofRow := fun (id, numShards, zoneName, regionConfigs, ()) => { id, numShards, zoneName, regionConfigs }
  toRow := fun spec => (spec.id, spec.numShards, spec.zoneName, spec.regionConfigs, ())

/-- A zone as a document. -/
def shape : Shape ReplicationSpec := record.shape

end ReplicationSpec

/-- Settings of the processes of a cluster. -/
structure ProcessArgs where
  defaultReadConcern : Option String := none
  defaultWriteConcern : Option String := none
  failIndexKeyTooLong : Option Bool := none
  javascriptEnabled : Option Bool := none
  minimumTlsProtocol : Option String := none
  noTableScan : Option Bool := none
  oplogSize : Option UInt64 := none
  sampleSize : Option UInt64 := none
  sampleRefreshInterval : Option UInt64 := none
  deriving DecidableEq, Repr

namespace ProcessArgs

/-- How process settings are read and written. -/
def record : Record ProcessArgs where
  name := "ProcessArgs"
  fields :=
    .cons (.optional "defaultReadConcern" .string) <|
    .cons (.optional "defaultWriteConcern" .string) <|
    .cons (.optional "failIndexKeyTooLong" .bool) <|
    .cons (.optional "javascriptEnabled" .bool) <|
    .cons (.optional "minimumEnabledTlsProtocol" .string) <|
    .cons (.optional "noTableScan" .bool) <|
    .cons (.optional "oplogSizeMB" .uint64) <|
    .cons (.optional "sampleSizeBiConnector" .uint64) <|
    .cons (.optional "sampleRefreshIntervalBiConnector" .uint64) .none
  ofRow := fun (defaultReadConcern, defaultWriteConcern, failIndexKeyTooLong, javascriptEnabled,
      minimumTlsProtocol, noTableScan, oplogSize, sampleSize, sampleRefreshInterval, ()) =>
    { defaultReadConcern, defaultWriteConcern, failIndexKeyTooLong, javascriptEnabled, minimumTlsProtocol,
      noTableScan, oplogSize, sampleSize, sampleRefreshInterval }
  toRow := fun args =>
    (args.defaultReadConcern, args.defaultWriteConcern, args.failIndexKeyTooLong, args.javascriptEnabled,
      args.minimumTlsProtocol, args.noTableScan, args.oplogSize, args.sampleSize, args.sampleRefreshInterval, ())

/-- Process settings as a document. -/
def shape : Shape ProcessArgs := record.shape

end ProcessArgs

/-- Where clients connect. -/
structure ConnectionStrings where
  standard : Option String := none
  standardSrv : Option String := none
  private_ : Option String := none
  privateSrv : Option String := none
  deriving DecidableEq, Repr

namespace ConnectionStrings

/-- How connection strings are read and written. -/
def record : Record ConnectionStrings where
  name := "ConnectionStrings"
  fields :=
    .cons (.optional "standard" .string) <|
    .cons (.optional "standardSrv" .string) <|
    .cons (.optional "private" .string) <|
    .cons (.optional "privateSrv" .string) .none
  ofRow := fun (standard, standardSrv, private_, privateSrv, ()) => { standard, standardSrv, private_, privateSrv }
  toRow := fun strings => (strings.standard, strings.standardSrv, strings.private_, strings.privateSrv, ())

/-- Connection strings as a document. -/
def shape : Shape ConnectionStrings := record.shape

end ConnectionStrings

/-- A cluster as a caller wants it; the last five fields are assigned by the control plane. -/
structure ClusterModel where
  projectId : Option String := none
  name : Option String := none
  clusterType : Option String := none
  majorVersion : Option String := none
  replicationSpecs : Option (List ReplicationSpec) := none
  backupEnabled : Option Bool := none
  terminationProtectionEnabled : Option Bool := none
  /-- Whether the cluster is to be paused, once it is idle. -/
  paused : Option Bool := none
  labels : Option (List Label) := none
  /-- Process settings that are applied once the cluster is idle. -/
  advancedSettings : Option ProcessArgs := none
  id : Option String := none
  stateName : Option String := none
  createdDate : Option String := none
  version : Option String := none
  connectionStrings : Option ConnectionStrings := none
  deriving DecidableEq, Repr

namespace ClusterModel

/-- How cluster models are read and written. -/
def record : Record ClusterModel where
  name := "ClusterModel"
  fields :=
    .cons (.nullable "projectId" .string) <|
    .cons (.nullable "name" .string) <|
    .cons (.nullable "clusterType" .string) <|
    .cons (.nullable "mongoDBMajorVersion" .string) <|
    .cons (.nullable "replicationSpecs" ReplicationSpec.shape.list) <|
    .cons (.nullable "backupEnabled" .bool) <|
    .cons (.nullable "terminationProtectionEnabled" .bool) <|
    .cons (.nullable "paused" .bool) <|
    .cons (.nullable "labels" Label.shape.list) <|
    .cons (.nullable "advancedSettings" ProcessArgs.shape) <|
    .cons (.nullable "id" .string) <|
    .cons (.nullable "stateName" .string) <|
    .cons (.nullable "createdDate" .string) <|
    .cons (.nullable "mongoDBVersion" .string) <|
    .cons (.nullable "connectionStrings" ConnectionStrings.shape) .none
  ofRow := fun (projectId, name, clusterType, majorVersion, replicationSpecs, backupEnabled,
      terminationProtectionEnabled, paused, labels, advancedSettings, id, stateName, createdDate, version,
      connectionStrings, ()) =>
    { projectId, name, clusterType, majorVersion, replicationSpecs, backupEnabled, terminationProtectionEnabled,
      paused, labels, advancedSettings, id, stateName, createdDate, version, connectionStrings }
  toRow := fun model =>
    (model.projectId, model.name, model.clusterType, model.majorVersion, model.replicationSpecs,
      model.backupEnabled, model.terminationProtectionEnabled, model.paused, model.labels,
      model.advancedSettings, model.id, model.stateName, model.createdDate, model.version,
      model.connectionStrings, ())

/-- A cluster model as a document. -/
def shape : Shape ClusterModel := record.shape

end ClusterModel

/-- The body of a call that creates or changes a cluster. -/
structure ClusterRequest where
  name : Option String := none
  clusterType : Option String := none
  majorVersion : Option String := none
  replicationSpecs : Option (List ReplicationSpec) := none
  backupEnabled : Option Bool := none
  terminationProtectionEnabled : Option Bool := none
  paused : Option Bool := none
  labels : Option (List Label) := none
  deriving DecidableEq, Repr

namespace ClusterRequest

/-- How cluster requests are read and written. -/
def record : Record ClusterRequest where
  name := "ClusterRequest"
  fields :=
    .cons (.optional "name" .string) <|
    .cons (.optional "clusterType" .string) <|
    .cons (.optional "mongoDBMajorVersion" .string) <|
    .cons (.optional "replicationSpecs" ReplicationSpec.shape.list) <|
    .cons (.optional "backupEnabled" .bool) <|
    .cons (.optional "terminationProtectionEnabled" .bool) <|
    .cons (.optional "paused" .bool) <|
    .cons (.optional "labels" Label.shape.list) .none
  ofRow := fun (name, clusterType, majorVersion, replicationSpecs, backupEnabled, terminationProtectionEnabled,
      paused, labels, ()) =>
    { name, clusterType, majorVersion, replicationSpecs, backupEnabled, terminationProtectionEnabled, paused,
      labels }
  toRow := fun request =>
    (request.name, request.clusterType, request.majorVersion, request.replicationSpecs, request.backupEnabled,
      request.terminationProtectionEnabled, request.paused, request.labels, ())

/-- A cluster request as a document. -/
def shape : Shape ClusterRequest := record.shape

end ClusterRequest

/-- A cluster as the control plane reports it. -/
structure RemoteCluster where
  id : Option String := none
  name : String
  groupId : Option String := none
  stateName : String
  clusterType : Option String := none
  paused : Option Bool := none
  createdDate : Option String := none
  version : Option String := none
  majorVersion : Option String := none
  connectionStrings : Option ConnectionStrings := none
  replicationSpecs : Option (List ReplicationSpec) := none
  backupEnabled : Option Bool := none
  terminationProtectionEnabled : Option Bool := none
  labels : List Label := []
  deriving DecidableEq, Repr

namespace RemoteCluster

/-- How reported clusters are read and written. -/
def record : Record RemoteCluster where
  name := "RemoteCluster"
  fields :=
    .cons (.nullable "id" .string) <|
    .cons (.required "name" .string) <|
    .cons (.nullable "groupId" .string) <|
    .cons (.required "stateName" .string) <|
    .cons (.nullable "clusterType" .string) <|
    .cons (.nullable "paused" .bool) <|
    .cons (.nullable "createdDate" .string) <|
    .cons (.nullable "mongoDBVersion" .string) <|
    .cons (.nullable "mongoDBMajorVersion" .string) <|
    .cons (.nullable "connectionStrings" ConnectionStrings.shape) <|
    .cons (.nullable "replicationSpecs" ReplicationSpec.shape.list) <|
    .cons (.nullable "backupEnabled" .bool) <|
    .cons (.nullable "terminationProtectionEnabled" .bool) <|
    .cons (.listed "labels" Label.shape) .none
  ofRow := fun (id, name, groupId, stateName, clusterType, paused, createdDate, version, majorVersion,
      connectionStrings, replicationSpecs, backupEnabled, terminationProtectionEnabled, labels, ()) =>
    { id, name, groupId, stateName, clusterType, paused, createdDate, version, majorVersion, connectionStrings,
      replicationSpecs, backupEnabled, terminationProtectionEnabled, labels }
  toRow := fun remote =>
    (remote.id, remote.name, remote.groupId, remote.stateName, remote.clusterType, remote.paused,
      remote.createdDate, remote.version, remote.majorVersion, remote.connectionStrings,
      remote.replicationSpecs, remote.backupEnabled, remote.terminationProtectionEnabled, remote.labels, ())

/-- A reported cluster as a document. -/
def shape : Shape RemoteCluster := record.shape

/-- A cluster that does not say whether it is paused is not. -/
def isPaused (remote : RemoteCluster) : Bool :=
  remote.paused.getD false

end RemoteCluster

namespace ClusterModel

/-- The request that asks for a model. Pausing is never part of it: it is a call of its own. -/
def toRequest (model : ClusterModel) : ClusterRequest where
  name := model.name
  clusterType := model.clusterType
  majorVersion := model.majorVersion
  replicationSpecs := model.replicationSpecs
  backupEnabled := model.backupEnabled
  terminationProtectionEnabled := model.terminationProtectionEnabled
  labels := model.labels

/-- A model with what the control plane assigned. Labels are taken over except the reserved one, and only if
there are any. -/
def merge (reserved : Label) (model : ClusterModel) (remote : RemoteCluster) : ClusterModel :=
  let labels := remote.labels.filter (·.key ≠ reserved.key)
  { model with
    id := remote.id
    stateName := some remote.stateName
    createdDate := remote.createdDate
    version := remote.version
    connectionStrings := remote.connectionStrings
    paused := remote.paused.orElse fun _ => model.paused
    labels := if labels.isEmpty then model.labels else some labels }

/-- The model that a reported cluster of a project amounts to. -/
def ofRemote (reserved : Label) (projectId : String) (remote : RemoteCluster) : ClusterModel :=
  merge reserved
    { projectId := some projectId
      name := some remote.name
      clusterType := remote.clusterType
      majorVersion := remote.majorVersion
      replicationSpecs := remote.replicationSpecs
      backupEnabled := remote.backupEnabled
      terminationProtectionEnabled := remote.terminationProtectionEnabled }
    remote

end ClusterModel

end Provisioner
