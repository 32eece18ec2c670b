import Provisioner.Program
import Provisioner.Error
import Provisioner.Resource.Cluster
import Provisioner.Resource.StreamProcessor
import Provisioner.Resource.PrivateEndpoint
import Provisioner.Resource.ExportJob

/-!
# Calls

What a step can ask of the outside: of the control plane of the databases, and of the network provider. Every
call names the resource it is about, and its answer is a result of a fixed shape or an error.
-/
namespace Provisioner

/-- A call to the control plane of the databases. -/
inductive ControlCall where
  | createCluster (project : String) (request : ClusterRequest)
  | getCluster (project name : String)
  | updateCluster (project name : String) (request : ClusterRequest)
  | deleteCluster (project name : String)
  | listClusters (project : String)
  | updateProcessArgs (project name : String) (args : ProcessArgs)
  | createProcessor (project workspace : String) (request : StreamProcessorRequest)
  | getProcessor (project workspace name : String)
  | updateProcessor (project workspace name : String) (request : StreamProcessorRequest)
  | deleteProcessor (project workspace name : String)
  | listProcessors (project workspace : String)
  | startProcessor (project workspace name : String)
  | stopProcessor (project workspace name : String)
  | createService (project region : String)
  | getService (project service : String)
  | deleteService (project service : String)
  | listServices (project : String)
  | attachInterface (project service endpoint : String)
  | getInterface (project service endpoint : String)
  | detachInterface (project service endpoint : String)
  | createExport (project cluster : String) (request : ExportJobRequest)
  | getExport (project cluster job : String)
  | listExports (project cluster : String)
  deriving Repr

namespace ControlCall

/-- What a call results in. -/
abbrev Result : ControlCall → Type
  | createCluster .. => RemoteCluster
  | getCluster .. => RemoteCluster
  | updateCluster .. => RemoteCluster
  | deleteCluster .. => Unit
  | listClusters .. => List RemoteCluster
  | updateProcessArgs .. => ProcessArgs
  | createProcessor .. => RemoteStreamProcessor
  | getProcessor .. => RemoteStreamProcessor
  | updateProcessor .. => RemoteStreamProcessor
  | deleteProcessor .. => Unit
  | listProcessors .. => List RemoteStreamProcessor
  | startProcessor .. => Unit
  | stopProcessor .. => Unit
  | createService .. => EndpointService
  | getService .. => EndpointService
  | deleteService .. => Unit
  | listServices .. => List EndpointService
  | attachInterface .. => InterfaceEndpoint
  | getInterface .. => InterfaceEndpoint
  | detachInterface .. => Unit
  | createExport .. => RemoteExportJob
  | getExport .. => RemoteExportJob
  | listExports .. => List RemoteExportJob

/-- The shape of the result. -/
def resultShape : (c : ControlCall) → Shape c.Result
  | createCluster .. => RemoteCluster.shape
  | getCluster .. => RemoteCluster.shape
  | updateCluster .. => RemoteCluster.shape
  | deleteCluster .. => .unit
  | listClusters .. => RemoteCluster.shape.list
  | updateProcessArgs .. => ProcessArgs.shape
  | createProcessor .. => RemoteStreamProcessor.shape
  | getProcessor .. => RemoteStreamProcessor.shape
  | updateProcessor .. => RemoteStreamProcessor.shape
  | deleteProcessor .. => .unit
  | listProcessors .. => RemoteStreamProcessor.shape.list
  | startProcessor .. => .unit
  | stopProcessor .. => .unit
  | createService .. => EndpointService.shape
  | getService .. => EndpointService.shape
  | deleteService .. => .unit
  | listServices .. => EndpointService.shape.list
  | attachInterface .. => InterfaceEndpoint.shape
  | getInterface .. => InterfaceEndpoint.shape
  | detachInterface .. => .unit
  | createExport .. => RemoteExportJob.shape
  | getExport .. => RemoteExportJob.shape
  | listExports .. => RemoteExportJob.shape.list

/-- The name of a call. -/
def name : ControlCall → String
  | createCluster .. => "create_cluster"
  | getCluster .. => "get_cluster"
  | updateCluster .. => "update_cluster"
  | deleteCluster .. => "delete_cluster"
  | listClusters .. => "list_clusters"
  | updateProcessArgs .. => "update_process_args"
  | createProcessor .. => "create_processor"
  | getProcessor .. => "get_processor"
  | updateProcessor .. => "update_processor"
  | deleteProcessor .. => "delete_processor"
  | listProcessors .. => "list_processors"
  | startProcessor .. => "start_processor"
  | stopProcessor .. => "stop_processor"
  | createService .. => "create_service"
  | getService .. => "get_service"
  | deleteService .. => "delete_service"
  | listServices .. => "list_services"
  | attachInterface .. => "attach_interface"
  | getInterface .. => "get_interface"
  | detachInterface .. => "detach_interface"
  | createExport .. => "create_export"
  | getExport .. => "get_export"
  | listExports .. => "list_exports"

/-- The names that say which resource a call is about, from the project down. -/
def names : ControlCall → List String
  | createCluster project _ => [project]
  | getCluster project name => [project, name]
  | updateCluster project name _ => [project, name]
  | deleteCluster project name => [project, name]
  | listClusters project => [project]
  | updateProcessArgs project name _ => [project, name]
  | createProcessor project workspace _ => [project, workspace]
  | getProcessor project workspace name => [project, workspace, name]
  | updateProcessor project workspace name _ => [project, workspace, name]
  | deleteProcessor project workspace name => [project, workspace, name]
  | listProcessors project workspace => [project, workspace]
  | startProcessor project workspace name => [project, workspace, name]
  | stopProcessor project workspace name => [project, workspace, name]
  | createService project region => [project, region]
  | getService project service => [project, service]
  | deleteService project service => [project, service]
  | listServices project => [project]
  | attachInterface project service endpoint => [project, service, endpoint]
  | getInterface project service endpoint => [project, service, endpoint]
  | detachInterface project service endpoint => [project, service, endpoint]
  | createExport project cluster _ => [project, cluster]
  | getExport project cluster job => [project, cluster, job]
  | listExports project cluster => [project, cluster]

/-- The document that goes with a call beside its names. -/
def body? : ControlCall → Option Json
  | createCluster _ request => some (ClusterRequest.shape.write request)
  | updateCluster _ _ request => some (ClusterRequest.shape.write request)
  | updateProcessArgs _ _ args => some (ProcessArgs.shape.write args)
  | createProcessor _ _ request => some (StreamProcessorRequest.shape.write request)
  | updateProcessor _ _ _ request => some (StreamProcessorRequest.shape.write request)
  | createExport _ _ request => some (ExportJobRequest.shape.write request)
  | _ => none

end ControlCall

/-- A call to the network provider. -/
inductive NetworkCall where
  | createEndpoint (region serviceName vpcId : String) (subnetIds : List String)
  /-- Asks for endpoints by their ids; those that do not exist are left out of the answer. -/
  | describeEndpoints (region : String) (endpointIds : List String)
  | deleteEndpoints (region : String) (endpointIds : List String)
  deriving DecidableEq, Repr

namespace NetworkCall

/-- What a call results in. -/
abbrev Result : NetworkCall → Type
  | createEndpoint .. => NetworkEndpoint
  | describeEndpoints .. => List NetworkEndpoint
  | deleteEndpoints .. => Unit

/-- The shape of the result. -/
def resultShape : (c : NetworkCall) → Shape c.Result
  | createEndpoint .. => NetworkEndpoint.shape
  | describeEndpoints .. => NetworkEndpoint.shape.list
  | deleteEndpoints .. => .unit

/-- The name of a call. -/
def name : NetworkCall → String
  | createEndpoint .. => "create_endpoint"
  | describeEndpoints .. => "describe_endpoints"
  | deleteEndpoints .. => "delete_endpoints"

/-- The arguments of a call, as documents. -/
def arguments : NetworkCall → List Json
  | createEndpoint region serviceName vpcId subnetIds =>
    [.string region, .string serviceName, .string vpcId, Shape.string.list.write subnetIds]
  | describeEndpoints region endpointIds => [.string region, Shape.string.list.write endpointIds]
  | deleteEndpoints region endpointIds => [.string region, Shape.string.list.write endpointIds]

end NetworkCall

/-- A call to either side. -/
inductive Call where
  | control (c : ControlCall)
  | network (c : NetworkCall)
  deriving Repr

namespace Call

/-- What a call results in. -/
abbrev Result : Call → Type
  | control c => c.Result
  | network c => c.Result

/-- The shape of the result. -/
def resultShape : (c : Call) → Shape c.Result
  | control c => c.resultShape
  | network c => c.resultShape

/-- The name of a call. -/
def name : Call → String
  | control c => c.name
  | network c => c.name

/-- The arguments of a call, as documents. -/
def arguments : Call → List Json
  | control c => c.names.map Json.string ++ c.body?.toList
  | network c => c.arguments

end Call

/-- Without a network provider no call to it succeeds. -/
def GatewayError.noNetworkProvider : GatewayError :=
  .unsupported "network provider support is not compiled in; rebuild with the `aws` feature"

/-- The calls of a step, each answered with its result or an error. -/
abbrev Gateway : Interface where
  Call := Call
  Answer := fun c => Except GatewayError c.Result

/-- What a step does: calls that may fail. -/
abbrev Action : Type → Type := Program Gateway ProvisionError

namespace Action

/-- The answer of the control plane, be it an error. -/
def control? (c : ControlCall) : Action (Except GatewayError c.Result) :=
  Program.ask (ι := Gateway) (.control c)

/-- The answer of the network provider, be it an error. -/
def network? (c : NetworkCall) : Action (Except GatewayError c.Result) :=
  Program.ask (ι := Gateway) (.network c)

/-- The result of a call; an error ends the step. -/
def require {α : Type} : Except GatewayError α → Action α
  | .ok result => .done result
  | .error error => .fail (.gateway error)

/-- The result of a call to the control plane; an error ends the step. -/
def control (c : ControlCall) : Action c.Result :=
  control? c >>= require

/-- The result of a call to the network provider; an error ends the step. -/
def network (c : NetworkCall) : Action c.Result :=
  network? c >>= require

end Action

end Provisioner
