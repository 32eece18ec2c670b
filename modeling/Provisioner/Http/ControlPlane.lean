import Provisioner.Gateway.Call
import Provisioner.Http.Client
import Provisioner.Http.Listing

/-!
# The control plane

Where each call to the control plane goes: its method, its path below the root of all groups, and its body.
Names stand in paths as they are.
-/
namespace Provisioner
open Http

/-- Where a call goes. -/
structure Route where
  method : Method
  path : String
  body : Option Json := none

namespace ControlPlane

/-- The root of all paths. -/
def root : String := "/api/atlas/v2/groups"

/-- The network provider of private endpoints. -/
def provider : String := "AWS"

/-- The path of the clusters of a project. -/
def clustersPath (project : String) : String := s!"{root}/{project}/clusters"

/-- The path of a cluster. -/
def clusterPath (project name : String) : String := s!"{root}/{project}/clusters/{name}"

/-- The path of a stream processor. -/
def processorPath (project workspace name : String) : String :=
  s!"{root}/{project}/streams/{workspace}/processor/{name}"

/-- The path of an endpoint service. -/
def servicePath (project service : String) : String :=
  s!"{root}/{project}/privateEndpoint/{provider}/endpointService/{service}"

/-- The path of an interface of a service. -/
def interfacePath (project service endpoint : String) : String :=
  s!"{servicePath project service}/endpoint/{endpoint}"

/-- The path of the export jobs of a cluster. -/
def exportsPath (project cluster : String) : String := s!"{root}/{project}/clusters/{cluster}/backup/exports"

end ControlPlane

open ControlPlane in
/-- Where a call goes. -/
def ControlCall.route (c : ControlCall) : Route :=
  match c with
  | createCluster project _ => ⟨.post, clustersPath project, c.body?⟩
  | getCluster project name => ⟨.get, clusterPath project name, none⟩
  | updateCluster project name _ => ⟨.patch, clusterPath project name, c.body?⟩
  | deleteCluster project name => ⟨.delete, clusterPath project name, none⟩
  | listClusters project => ⟨.get, clustersPath project, none⟩
  | updateProcessArgs project name _ => ⟨.patch, s!"{clusterPath project name}/processArgs", c.body?⟩
  | createProcessor project workspace _ => ⟨.post, s!"{root}/{project}/streams/{workspace}/processor", c.body?⟩
  | getProcessor project workspace name => ⟨.get, processorPath project workspace name, none⟩
  | updateProcessor project workspace name _ => ⟨.patch, processorPath project workspace name, c.body?⟩
  | deleteProcessor project workspace name => ⟨.delete, processorPath project workspace name, none⟩
  | listProcessors project workspace => ⟨.get, s!"{root}/{project}/streams/{workspace}/processors", none⟩
  | startProcessor project workspace name => ⟨.post, s!"{processorPath project workspace name}:start", none⟩
  | stopProcessor project workspace name => ⟨.post, s!"{processorPath project workspace name}:stop", none⟩
  | createService project region =>
    ⟨.post, s!"{root}/{project}/privateEndpoint/endpointService",
      some (.object [("providerName", .string provider), ("region", .string region)])⟩
  | getService project service => ⟨.get, servicePath project service, none⟩
  | deleteService project service => ⟨.delete, servicePath project service, none⟩
  | listServices project => ⟨.get, s!"{root}/{project}/privateEndpoint/{provider}/endpointService", none⟩
  | attachInterface project service endpoint =>
    ⟨.post, s!"{servicePath project service}/endpoint", some (.object [("id", .string endpoint)])⟩
  | getInterface project service endpoint => ⟨.get, interfacePath project service endpoint, none⟩
  | detachInterface project service endpoint => ⟨.delete, interfacePath project service endpoint, none⟩
  | createExport project cluster _ => ⟨.post, exportsPath project cluster, c.body?⟩
  | getExport project cluster job => ⟨.get, s!"{exportsPath project cluster}/{job}", none⟩
  | listExports project cluster => ⟨.get, exportsPath project cluster, none⟩

namespace ControlPlane
variable {ε : Type} (client : Client)

/-- A call that answers with a document. -/
def single {α : Type} (c : ControlCall) (shape : Shape α) : Program Web ε (Except GatewayError α) :=
  client.fetch c.route.method c.route.path [] c.route.body shape

/-- A call that answers with nothing that matters. -/
def plain (c : ControlCall) : Program Web ε (Except GatewayError Unit) :=
  client.act c.route.method c.route.path

/-- A call that answers with a list. -/
def paged {α : Type} (c : ControlCall) (item : Shape α) : Program Web ε (Except GatewayError (List α)) :=
  Listing.all fun pageNumber =>
    client.fetch c.route.method c.route.path (Listing.parameters pageNumber) none (Listing.shape item)

/-- A call as requests. -/
def perform : (c : ControlCall) → Program Web ε (Except GatewayError c.Result)
  | c@(.createCluster ..) => single client c RemoteCluster.shape
  | c@(.getCluster ..) => single client c RemoteCluster.shape
  | c@(.updateCluster ..) => single client c RemoteCluster.shape
  | c@(.deleteCluster ..) => plain client c
  | c@(.listClusters ..) => paged client c RemoteCluster.shape
  | c@(.updateProcessArgs ..) => single client c ProcessArgs.shape
  | c@(.createProcessor ..) => single client c RemoteStreamProcessor.shape
  | c@(.getProcessor ..) => single client c RemoteStreamProcessor.shape
  | c@(.updateProcessor ..) => single client c RemoteStreamProcessor.shape
  | c@(.deleteProcessor ..) => plain client c
  | c@(.listProcessors ..) => paged client c RemoteStreamProcessor.shape
  | c@(.startProcessor ..) => plain client c
  | c@(.stopProcessor ..) => plain client c
  | c@(.createService ..) => single client c EndpointService.shape
  | c@(.getService ..) => single client c EndpointService.shape
  | c@(.deleteService ..) => plain client c
  | c@(.listServices ..) => paged client c EndpointService.shape
  | c@(.attachInterface ..) => single client c InterfaceEndpoint.shape
  | c@(.getInterface ..) => single client c InterfaceEndpoint.shape
  | c@(.detachInterface ..) => plain client c
  | c@(.createExport ..) => single client c RemoteExportJob.shape
  | c@(.getExport ..) => single client c RemoteExportJob.shape
  | c@(.listExports ..) => paged client c RemoteExportJob.shape

end ControlPlane

end Provisioner
